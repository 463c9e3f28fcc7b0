import Relevance.Analysis.Analyzer
import Relevance.Decimal.Reading
import Relevance.Query.Basic
import Relevance.Query.Token

/-! Queries read from query syntax.

    disjunction := conjunction (("OR" | nothing) conjunction)*
    conjunction := operand ("AND" operand)*
    operand     := "NOT" operand | primary
    primary     := (word | phrase | "(" disjunction ")" | "(" ")") boost?

Words and phrases go through an analyzer. An operand that is left without terms is dropped, and so
is a combination whose operands are all dropped.
-/

set_option autoImplicit false

namespace Relevance.Query

open Analysis

def boostOfText? (text : String) : Option Float :=
  match Decimal.read? text.toList with
  | some boost => if boost.isFinite && 0.0 < boost then some boost else none
  | none => none

def checkGrouping (depth : Nat) : List Token → Except ParseError Unit
  | [] => if depth = 0 then .ok () else .error .unbalancedGrouping
  | .leftParen :: rest =>
    if maxDepth ≤ depth then .error .nestingTooDeep else checkGrouping (depth + 1) rest
  | .rightParen :: rest =>
    match depth with
    | 0 => .error .unbalancedGrouping
    | depth + 1 => checkGrouping depth rest
  | _ :: rest => checkGrouping depth rest

def operandBegins (tokens : List Token) : Bool :=
  tokens.head?.any Token.startsOperand

/-- What was read from the front of a token list, with fewer tokens left than a bound. There is no
query where all terms were dropped. -/
abbrev Parsed (bound : Nat) : Type :=
  Option Query × { rest : List Token // rest.length < bound }

/-- Takes a run of negations from the front of a token list. Two of them cancel out, so only the
parity of their number counts. -/
def takeNegations (negated : Bool) : List Token → Except ParseError (Bool × List Token)
  | .not :: rest =>
    if operandBegins rest then takeNegations (!negated) rest else .error .missingOperand
  | tokens => .ok (negated, tokens)

theorem length_of_takeNegations {negated odd : Bool} {tokens rest : List Token}
    (taken : takeNegations negated tokens = .ok (odd, rest)) : rest.length ≤ tokens.length := by
  fun_induction takeNegations negated tokens with
  | case1 _ _ _ ih => exact Nat.le_succ_of_le (ih taken)
  | case2 => simp at taken
  | case3 =>
    simp only [Except.ok.injEq, Prod.mk.injEq] at taken
    simp [taken.2]

def takeBoost {bound : Nat} (node : Option Query) (tokens : List Token)
    (shorter : tokens.length < bound) : Except ParseError (Parsed bound) :=
  match tokens, shorter with
  | .boost text :: rest, shorter =>
    match boostOfText? text with
    | some factor => .ok (node.map (boost factor), ⟨rest, Nat.lt_of_succ_lt shorter⟩)
    | none => .error .invalidBoost
  | tokens, shorter => .ok (node, ⟨tokens, shorter⟩)

def leaf? (analyzer : Analyzer) (text : String) : Option Query :=
  ofTerms? (analyzer.termsOf text)

-- A function calls those above it on what is left of its tokens, and only a group starts over with
-- the last one, so the measure counts the tokens first and then the place of the function.
mutual

def parsePrimary (analyzer : Analyzer) (depth : Nat) (tokens : List Token) :
    Except ParseError (Parsed tokens.length) :=
  match tokens with
  | .word text :: rest | .phrase text :: rest =>
    takeBoost (leaf? analyzer text) rest (Nat.lt_succ_self _)
  | .leftParen :: rest =>
    if maxDepth ≤ depth then .error .nestingTooDeep
    else
      match rest with
      -- a group of nothing is one whose terms were all dropped
      | .rightParen :: rest => takeBoost none rest (Nat.lt_succ_of_lt (Nat.lt_succ_self _))
      | rest =>
        match parseDisjunction analyzer (depth + 1) rest with
        | .error error => .error error
        | .ok (node, ⟨.rightParen :: after, shorter⟩) =>
          takeBoost node after (Nat.lt_succ_of_lt (Nat.lt_of_succ_lt shorter))
        | .ok _ => .error .unbalancedGrouping
  | .rightParen :: _ => if depth = 0 then .error .unbalancedGrouping else .error .missingOperand
  | .boost _ :: _ => .error .invalidBoost
  | _ => .error .missingOperand
termination_by 6 * tokens.length
decreasing_by simp only [List.length_cons]; omega

def parseOperand (analyzer : Analyzer) (depth : Nat) (tokens : List Token) :
    Except ParseError (Parsed tokens.length) :=
  match taken : takeNegations false tokens with
  | .error error => .error error
  | .ok (negated, rest) =>
    have le := length_of_takeNegations taken
    match parsePrimary analyzer depth rest with
    | .error error => .error error
    | .ok (node, ⟨after, shorter⟩) =>
      .ok (if negated then node.map negate else node, ⟨after, Nat.lt_of_lt_of_le shorter le⟩)
termination_by 6 * tokens.length + 1
decreasing_by all_goals omega

/-- Reads the further operands of a conjunction; those before are given with the last one first. -/
def parseConjuncts (analyzer : Analyzer) (depth bound : Nat) (operands : List Query)
    (tokens : List Token) (shorter : tokens.length < bound) : Except ParseError (Parsed bound) :=
  match tokens, shorter with
  | .and :: rest, shorter =>
    if operandBegins rest then
      match parseOperand analyzer depth rest with
      | .error error => .error error
      | .ok (node, ⟨after, less⟩) =>
        parseConjuncts analyzer depth bound (node.toList ++ operands) after
          (Nat.lt_trans less (Nat.lt_of_succ_lt shorter))
    else .error .missingOperand
  | tokens, shorter => .ok (conjunction? operands.reverse, ⟨tokens, shorter⟩)
termination_by 6 * tokens.length + 2
decreasing_by all_goals simp only [List.length_cons]; omega

def parseConjunction (analyzer : Analyzer) (depth : Nat) (tokens : List Token) :
    Except ParseError (Parsed tokens.length) :=
  match parseOperand analyzer depth tokens with
  | .error error => .error error
  | .ok (node, ⟨after, shorter⟩) =>
    parseConjuncts analyzer depth tokens.length node.toList after shorter
termination_by 6 * tokens.length + 3
decreasing_by all_goals omega

def parseDisjuncts (analyzer : Analyzer) (depth bound : Nat) (operands : List Query)
    (tokens : List Token) (shorter : tokens.length < bound) : Except ParseError (Parsed bound) :=
  match tokens, shorter with
  | .or :: rest, shorter =>
    if operandBegins rest then
      match parseConjunction analyzer depth rest with
      | .error error => .error error
      | .ok (node, ⟨after, less⟩) =>
        parseDisjuncts analyzer depth bound (node.toList ++ operands) after
          (Nat.lt_trans less (Nat.lt_of_succ_lt shorter))
    else .error .missingOperand
  | tokens, shorter =>
    if operandBegins tokens then
      match parseConjunction analyzer depth tokens with
      | .error error => .error error
      | .ok (node, ⟨after, less⟩) =>
        parseDisjuncts analyzer depth bound (node.toList ++ operands) after
          (Nat.lt_trans less shorter)
    else .ok (disjunction? operands.reverse, ⟨tokens, shorter⟩)
termination_by 6 * tokens.length + 4
decreasing_by
  · simp only [List.length_cons]; omega
  · simp only [List.length_cons]; omega
  · omega
  · omega

def parseDisjunction (analyzer : Analyzer) (depth : Nat) (tokens : List Token) :
    Except ParseError (Parsed tokens.length) :=
  match parseConjunction analyzer depth tokens with
  | .error error => .error error
  | .ok (node, ⟨after, shorter⟩) =>
    parseDisjuncts analyzer depth tokens.length node.toList after shorter
termination_by 6 * tokens.length + 5
decreasing_by all_goals omega

end

def ofTokens (analyzer : Analyzer) (tokens : List Token) : Except ParseError Query :=
  if tokens.isEmpty then .error .emptyQuery
  else
    match checkGrouping 0 tokens with
    | .error error => .error error
    | .ok () =>
      if tokens.any Token.isLeaf then
        match parseDisjunction analyzer 0 tokens with
        | .error error => .error error
        | .ok (_, ⟨_ :: _, _⟩) => .error .unbalancedGrouping
        | .ok (some (neg _), _) => .error .danglingNot
        | .ok (some query, _) => .ok query
        | .ok (none, _) => .error .emptyQuery
      else .error .emptyQuery

def parse (analyzer : Analyzer) (text : String) : Except ParseError Query :=
  match Token.ofQuery text with
  | .error error => .error error
  | .ok tokens => ofTokens analyzer tokens

end Relevance.Query
