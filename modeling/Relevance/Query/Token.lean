import Relevance.Unicode.Properties

/-! The tokens of query syntax, and what can be wrong with a query.

A backslash takes the meaning from the character after it. A boost stands directly after a word, a
phrase or a closing parenthesis.
-/

set_option autoImplicit false

namespace Relevance.Query

def maxDepth : Nat := 64

inductive ParseError where
  | emptyQuery
  | unbalancedGrouping
  | invalidBoost
  | danglingNot
  | missingOperand
  | nestingTooDeep
  deriving DecidableEq, Repr

def ParseError.message : ParseError → String
  | .emptyQuery => "query has no terms"
  | .unbalancedGrouping => "unbalanced parentheses or quotes"
  | .invalidBoost => "boost must be a positive number directly after a term, phrase or group"
  | .danglingNot => "negated query has nothing to exclude from"
  | .missingOperand => "operator is missing an operand"
  | .nestingTooDeep => "groups are nested more than " ++ toString maxDepth ++ " deep"

inductive Token where
  | word (text : String)
  | phrase (text : String)
  | boost (text : String)
  | leftParen
  | rightParen
  | and
  | or
  | not
  deriving DecidableEq, Repr

namespace Token

def isLeaf : Token → Bool
  | word _ | phrase _ => true
  | _ => false

def startsOperand : Token → Bool
  | word _ | phrase _ | leftParen | not => true
  | _ => false

def acceptsBoost : Token → Bool
  | word _ | phrase _ | rightParen => true
  | _ => false

def isBoundary (c : Char) : Bool :=
  Unicode.isWhitespace c || c == '(' || c == ')' || c == '"' || c == '^'

def ofWord (escaped : Bool) (text : String) : Token :=
  if escaped then word text
  else if text = "AND" then and
  else if text = "OR" then or
  else if text = "NOT" then not
  else word text

/-- Reads the rest of a word, of which the part before is given with its last character first. Also
says whether a character was escaped. -/
def readWord (text : List Char) (escaped : Bool) : List Char → List Char × Bool × List Char
  | [] => (text.reverse, escaped, [])
  | '\\' :: c :: rest => readWord (c :: text) true rest
  | c :: rest =>
    if isBoundary c then (text.reverse, escaped, c :: rest)
    else readWord (c :: text) escaped rest

def readPhrase? (text : List Char) : List Char → Option (List Char × List Char)
  | [] => none
  | '\\' :: c :: rest => readPhrase? (c :: text) rest
  | '"' :: rest => some (text.reverse, rest)
  | c :: rest => readPhrase? (c :: text) rest

def readBoost? (rest : List Char) : Option (List Char × List Char) :=
  let text := rest.takeWhile (!isBoundary ·)
  if text.isEmpty then none else some (text, rest.dropWhile (!isBoundary ·))

def readWordFrom (c : Char) (rest : List Char) : List Char × Bool × List Char :=
  match c, rest with
  | '\\', c :: rest => readWord [c] true rest
  | c, rest => readWord [c] false rest

def read (boostable : Bool) (c : Char) (rest : List Char) : Except ParseError (Token × List Char) :=
  match c, rest with
  | '(', rest => .ok (leftParen, rest)
  | ')', rest => .ok (rightParen, rest)
  | '"', rest =>
    match readPhrase? [] rest with
    | some (text, rest) => .ok (phrase (String.ofList text), rest)
    | none => .error .unbalancedGrouping
  | '^', rest =>
    match if boostable then readBoost? rest else none with
    | some (text, rest) => .ok (boost (String.ofList text), rest)
    | none => .error .invalidBoost
  | '&', '&' :: rest => .ok (and, rest)
  | '|', '|' :: rest => .ok (or, rest)
  | '!', rest => .ok (not, rest)
  | '-', rest => .ok (not, rest)
  | c, rest =>
    let (text, escaped, rest) := readWordFrom c rest
    .ok (ofWord escaped (String.ofList text), rest)

theorem length_readWord (text : List Char) (escaped : Bool) (chars : List Char) :
    (readWord text escaped chars).2.2.length ≤ chars.length := by
  fun_induction readWord text escaped chars with
  | case1 => simp
  | case2 => simp only [List.length_cons]; omega
  | case3 => simp
  | case4 => simp only [List.length_cons]; omega

theorem length_of_readPhrase? {text chars body rest : List Char}
    (found : readPhrase? text chars = some (body, rest)) : rest.length ≤ chars.length := by
  fun_induction readPhrase? text chars with
  | case1 => simp at found
  | case2 _ _ _ ih => have := ih found; simp only [List.length_cons]; omega
  | case3 =>
    simp only [Option.some.injEq, Prod.mk.injEq] at found
    simp [found.2]
  | case4 _ _ _ _ _ ih => have := ih found; simp only [List.length_cons]; omega

theorem length_of_readBoost? {chars text rest : List Char}
    (found : readBoost? chars = some (text, rest)) : rest.length ≤ chars.length := by
  simp only [readBoost?] at found
  split at found
  · simp at found
  · simp only [Option.some.injEq, Prod.mk.injEq] at found
    exact found.2 ▸ (List.dropWhile_sublist _).length_le

theorem length_readWordFrom (c : Char) (rest : List Char) :
    (readWordFrom c rest).2.2.length ≤ rest.length := by
  unfold readWordFrom
  split
  · exact Nat.le_succ_of_le (length_readWord ..)
  · exact length_readWord ..

structure StartsWord (c : Char) (rest : List Char) : Prop where
  noMark : c ∉ ['(', ')', '"', '^', '!', '-']
  noAnd : c = '&' → rest.head? ≠ some '&'
  noOr : c = '|' → rest.head? ≠ some '|'

/-- All that can be read from a character and the text behind it: the token, and what is left. -/
inductive Lexeme (boostable : Bool) (c : Char) (rest : List Char) : Token → List Char → Prop where
  | leftParen : c = '(' → Lexeme boostable c rest leftParen rest
  | rightParen : c = ')' → Lexeme boostable c rest rightParen rest
  | bang : c = '!' → Lexeme boostable c rest not rest
  | minus : c = '-' → Lexeme boostable c rest not rest
  | and {after : List Char} : c = '&' → rest = '&' :: after → Lexeme boostable c rest and after
  | or {after : List Char} : c = '|' → rest = '|' :: after → Lexeme boostable c rest or after
  | phrase {text after : List Char} : c = '"' → readPhrase? [] rest = some (text, after) →
      Lexeme boostable c rest (phrase (String.ofList text)) after
  | boost {text after : List Char} : c = '^' → boostable = true →
      readBoost? rest = some (text, after) →
      Lexeme boostable c rest (boost (String.ofList text)) after
  | word : StartsWord c rest →
      Lexeme boostable c rest (ofWord (readWordFrom c rest).2.1
        (String.ofList (readWordFrom c rest).1)) (readWordFrom c rest).2.2

theorem lexeme_of_read {boostable : Bool} {c : Char} {rest after : List Char} {token : Token}
    (found : read boostable c rest = .ok (token, after)) :
    Lexeme boostable c rest token after := by
  unfold read at found
  split at found
  case h_3 =>
    split at found
    · next closed =>
      obtain ⟨rfl, rfl⟩ := Prod.mk.inj (Except.ok.inj found)
      exact .phrase rfl closed
    · contradiction
  case h_4 =>
    split at found
    · next taken =>
      obtain ⟨rfl, rfl⟩ := Prod.mk.inj (Except.ok.inj found)
      cases boostable with
      | false => contradiction
      | true => exact .boost rfl rfl taken
    · contradiction
  case h_9 noOpen noClose noQuote noBoost noBang noMinus noAnd noOr =>
    obtain ⟨rfl, rfl⟩ := Prod.mk.inj (Except.ok.inj found)
    refine .word ⟨?_, fun same head => ?_, fun same head => ?_⟩
    · simp only [List.mem_cons, List.not_mem_nil, or_false, not_or]
      exact ⟨noOpen, noClose, noQuote, noBoost, noBang, noMinus⟩
    · obtain ⟨after, isCons⟩ := List.head?_eq_some_iff.mp head
      exact noAnd after same isCons
    · obtain ⟨after, isCons⟩ := List.head?_eq_some_iff.mp head
      exact noOr after same isCons
  all_goals obtain ⟨rfl, rfl⟩ := Prod.mk.inj (Except.ok.inj found)
  · exact .leftParen rfl
  · exact .rightParen rfl
  · exact .and rfl rfl
  · exact .or rfl rfl
  · exact .bang rfl
  · exact .minus rfl

theorem length_of_read {boostable : Bool} {c : Char} {rest after : List Char} {token : Token}
    (found : read boostable c rest = .ok (token, after)) : after.length ≤ rest.length := by
  cases lexeme_of_read found with
  | leftParen | rightParen | bang | minus => exact Nat.le_refl _
  | and _ same | or _ same => exact same ▸ Nat.le_succ _
  | phrase _ closed => exact length_of_readPhrase? closed
  | boost _ _ taken => exact length_of_readBoost? taken
  | word => exact length_readWordFrom c rest

/-- Reads the rest of a query. The tokens before it are given with the last one first; `adjacent`
says whether the last one ends directly before the rest. -/
def readFrom (adjacent : Bool) (done : List Token) : List Char → Except ParseError (List Token)
  | [] => .ok done.reverse
  | c :: rest =>
    if Unicode.isWhitespace c then readFrom false done rest
    else
      match found : read (adjacent && done.head?.any acceptsBoost) c rest with
      | .error error => .error error
      | .ok (token, after) =>
        have := length_of_read found
        readFrom true (token :: done) after
termination_by chars => chars.length

def ofQuery (query : String) : Except ParseError (List Token) :=
  readFrom false [] query.toList

end Token

end Relevance.Query
