import Relevance.Proofs.Expression

/-! Tokens that stand where they cannot stand, seen from their neighbours alone. -/

set_option autoImplicit false

namespace Relevance.Query

/-- What is wrong with a token between the one before it and those after it. An operator needs an
operand behind it; one that joins two operands cannot stand first in a query or a group; and a boost
has to be a positive finite number. -/
def fault? (previous : Option Token) (token : Token) (rest : List Token) : Option ParseError :=
  match token with
  | .and | .or =>
    if previous = none ∨ previous = some .leftParen ∨ operandBegins rest = false then
      some .missingOperand
    else none
  | .not => if operandBegins rest then none else some .missingOperand
  | .boost text => if (boostOfText? text).isSome then none else some .invalidBoost
  | _ => none

def firstFault? (previous : Option Token) : List Token → Option ParseError
  | [] => none
  | token :: rest => (fault? previous token rest).or (firstFault? (some token) rest)

variable {previous : Option Token} {token : Token} {rest : List Token}

theorem firstFault?_of_fault {error : ParseError}
    (fault : fault? previous token rest = some error) :
    firstFault? previous (token :: rest) = some error := by
  rw [firstFault?, fault, Option.some_or]

theorem firstFault?_of_none (sound : fault? previous token rest = none) :
    firstFault? previous (token :: rest) = firstFault? (some token) rest := by
  rw [firstFault?, sound, Option.none_or]

namespace Grammar

/-- In an expression no token is at fault, whatever stands around it. -/
theorem Expression.firstFault? {tokens : List Token} (expression : Expression tokens) :
    ∃ last, tokens.getLast? = some last ∧ last ≠ .leftParen ∧
      ∀ previous rest, firstFault? previous (tokens ++ rest) = firstFault? (some last) rest := by
  -- The last token is carried along: an operator that comes next looks back at it.
  induction expression with
  | @leaf token leaf =>
    refine ⟨token, rfl, by rintro rfl; contradiction, fun previous rest => ?_⟩
    apply firstFault?_of_none
    unfold Token.isLeaf at leaf
    split at leaf <;> first | rfl | contradiction
  | emptyGroup => exact ⟨.rightParen, rfl, nofun, fun _ _ => rfl⟩
  | group _ ih =>
    obtain ⟨last, -, -, clean⟩ := ih
    refine ⟨.rightParen, by simp [List.getLast?_cons], nofun, fun previous rest => ?_⟩
    rw [List.cons_append, List.append_assoc, firstFault?_of_none rfl, clean]
    rfl
  | @boosted _ text _ _ read ih =>
    obtain ⟨last, -, -, clean⟩ := ih
    refine ⟨.boost text, by simp, nofun, fun previous rest => ?_⟩
    rw [List.append_assoc, clean]
    apply firstFault?_of_none
    simp [fault?, boostOfText?_eq_some.mpr read]
  | not expression ih =>
    obtain ⟨last, isLast, noParen, clean⟩ := ih
    refine ⟨last, by simp [List.getLast?_cons, isLast], noParen, fun previous rest => ?_⟩
    rw [List.cons_append, firstFault?_of_none, clean]
    simp [fault?, operandBegins_append expression.begins]
  | @operator _ _ token operator _ second firstIH secondIH =>
    obtain ⟨before, -, joined, firstClean⟩ := firstIH
    obtain ⟨last, isLast, noParen, secondClean⟩ := secondIH
    refine ⟨last, by simp [List.getLast?_append, isLast, List.getLast?_cons], noParen, ?_⟩
    intro previous rest
    rw [List.append_assoc, firstClean, List.cons_append, firstFault?_of_none, secondClean]
    rcases operator with rfl | rfl <;>
      simp [fault?, operandBegins_append second.begins, joined]
  | adjacent _ _ firstIH secondIH =>
    obtain ⟨before, -, -, firstClean⟩ := firstIH
    obtain ⟨last, isLast, noParen, secondClean⟩ := secondIH
    refine ⟨last, by simp [List.getLast?_append, isLast], noParen, fun previous rest => ?_⟩
    rw [List.append_assoc, firstClean, secondClean]

end Grammar

end Relevance.Query
