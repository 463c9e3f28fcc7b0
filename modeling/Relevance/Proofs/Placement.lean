import Relevance.Query.Token

/-! Where boosts stand among the tokens of a query: directly after what they can apply to. -/

set_option autoImplicit false

namespace Relevance.Query

/-- Every boost stands directly after a token that accepts one; `previous` is the token before the
list. -/
def BoostsPlaced (previous : Option Token) : List Token → Prop
  | [] => True
  | token :: rest =>
    (∀ text, token = .boost text → previous.any Token.acceptsBoost = true) ∧
      BoostsPlaced (some token) rest

theorem boostsPlaced_append {previous : Option Token} {front rest : List Token} :
    BoostsPlaced previous (front ++ rest) ↔
      BoostsPlaced previous front ∧ BoostsPlaced (front.getLast?.or previous) rest := by
  induction front generalizing previous with
  | nil => simp [BoostsPlaced]
  | cons token front ih =>
    have same : (token :: front).getLast?.or previous = front.getLast?.or (some token) := by
      rw [List.getLast?_cons]
      cases front.getLast? <;> rfl
    rw [List.cons_append, BoostsPlaced, BoostsPlaced, ih, same, and_assoc]

namespace Token

theorem ofWord_ne_boost (escaped : Bool) (text body : String) :
    ofWord escaped text ≠ .boost body := by
  unfold ofWord
  split
  · simp
  · split
    · simp
    · split
      · simp
      · split <;> simp

theorem boostable_of_read {boostable : Bool} {c : Char} {rest after : List Char} {text : String}
    (found : read boostable c rest = .ok (.boost text, after)) : boostable = true := by
  generalize isBoost : Token.boost text = token at found
  cases lexeme_of_read found with
  | boost _ boostable => exact boostable
  | word => exact (ofWord_ne_boost _ _ _ isBoost.symm).elim
  | _ => contradiction

theorem boostsPlaced_readFrom {adjacent : Bool} {done tokens : List Token} {chars : List Char}
    (found : readFrom adjacent done chars = .ok tokens) :
    ∃ rest, tokens = done.reverse ++ rest ∧ BoostsPlaced done.head? rest := by
  -- The head of `done` is the token read last, which is the one that a boost would stand after.
  fun_induction readFrom adjacent done chars with
  | case1 adjacent done =>
    obtain rfl := Except.ok.inj found
    exact ⟨[], (List.append_nil _).symm, trivial⟩
  | case2 adjacent done c rest blank ih => exact ih found
  | case3 => simp at found
  | case4 adjacent done c rest solid token after read shorter ih =>
    obtain ⟨rest, rfl, placed⟩ := ih found
    refine ⟨token :: rest, by simp, ?_, placed⟩
    intro text isBoost
    subst isBoost
    have boostable := boostable_of_read read
    rw [Bool.and_eq_true] at boostable
    exact boostable.2

/-- The tokens of a query have their boosts in place. -/
theorem boostsPlaced_ofQuery {query : String} {tokens : List Token}
    (found : ofQuery query = .ok tokens) : BoostsPlaced none tokens := by
  obtain ⟨rest, rfl, placed⟩ := boostsPlaced_readFrom found
  exact placed

end Token

end Relevance.Query
