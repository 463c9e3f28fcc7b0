import Relevance.Proofs.Grouping

/-! Token lists in which parentheses pair up and nest within a limit, whatever stands around them,
and what such lists can be put together from. -/

set_option autoImplicit false

namespace Relevance.Query

variable {depth limit : Int} {room room' : Nat} {token : Token} {tokens front rest : List Token}

theorem depthAfter_add (depth shift : Int) (tokens : List Token) :
    depthAfter (depth + shift) tokens = depthAfter depth tokens + shift := by
  induction tokens generalizing depth with
  | nil => rfl
  | cons token rest ih =>
    rw [depthAfter_cons, depthAfter_cons, ← ih]
    congr 1
    omega

theorem nestsWithin_nil : NestsWithin limit depth [] ↔ depth ≤ limit := by
  simp [NestsWithin]

theorem nestsWithin_cons : NestsWithin limit depth (token :: rest) ↔
    depth ≤ limit ∧ NestsWithin limit (depth + token.rise) rest := by
  unfold NestsWithin
  rw [forall_front_cons]
  rfl

theorem nestsWithin_append : NestsWithin limit depth (front ++ rest) ↔
    NestsWithin limit depth front ∧ NestsWithin limit (depthAfter depth front) rest := by
  refine ⟨fun within => ⟨within.left, within.right⟩, fun ⟨first, second⟩ part isPart => ?_⟩
  rcases List.prefix_or_prefix_of_prefix isPart (List.prefix_append front rest) with
    inFront | ⟨behind, rfl⟩
  · exact first part inFront
  · rw [depthAfter_append]
    exact second behind ((List.prefix_append_right_inj front).mp isPart)

theorem nestsWithin_add (shift : Int) :
    NestsWithin (limit + shift) (depth + shift) tokens ↔ NestsWithin limit depth tokens := by
  simp only [NestsWithin, depthAfter_add, Int.add_le_add_iff_right]

structure Paired (room : Nat) (tokens : List Token) : Prop where
  level : ∀ depth, depthAfter depth tokens = depth
  within : NestsWithin room 0 tokens

theorem Paired.within_add (paired : Paired room tokens) (depth : Int) :
    NestsWithin (room + depth) depth tokens := by
  have shifted := (nestsWithin_add depth).mpr paired.within
  rwa [Int.zero_add] at shifted

theorem paired_nil (room : Nat) : Paired room [] where
  level _ := rfl
  within := nestsWithin_nil.mpr (Int.natCast_nonneg room)

theorem Paired.append (first : Paired room front) (second : Paired room rest) :
    Paired room (front ++ rest) where
  level depth := by rw [depthAfter_append, first.level, second.level]
  within := nestsWithin_append.mpr ⟨first.within, by rw [first.level]; exact second.within⟩

theorem Paired.cons (flat : token.rise = 0) (paired : Paired room tokens) :
    Paired room (token :: tokens) where
  level depth := by rw [depthAfter_cons, flat, Int.add_zero, paired.level]
  within := nestsWithin_cons.mpr ⟨Int.natCast_nonneg room, by
    rw [flat, Int.add_zero]
    exact paired.within⟩

theorem Paired.group (paired : Paired room tokens) :
    Paired (room + 1) (.leftParen :: (tokens ++ [.rightParen])) where
  level depth := by simp [paired.level, Token.rise]
  within := by
    have inside : NestsWithin ((room + 1 : Nat) : Int) 1 tokens := by
      simpa using paired.within_add 1
    refine nestsWithin_cons.mpr ⟨Int.natCast_nonneg _, nestsWithin_append.mpr ⟨inside, ?_⟩⟩
    rw [paired.level, nestsWithin_cons, nestsWithin_nil]
    simp only [Token.rise]
    omega

theorem Grammar.Expression.paired (expression : Expression tokens)
    (within : NestsWithin room 0 tokens) : Paired room tokens where
  level := expression.depthAfter
  within := within

end Relevance.Query
