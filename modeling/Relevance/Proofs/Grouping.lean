import Relevance.Proofs.Expression

/-! How parentheses pair up and how deep they nest.

The depth is an integer, which goes below zero at a closing parenthesis that has no partner. What
the scan for grouping errors answers is read off the depths after the fronts of a token list.
-/

set_option autoImplicit false

namespace Relevance.Query

def Token.rise : Token → Int
  | .leftParen => 1
  | .rightParen => -1
  | _ => 0

def depthAfter (depth : Int) (tokens : List Token) : Int :=
  tokens.foldl (fun depth token => depth + token.rise) depth

/-- The depth goes above the limit while no closing parenthesis has gone without a partner. -/
def NestsTooDeep (depth : Int) (tokens : List Token) : Prop :=
  ∃ front, front <+: tokens ∧ maxDepth < depthAfter depth front ∧
    ∀ part, part <+: front → 0 ≤ depthAfter depth part

def Unbalanced (depth : Int) (tokens : List Token) : Prop :=
  (∃ front, front <+: tokens ∧ depthAfter depth front < 0) ∨ 0 < depthAfter depth tokens

def NestsWithin (limit depth : Int) (tokens : List Token) : Prop :=
  ∀ front, front <+: tokens → depthAfter depth front ≤ limit

@[simp] theorem depthAfter_nil (depth : Int) : depthAfter depth [] = depth := rfl

@[simp] theorem depthAfter_cons (depth : Int) (token : Token) (rest : List Token) :
    depthAfter depth (token :: rest) = depthAfter (depth + token.rise) rest := rfl

@[simp] theorem depthAfter_append (depth : Int) (front rest : List Token) :
    depthAfter depth (front ++ rest) = depthAfter (depthAfter depth front) rest :=
  List.foldl_append

variable {depth : Int} {token : Token} {rest : List Token}

theorem exists_front_cons {P : List Token → Prop} :
    (∃ front, front <+: token :: rest ∧ P front) ↔
      P [] ∨ ∃ front, front <+: rest ∧ P (token :: front) := by
  constructor
  · rintro ⟨front, part, holds⟩
    cases front with
    | nil => exact .inl holds
    | cons first front =>
      obtain ⟨rfl, isFront⟩ := List.cons_prefix_cons.mp part
      exact .inr ⟨front, isFront, holds⟩
  · rintro (holds | ⟨front, part, holds⟩)
    · exact ⟨[], List.nil_prefix, holds⟩
    · exact ⟨token :: front, List.cons_prefix_cons.mpr ⟨rfl, part⟩, holds⟩

theorem forall_front_cons {P : List Token → Prop} :
    (∀ front, front <+: token :: rest → P front) ↔
      P [] ∧ ∀ front, front <+: rest → P (token :: front) := by
  constructor
  · intro holds
    exact ⟨holds [] List.nil_prefix, fun front part =>
      holds _ (List.cons_prefix_cons.mpr ⟨rfl, part⟩)⟩
  · rintro ⟨first, others⟩ front part
    cases front with
    | nil => exact first
    | cons head front =>
      obtain ⟨rfl, isFront⟩ := List.cons_prefix_cons.mp part
      exact others front isFront

theorem nestsTooDeep_of_lt (deep : maxDepth < depth) (tokens : List Token) :
    NestsTooDeep depth tokens := by
  refine ⟨[], List.nil_prefix, deep, ?_⟩
  intro part isPart
  rw [List.prefix_nil.mp isPart, depthAfter_nil]
  exact Int.le_trans (Int.natCast_nonneg _) (Int.le_of_lt deep)

theorem not_nestsTooDeep_of_neg (negative : depth < 0) (tokens : List Token) :
    ¬NestsTooDeep depth tokens := by
  rintro ⟨front, -, -, nonneg⟩
  exact absurd (nonneg [] List.nil_prefix) (Int.not_le.mpr negative)

theorem not_nestsTooDeep_nil (within : depth ≤ maxDepth) : ¬NestsTooDeep depth [] := by
  rintro ⟨front, isFront, deep, -⟩
  rw [List.prefix_nil.mp isFront, depthAfter_nil] at deep
  exact absurd deep (Int.not_lt.mpr within)

theorem nestsTooDeep_cons (nonneg : 0 ≤ depth) (within : depth ≤ maxDepth) :
    NestsTooDeep depth (token :: rest) ↔ NestsTooDeep (depth + token.rise) rest := by
  unfold NestsTooDeep
  rw [exists_front_cons]
  simp only [forall_front_cons, depthAfter_nil, depthAfter_cons, nonneg, true_and,
    or_iff_right_iff_imp]
  exact fun deep => absurd deep.1 (Int.not_lt.mpr within)

theorem unbalanced_of_neg (negative : depth < 0) (tokens : List Token) :
    Unbalanced depth tokens :=
  .inl ⟨[], List.nil_prefix, negative⟩

theorem unbalanced_nil (nonneg : 0 ≤ depth) : Unbalanced depth [] ↔ 0 < depth := by
  constructor
  · rintro (⟨front, isFront, negative⟩ | positive)
    · rw [List.prefix_nil.mp isFront, depthAfter_nil] at negative
      exact absurd negative (Int.not_lt.mpr nonneg)
    · exact positive
  · exact .inr

theorem unbalanced_cons (nonneg : 0 ≤ depth) :
    Unbalanced depth (token :: rest) ↔ Unbalanced (depth + token.rise) rest := by
  unfold Unbalanced
  rw [exists_front_cons]
  simp only [depthAfter_nil, depthAfter_cons, Int.not_lt.mpr nonneg, false_or]

inductive Grouping (depth : Int) (tokens : List Token) : Except ParseError Unit → Prop where
  | tooDeep : NestsTooDeep depth tokens → Grouping depth tokens (.error .nestingTooDeep)
  | unbalanced : ¬NestsTooDeep depth tokens → Unbalanced depth tokens →
      Grouping depth tokens (.error .unbalancedGrouping)
  | paired : ¬NestsTooDeep depth tokens → ¬Unbalanced depth tokens → Grouping depth tokens (.ok ())

theorem Grouping.cons {depth : Nat} {answer : Except ParseError Unit}
    (within : depth ≤ maxDepth) (grouping : Grouping (depth + token.rise) rest answer) :
    Grouping depth (token :: rest) answer := by
  have nonneg : (0 : Int) ≤ depth := Int.natCast_nonneg _
  have within : (depth : Int) ≤ maxDepth := Int.ofNat_le.mpr within
  cases grouping with
  | tooDeep deep => exact .tooDeep ((nestsTooDeep_cons nonneg within).mpr deep)
  | unbalanced flat unbalanced =>
    exact .unbalanced (mt (nestsTooDeep_cons nonneg within).mp flat)
      ((unbalanced_cons nonneg).mpr unbalanced)
  | paired flat balanced =>
    exact .paired (mt (nestsTooDeep_cons nonneg within).mp flat)
      (mt (unbalanced_cons nonneg).mp balanced)

theorem grouping_checkGrouping {depth : Nat} (within : depth ≤ maxDepth) (tokens : List Token) :
    Grouping depth tokens (checkGrouping depth tokens) := by
  fun_induction checkGrouping depth tokens with
  | case1 =>
    exact .paired (not_nestsTooDeep_nil (by decide))
      (mt (unbalanced_nil (Int.le_refl _)).mp (by decide))
  | case2 depth positive =>
    have flat := not_nestsTooDeep_nil (Int.ofNat_le.mpr within)
    exact .unbalanced flat ((unbalanced_nil (Int.natCast_nonneg _)).mpr (by omega))
  | case3 depth rest full =>
    refine .cons within (.tooDeep (nestsTooDeep_of_lt ?_ rest))
    simp only [Token.rise]
    omega
  | case4 depth rest room ih =>
    exact .cons within (ih (by omega))
  | case5 rest =>
    -- Below zero, nothing that comes later counts as too deep.
    have negative : ((0 : Nat) : Int) + Token.rise .rightParen < 0 := by decide
    exact .cons within (.unbalanced (not_nestsTooDeep_of_neg negative rest)
      (unbalanced_of_neg negative rest))
  | case6 rest depth ih =>
    apply Grouping.cons within
    have same : ((depth + 1 : Nat) : Int) + Token.rise .rightParen = depth := by
      simp only [Token.rise]
      omega
    rw [same]
    exact ih (by omega)
  | case7 depth token rest left right ih =>
    apply Grouping.cons within
    have same : (depth : Int) + token.rise = depth := by
      unfold Token.rise
      split <;> simp_all
    rw [same]
    exact ih within

variable {limit : Int} {front : List Token}

theorem NestsWithin.left (within : NestsWithin limit depth (front ++ rest)) :
    NestsWithin limit depth front :=
  fun part isPart => within part (isPart.trans (List.prefix_append _ _))

theorem NestsWithin.right (within : NestsWithin limit depth (front ++ rest)) :
    NestsWithin limit (depthAfter depth front) rest := by
  intro part isPart
  rw [← depthAfter_append]
  exact within _ ((List.prefix_append_right_inj front).mpr isPart)

theorem NestsWithin.tail (within : NestsWithin limit depth (token :: rest)) :
    NestsWithin limit (depth + token.rise) rest := by
  change NestsWithin limit depth ([token] ++ rest) at within
  exact within.right

theorem NestsWithin.room {depth : Nat} {rest : List Token}
    (within : NestsWithin maxDepth depth (.leftParen :: rest)) : ¬maxDepth ≤ depth := by
  have opened := within [.leftParen] (List.prefix_append _ _)
  simp only [depthAfter_cons, depthAfter_nil, Token.rise] at opened
  omega

theorem nestsWithin_of_checkGrouping {depth : Nat} {tokens : List Token}
    (within : depth ≤ maxDepth) (paired : checkGrouping depth tokens = .ok ()) :
    NestsWithin maxDepth depth tokens := by
  have grouping := grouping_checkGrouping within tokens
  rw [paired] at grouping
  cases grouping with
  | paired flat balanced =>
    intro front isFront
    refine Int.not_lt.mp fun deep => flat ⟨front, isFront, deep, fun part isPart => ?_⟩
    exact Int.not_lt.mp fun negative => balanced (.inl ⟨part, isPart.trans isFront, negative⟩)

namespace Grammar

theorem Expression.depthAfter {tokens : List Token} (expression : Expression tokens)
    (depth : Int) : depthAfter depth tokens = depth := by
  induction expression generalizing depth with
  | leaf leaf =>
    unfold Token.isLeaf at leaf
    split at leaf <;> simp_all [Token.rise]
  | emptyGroup => simp [Token.rise]
  | group _ ih => simp [Token.rise, ih]
  | boosted _ _ ih => simp [Token.rise, ih]
  | not _ ih => simp [Token.rise, ih]
  | operator operator _ _ first rest =>
    rcases operator with rfl | rfl <;> simp [Token.rise, first, rest]
  | adjacent _ _ first rest => simp [first, rest]

-- An expression leaves the depth as it was, so the scan goes on behind it as if it were not there.
theorem Expression.checkGrouping {tokens : List Token} (expression : Expression tokens)
    {depth : Nat} (within : NestsWithin maxDepth depth tokens) (rest : List Token) :
    checkGrouping depth (tokens ++ rest) = checkGrouping depth rest := by
  induction expression generalizing depth rest with
  | leaf leaf =>
    unfold Token.isLeaf at leaf
    split at leaf
    · rfl
    · rfl
    · contradiction
  | emptyGroup =>
    have room := within.room
    simp [Query.checkGrouping, room]
  | @group inner _ ih =>
    have room := within.room
    have within := within.tail.left
    simp only [List.cons_append, List.append_assoc, Query.checkGrouping, if_neg room]
    rw [ih within]
    rfl
  | boosted _ _ ih =>
    rw [List.append_assoc, ih within.left]
    rfl
  | not _ ih => exact ih (by simpa [Token.rise] using within.tail) rest
  | operator operator first _ firstIH restIH =>
    have within' := within.right
    rw [first.depthAfter] at within'
    rw [List.append_assoc, firstIH within.left]
    rcases operator with rfl | rfl <;>
      exact restIH (by simpa [Token.rise] using within'.tail) rest
  | adjacent first _ firstIH restIH =>
    have within' := within.right
    rw [first.depthAfter] at within'
    rw [List.append_assoc, firstIH within.left, restIH within']

end Grammar

end Relevance.Query
