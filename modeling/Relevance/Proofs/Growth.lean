import Relevance.Proofs.Coordination
import Relevance.Proofs.Evaluation

/-! Documents that go on.

What stands in a document still stands there when more text comes behind it, and the index of the
longer document finds it. So no leaf of a query is lost, and a query can fail on the longer document
only for something that is negated in it.
-/

set_option autoImplicit false

namespace Relevance

open Analysis

variable {front back : List Analysis.Token} {index index' : Index} {query : Query}

theorem Carries.append {term : String} {place : Nat} (carries : Carries front term place) :
    Carries (front ++ back) term place := by
  obtain ⟨token, isToken, carried⟩ := carries
  exact ⟨token, List.mem_append_left back isToken, carried⟩

theorem Occurs.append {terms : List String} {start : Nat} (occurs : Occurs front terms start) :
    Occurs (front ++ back) terms start :=
  ⟨occurs.1, fun offset inside => (occurs.2 offset inside).append⟩

structure Index.Within (index index' : Index) : Prop where
  frequency : ∀ term, index.frequency term ≤ index'.frequency term
  phraseFrequency : ∀ terms, index.phraseFrequency terms ≤ index'.phraseFrequency terms

theorem Index.within_append (few : (front ++ back).length < 2 ^ 32)
    (increasing : (front ++ back).Pairwise fun token later => token.position < later.position) :
    (ofTokens front).Within (ofTokens (front ++ back)) := by
  have fewInFront : front.length < 2 ^ 32 := by
    rw [List.length_append] at few
    omega
  have increasingInFront := increasing.sublist (List.sublist_append_left front back)
  constructor
  · intro term
    rw [UInt32.le_iff_toNat_le, toNat_frequency few, toNat_frequency fewInFront,
      List.countP_append]
    exact Nat.le_add_right _ _
  · intro terms
    rw [UInt32.le_iff_toNat_le, toNat_phraseFrequency increasing few,
      toNat_phraseFrequency increasingInFront fewInFront]
    exact Set.ncard_le_ncard (fun start occurs => occurs.append) (finite_occurs _ terms)

namespace Query

theorem leafFrequency?_mono (within : index.Within index') {leaf : Query} {count : UInt32}
    (found : leaf.leafFrequency? index = some count) :
    ∃ count', leaf.leafFrequency? index' = some count' ∧ count ≤ count' := by
  cases leaf with
  | term text boost =>
    obtain rfl := Option.some.inj found
    exact ⟨_, rfl, within.frequency text⟩
  | phrase terms boost =>
    obtain rfl := Option.some.inj found
    exact ⟨_, rfl, within.phraseFrequency terms⟩
  | conj | disj | neg => contradiction

theorem holds_mono (within : index.Within index')
    (positive : query.Throughout (·.isNegation = false)) (holds : query.holds index = true) :
    query.holds index' = true := by
  fun_induction Query.holds index query with
  | case1 text boost =>
    rw [Query.holds]
    rw [decide_eq_true_eq] at holds ⊢
    exact UInt32.lt_of_lt_of_le holds (within.frequency text)
  | case2 terms boost =>
    rw [Query.holds]
    rw [decide_eq_true_eq] at holds ⊢
    exact UInt32.lt_of_lt_of_le holds (within.phraseFrequency terms)
  | case3 children ih =>
    rw [throughout_conj] at positive
    rw [← Query.holds, holds_conj_iff] at holds
    rw [holds_conj_iff]
    exact fun child isChild => ih child isChild (positive.2 child isChild) (holds child isChild)
  | case4 children ih =>
    rw [throughout_disj] at positive
    rw [← Query.holds, holds_disj_iff] at holds
    obtain ⟨child, isChild, holds⟩ := holds
    rw [holds_disj_iff]
    exact ⟨child, isChild, ih child isChild (positive.2 child isChild) holds⟩
  | case5 => exact (not_positive_neg positive).elim

end Query

namespace Score

open Query

structure LeafExplanation.Recurs (leaf later : LeafExplanation) : Prop where
  query : later.query = leaf.query
  boost : later.boost = leaf.boost
  frequency : leaf.termFrequency ≤ later.termFrequency
  counted : 0 < leaf.termFrequency → 0 < later.termFrequency

theorem recurs_of_le {leaf : Query} {frequency frequency' : UInt32} {boost : Float}
    (more : frequency ≤ frequency') :
    (Leaf.mk leaf frequency boost).explanation.Recurs
      (Leaf.mk leaf frequency' boost).explanation :=
  ⟨rfl, rfl, more, fun counted => UInt32.lt_of_lt_of_le counted more⟩

theorem leaves_recur (within : index.Within index') (query : Query) :
    List.Forall₂ (fun leaf later => leaf.explanation.Recurs later.explanation)
      (leaves index query) (leaves index' query) := by
  fun_induction leaves index query with
  | case1 text boost =>
    rw [leaves]
    exact .cons (recurs_of_le (within.frequency text)) .nil
  | case2 terms boost =>
    rw [leaves]
    exact .cons (recurs_of_le (within.phraseFrequency terms)) .nil
  | case3 children ih | case4 children ih =>
    rw [leaves]
    exact List.rel_flatMap (List.forall₂_same.mpr ih) fun _ _ recur => recur
  | case5 =>
    rw [leaves]
    exact .nil

theorem explain_leaves_recur (within : index.Within index') (query : Query) :
    List.Forall₂ LeafExplanation.Recurs (explain index query).leaves
      (explain index' query).leaves := by
  rw [explain_leaves_eq, explain_leaves_eq, List.forall₂_map_left_iff, List.forall₂_map_right_iff]
  exact leaves_recur within query

end Score

open Query

/-- When more tokens come behind some, and positions increase throughout as they do in a text, every
leaf occurs at least as often as before. A query without negations that holds before holds
afterwards, and the negation of one that holds afterwards holds before. Whatever the query, the
leaves that an explanation lists are the same, and those that it counts before it counts afterwards.
-/
theorem holds_of_tokens_behind (front back : List Analysis.Token)
    (few : (front ++ back).length < 2 ^ 32)
    (increasing : (front ++ back).Pairwise fun token later => token.position < later.position) :
    let before := Index.ofTokens front
    let after := Index.ofTokens (front ++ back)
    (∀ leaf count, leafFrequency? before leaf = some count →
      ∃ count', leafFrequency? after leaf = some count' ∧ count ≤ count') ∧
    (∀ query : Query, query.Throughout (·.isNegation = false) →
      (query.holds before = true → query.holds after = true) ∧
      ((neg query).holds after = true → (neg query).holds before = true)) ∧
    ∀ query, List.Forall₂ Score.LeafExplanation.Recurs (Score.explain before query).leaves
      (Score.explain after query).leaves := by
  intro before after
  have within := Index.within_append few increasing
  refine ⟨fun leaf count found => leafFrequency?_mono within found, fun query positive => ?_,
    Score.explain_leaves_recur within⟩
  have mono := holds_mono within positive
  refine ⟨mono, fun fails => ?_⟩
  rw [holds, Bool.not_eq_true', ← Bool.not_eq_true] at fails ⊢
  exact mt mono fails

/-- A pair is found again, and a term that does not come later was not there before. -/
theorem holds_of_tokens_behind_na_na :
    let front : List Analysis.Token := [⟨"na", 0⟩, ⟨"na", 1⟩]
    let back : List Analysis.Token := [⟨"na", 2⟩, ⟨"bat", 3⟩]
    let query := conj [phrase ["na", "na"] 1.0, ofTerm "na"]
    let absent := disj [ofTerm "cat", phrase ["na", "cat"] 2.0]
    (front ++ back).length < 2 ^ 32 ∧
    ((front ++ back).Pairwise fun token later => token.position < later.position) ∧
    query.holds (Index.ofTokens (front ++ back)) = true ∧
    (neg absent).holds (Index.ofTokens front) = true := by
  intro front back query absent
  have few : (front ++ back).length < 2 ^ 32 := by decide
  have increasing :
      (front ++ back).Pairwise fun token later => token.position < later.position := by decide
  obtain ⟨-, agree, -⟩ := holds_of_tokens_behind front back few increasing
  have pair : Occurs front ["na", "na"] 0 := by
    simp [front, occurs_cons, carriesAll_cons, carriesAll_nil, Carries]
  have before : query.holds (Index.ofTokens front) = true := by
    rw [holds_iff_satisfied (by decide) (by decide)]
    simp only [query, ofTerm, Satisfied, List.mem_cons, List.not_mem_nil, or_false,
      forall_eq_or_imp, forall_eq]
    exact ⟨⟨0, pair⟩, ⟨"na", 0⟩, by decide, rfl⟩
  have after : (neg absent).holds (Index.ofTokens (front ++ back)) = true := by
    rw [holds_iff_satisfied few increasing]
    simp [absent, front, back, ofTerm, Satisfied, occurs_cons, carriesAll_cons, Carries]
  refine ⟨few, increasing, (agree query ?_).1 before, (agree absent ?_).2 after⟩
  · simp [query, Throughout, nodes, ofTerm, isNegation]
  · simp [absent, Throughout, nodes, ofTerm, isNegation]

end Relevance
