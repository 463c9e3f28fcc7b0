import Relevance.Proofs.Agreement
import Relevance.Proofs.Leaves
import Relevance.Proofs.Postings

/-! How much of a query is found in the documents that it holds of.

A query without negations holds because some of its leaves occur, and it fails because some do not.
So a document that it holds of never has a coordination of zero, and any other document never has a
full one.
-/

set_option autoImplicit false

namespace Relevance

variable {index : Index} {query : Query}

namespace Query

variable {P : Query → Prop} {child : Query} {children : List Query}

def Throughout (P : Query → Prop) (query : Query) : Prop :=
  ∀ node ∈ query.nodes [], P node.query

-- Nodes are listed with the nodes above them, on which the queries at the nodes do not depend.
theorem map_query_nodes (above above' : List Query) (query : Query) :
    (query.nodes above).map Node.query = (query.nodes above').map Node.query := by
  fun_induction nodes above query generalizing above' with
  | case1 | case2 => rw [nodes, List.map_singleton, List.map_singleton]
  | case3 above children ih | case4 above children ih =>
    rw [nodes, List.map_cons, List.map_cons, List.map_flatMap, List.map_flatMap]
    exact congrArg _ (List.flatMap_congr fun child isChild => ih child isChild _)
  | case5 above child ih =>
    rw [nodes, List.map_cons, List.map_cons]
    exact congrArg _ (ih _)

theorem throughout_iff_nodes (above : List Query) :
    query.Throughout P ↔ ∀ node ∈ query.nodes above, P node.query := by
  have same := map_query_nodes [] above query
  rw [Throughout, ← List.forall_mem_map (P := P), same, List.forall_mem_map]

theorem throughout_conj : (conj children).Throughout P ↔
    P (conj children) ∧ ∀ child ∈ children, child.Throughout P := by
  rw [Throughout, nodes, List.forall_mem_cons, List.forall_mem_flatMap]
  exact and_congr_right fun _ => forall₂_congr fun _ _ => (throughout_iff_nodes _).symm

theorem throughout_disj : (disj children).Throughout P ↔
    P (disj children) ∧ ∀ child ∈ children, child.Throughout P := by
  rw [Throughout, nodes, List.forall_mem_cons, List.forall_mem_flatMap]
  exact and_congr_right fun _ => forall₂_congr fun _ _ => (throughout_iff_nodes _).symm

theorem throughout_neg : (neg child).Throughout P ↔ P (neg child) ∧ child.Throughout P := by
  rw [Throughout, nodes, List.forall_mem_cons]
  exact and_congr_right fun _ => (throughout_iff_nodes _).symm

theorem holds_conj_iff : (conj children).holds index = true ↔
    ∀ child ∈ children, child.holds index = true := by
  simp [holds]

theorem holds_disj_iff : (disj children).holds index = true ↔
    ∃ child ∈ children, child.holds index = true := by
  simp [holds]

theorem not_positive_neg : ¬(neg child).Throughout (·.isNegation = false) :=
  fun positive => nomatch (throughout_neg.mp positive).1

/-- Without disjunctions, a query holds exactly if all its leaves do. -/
theorem holds_iff_forall_leaves (positive : query.Throughout (·.isNegation = false))
    (noDisj : query.Throughout fun node => ∀ children, node ≠ disj children) :
    query.holds index = true ↔ ∀ leaf ∈ query.allLeaves, leaf.holds index = true := by
  fun_induction allLeaves query with
  | case1 | case2 => rw [List.forall_mem_singleton]
  | case3 children ih =>
    rw [throughout_conj] at positive noDisj
    rw [holds_conj_iff, List.forall_mem_flatMap]
    exact forall₂_congr fun child isChild =>
      ih child isChild (positive.2 child isChild) (noDisj.2 child isChild)
  | case4 children => exact absurd rfl ((throughout_disj.mp noDisj).1 children)
  | case5 => exact (not_positive_neg positive).elim

/-- Without conjunctions, a query holds exactly if one of its leaves does. -/
theorem holds_iff_exists_leaf (positive : query.Throughout (·.isNegation = false))
    (noConj : query.Throughout fun node => ∀ children, node ≠ conj children) :
    query.holds index = true ↔ ∃ leaf ∈ query.allLeaves, leaf.holds index = true := by
  fun_induction allLeaves query with
  | case1 | case2 => simp only [List.mem_singleton, exists_eq_left]
  | case3 children => exact absurd rfl ((throughout_conj.mp noConj).1 children)
  | case4 children ih =>
    rw [throughout_disj] at positive noConj
    have parts : ∀ child ∈ children, child.holds index = true ↔
        ∃ leaf ∈ child.allLeaves, leaf.holds index = true := fun child isChild =>
      ih child isChild (positive.2 child isChild) (noConj.2 child isChild)
    rw [holds_disj_iff]
    constructor
    · rintro ⟨child, isChild, holds⟩
      obtain ⟨leaf, isLeaf, holds⟩ := (parts child isChild).mp holds
      exact ⟨leaf, List.mem_flatMap_of_mem isChild isLeaf, holds⟩
    · rintro ⟨leaf, isLeaf, holds⟩
      obtain ⟨child, isChild, isLeaf⟩ := List.mem_flatMap.mp isLeaf
      exact ⟨child, isChild, (parts child isChild).mpr ⟨leaf, isLeaf, holds⟩⟩
  | case5 => exact (not_positive_neg positive).elim

theorem exists_child_of_conj (index : Index) (nonempty : children ≠ []) :
    ∃ child ∈ children, child.holds index = (conj children).holds index := by
  by_cases holds : (conj children).holds index = true
  · obtain ⟨child, isChild⟩ := List.exists_mem_of_ne_nil children nonempty
    exact ⟨child, isChild, by rw [holds, holds_conj_iff.mp holds child isChild]⟩
  · obtain ⟨child, isChild, fails⟩ : ∃ child ∈ children, ¬child.holds index = true := by
      simpa [holds_conj_iff] using holds
    exact ⟨child, isChild, (eq_false_of_ne_true fails).trans (eq_false_of_ne_true holds).symm⟩

theorem exists_child_of_disj (index : Index) (nonempty : children ≠ []) :
    ∃ child ∈ children, child.holds index = (disj children).holds index := by
  by_cases holds : (disj children).holds index = true
  · obtain ⟨child, isChild, childHolds⟩ := holds_disj_iff.mp holds
    exact ⟨child, isChild, by rw [holds, childHolds]⟩
  · obtain ⟨child, isChild⟩ := List.exists_mem_of_ne_nil children nonempty
    have fails : ¬child.holds index = true :=
      fun childHolds => holds (holds_disj_iff.mpr ⟨child, isChild, childHolds⟩)
    exact ⟨child, isChild, (eq_false_of_ne_true fails).trans (eq_false_of_ne_true holds).symm⟩

/-- Some leaf of a query decides like the query: it holds if the query does, and fails if the query
fails. -/
theorem exists_leaf_of_positive (index : Index) (positive : query.Throughout (·.isNegation = false))
    (inhabited : query.Throughout fun node => node ≠ conj [] ∧ node ≠ disj []) :
    ∃ leaf ∈ query.allLeaves, leaf.holds index = query.holds index := by
  fun_induction allLeaves query with
  | case1 | case2 => exact ⟨_, List.mem_singleton_self _, rfl⟩
  | case3 children ih =>
    rw [throughout_conj] at positive inhabited
    have nonempty : children ≠ [] := fun empty => inhabited.1.1 (congrArg conj empty)
    obtain ⟨child, isChild, same⟩ := exists_child_of_conj index nonempty
    obtain ⟨leaf, isLeaf, agrees⟩ :=
      ih child isChild (positive.2 child isChild) (inhabited.2 child isChild)
    exact ⟨leaf, List.mem_flatMap_of_mem isChild isLeaf, agrees.trans same⟩
  | case4 children ih =>
    rw [throughout_disj] at positive inhabited
    have nonempty : children ≠ [] := fun empty => inhabited.1.2 (congrArg disj empty)
    obtain ⟨child, isChild, same⟩ := exists_child_of_disj index nonempty
    obtain ⟨leaf, isLeaf, agrees⟩ :=
      ih child isChild (positive.2 child isChild) (inhabited.2 child isChild)
    exact ⟨leaf, List.mem_flatMap_of_mem isChild isLeaf, agrees.trans same⟩
  | case5 => exact (not_positive_neg positive).elim

def occurs (index : Index) (leaf : Query) : Bool :=
  (leaf.leafFrequency? index).any (0 < ·)

theorem occurs_of_mem_allLeaves {leaf : Query} (isLeaf : leaf ∈ query.allLeaves) :
    leaf.occurs index = leaf.holds index := by
  fun_induction allLeaves query with
  | case1 | case2 =>
    obtain rfl := List.mem_singleton.mp isLeaf
    rw [occurs, leafFrequency?, holds, Option.any_some]
  | case3 children ih | case4 children ih =>
    obtain ⟨child, isChild, isLeaf⟩ := List.mem_flatMap.mp isLeaf
    exact ih child isChild isLeaf
  | case5 child ih => exact ih isLeaf

end Query

namespace Score

open Query

theorem map_query_leaves (index : Index) (positive : query.Throughout (·.isNegation = false)) :
    (leaves index query).map Leaf.query = query.allLeaves := by
  fun_induction leaves index query with
  | case1 | case2 => rw [List.map_singleton, allLeaves]
  | case3 children ih =>
    rw [throughout_conj] at positive
    rw [List.map_flatMap, allLeaves]
    exact List.flatMap_congr fun child isChild => ih child isChild (positive.2 child isChild)
  | case4 children ih =>
    rw [throughout_disj] at positive
    rw [List.map_flatMap, allLeaves]
    exact List.flatMap_congr fun child isChild => ih child isChild (positive.2 child isChild)
  | case5 => exact (not_positive_neg positive).elim

theorem matched_foldl_add (leaves : List Leaf) (tally : Tally) :
    (leaves.foldl Tally.add tally).matched = tally.matched + leaves.length := by
  induction leaves generalizing tally with
  | nil => rfl
  | cons leaf leaves ih =>
    rw [List.foldl_cons, ih]
    exact Nat.add_right_comm tally.matched 1 leaves.length

theorem length_filter_leaves (positive : query.Throughout (·.isNegation = false)) :
    ((leaves index query).filter fun leaf => 0 < leaf.frequency).length =
      query.allLeaves.countP (occurs index) := by
  rw [← map_query_leaves index positive, List.countP_map, List.countP_eq_length_filter]
  refine congrArg List.length (List.filter_congr fun leaf isLeaf => ?_)
  rw [Function.comp_apply, occurs, (leaf_of_mem_leaves isLeaf).1, Option.any_some]

theorem length_leaves (positive : query.Throughout (·.isNegation = false)) :
    (leaves index query).length = query.allLeaves.length := by
  rw [← map_query_leaves index positive, List.length_map]

/-- Of a query without negations, in which every combination has parts, all leaves are counted, and
those that occur are the ones that are found. If the query holds, some leaf is found, and if it
fails, some leaf is not. Without disjunctions it holds exactly if all leaves are found, and without
conjunctions exactly if one is. -/
theorem matched_of_positive (index : Index) (query : Query)
    (positive : query.Throughout (·.isNegation = false))
    (inhabited : query.Throughout fun node => node ≠ conj [] ∧ node ≠ disj []) :
    let total := query.allLeaves.length
    let matched := query.allLeaves.countP (occurs index)
    let sum := (((leaves index query).filter fun leaf => 0 < leaf.frequency).foldl Tally.add {}).sum
    (explain index query).coordination = coordination matched total ∧
    score index query =
      (if query.holds index then combine sum matched total index.length else 0.0) ∧
    (query.holds index = true → 1 ≤ matched) ∧
    (query.holds index = false → matched < total) ∧
    ((query.Throughout fun node => ∀ children, node ≠ disj children) →
      (query.holds index = true ↔ matched = total)) ∧
    ((query.Throughout fun node => ∀ children, node ≠ conj children) →
      (query.holds index = true ↔ 1 ≤ matched)) := by
  intro total matched sum
  have counted : (((leaves index query).filter fun leaf => 0 < leaf.frequency).foldl
      Tally.add {}).matched = matched := by
    rw [matched_foldl_add, length_filter_leaves positive, Nat.zero_add]
  have some_found : 1 ≤ matched ↔ ∃ leaf ∈ query.allLeaves, leaf.holds index = true := by
    refine List.countP_pos_iff.trans (exists_congr fun leaf => and_congr_right fun isLeaf => ?_)
    rw [occurs_of_mem_allLeaves isLeaf]
  have all_found : matched = total ↔ ∀ leaf ∈ query.allLeaves, leaf.holds index = true := by
    refine List.countP_eq_length.trans (forall₂_congr fun leaf isLeaf => ?_)
    rw [occurs_of_mem_allLeaves isLeaf]
  obtain ⟨leaf, isLeaf, agrees⟩ := exists_leaf_of_positive index positive inhabited
  refine ⟨?_, ?_, fun holds => ?_, fun fails => ?_, fun noDisj => ?_, fun noConj => ?_⟩
  · simp only [explain, foldl_explainLeaf, counted, length_leaves positive, total]
  · simp only [score, counted, length_leaves positive, total, sum]
  · exact some_found.mpr ⟨leaf, isLeaf, agrees.trans holds⟩
  · refine Nat.lt_of_le_of_ne List.countP_le_length fun all => ?_
    rw [fails] at agrees
    rw [all_found.mp all leaf isLeaf] at agrees
    contradiction
  · exact (holds_iff_forall_leaves positive noDisj).trans all_found.symm
  · exact (holds_iff_exists_leaf positive noConj).trans some_found.symm

/-- One leaf of two is found: enough for a disjunction, and not for a conjunction. -/
theorem matched_of_positive_fox_and_cat :
    let index := Index.ofTokens [⟨"quick", 0⟩, ⟨"fox", 1⟩]
    let either := disj [ofTerm "fox", ofTerm "cat"]
    let both := conj [ofTerm "fox", ofTerm "cat"]
    (explain index either).coordination = coordination 1 2 ∧ either.holds index = true ∧
      score index both = 0.0 ∧ both.holds index = false := by
  intro index either both
  have fox : (ofTerm "fox").occurs index = true := by
    simp [occurs, ofTerm, leafFrequency?, index, Index.frequency_ofTokens]
  have cat : (ofTerm "cat").occurs index = false := by
    simp [occurs, ofTerm, leafFrequency?, index, Index.frequency_ofTokens]
  obtain ⟨coordinated, -, -, -, -, exactly⟩ := matched_of_positive index either
    (by simp [either, Throughout, nodes, ofTerm, isNegation])
    (by simp [either, Throughout, nodes, ofTerm])
  obtain ⟨-, scored, -, -, exactly', -⟩ := matched_of_positive index both
    (by simp [both, Throughout, nodes, ofTerm, isNegation])
    (by simp [both, Throughout, nodes, ofTerm])
  have leaves : either.allLeaves = [ofTerm "fox", ofTerm "cat"] := by
    simp [either, allLeaves, ofTerm]
  have leaves' : both.allLeaves = [ofTerm "fox", ofTerm "cat"] := by
    simp [both, allLeaves, ofTerm]
  have count : [ofTerm "fox", ofTerm "cat"].countP (occurs index) = 1 := by simp [fox, cat]
  rw [leaves, count] at coordinated exactly
  rw [leaves', count] at exactly'
  have fails : both.holds index = false := by
    refine eq_false_of_ne_true fun holds => ?_
    have all := (exactly' (by simp [both, Throughout, nodes, ofTerm])).mp holds
    contradiction
  refine ⟨coordinated, (exactly ?_).mpr (Nat.le_refl 1), ?_, fails⟩
  · simp [either, Throughout, nodes, ofTerm]
  · rw [scored, fails]
    rfl

end Score

end Relevance
