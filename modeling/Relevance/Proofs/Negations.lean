import Relevance.Proofs.Agreement
import Relevance.Proofs.Postings

/-! What is negated in a query decides only whether the query holds of a document. Nothing of it
reaches the score or what is said of how the score comes about.
-/

set_option autoImplicit false

namespace Relevance

/-- Two queries are the same but for what their negations negate. -/
inductive Query.SameButNegated : Query → Query → Prop where
  | term (text : String) (boost : Float) : SameButNegated (term text boost) (term text boost)
  | phrase (terms : List String) (boost : Float) :
      SameButNegated (phrase terms boost) (phrase terms boost)
  | conj {children children' : List Query} : List.Forall₂ SameButNegated children children' →
      SameButNegated (conj children) (conj children')
  | disj {children children' : List Query} : List.Forall₂ SameButNegated children children' →
      SameButNegated (disj children) (disj children')
  | neg (child child' : Query) : SameButNegated (neg child) (neg child')

namespace Score

open Query

variable {query query' : Query}

theorem flatMap_eq_of_forall₂ {Part Value : Type} {R : Part → Part → Prop}
    {parts parts' : List Part} {f : Part → List Value} (related : List.Forall₂ R parts parts')
    (same : ∀ part ∈ parts, ∀ part', R part part' → f part = f part') :
    parts.flatMap f = parts'.flatMap f := by
  induction related with
  | nil => rfl
  | cons first _ ih =>
    rw [List.forall_mem_cons] at same
    rw [List.flatMap_cons, List.flatMap_cons, same.1 _ first, ih same.2]

/-- The leaves that are scored do not depend on what is negated: not on which they are, nor on
their number, nor on what is found of them. -/
theorem leaves_eq_of_sameButNegated (index : Index) (same : query.SameButNegated query') :
    leaves index query = leaves index query' := by
  fun_induction leaves index query generalizing query' with
  | case1 | case2 =>
    cases same
    rw [leaves]
  | case3 children ih =>
    cases same with
    | conj parts =>
      rw [leaves]
      exact flatMap_eq_of_forall₂ parts fun child isChild _ same => ih child isChild same
  | case4 children ih =>
    cases same with
    | disj parts =>
      rw [leaves]
      exact flatMap_eq_of_forall₂ parts fun child isChild _ same => ih child isChild same
  | case5 =>
    cases same
    rw [leaves]

/-- Queries that are the same but for what is negated, and that both hold of a document or both do
not, have the same score, and there is nothing else to be said of how it comes about. -/
theorem explain_of_sameButNegated (index : Index) (query query' : Query)
    (same : query.SameButNegated query') (agree : query.holds index = query'.holds index) :
    score index query = score index query' ∧ explain index query = explain index query' := by
  have leaves := leaves_eq_of_sameButNegated index same
  constructor
  · rw [score, score, agree, leaves]
  · rw [explain, explain, agree, leaves]

/-- Neither the number of the negated leaves nor the one that occurs makes a difference. -/
theorem explain_of_sameButNegated_fox :
    let index := Index.ofTokens [⟨"quick", 0⟩, ⟨"fox", 1⟩]
    let query := conj [term "fox" 2.0, neg (ofTerm "cat")]
    let query' := conj [term "fox" 2.0, neg (conj [term "quick" 3.0, neg (neg (ofTerm "dog"))])]
    query.holds index = true ∧ query'.holds index = true ∧
      explain index query = explain index query' := by
  intro index query query'
  have holds : query.holds index = true := by
    simp [query, ofTerm, holds, index, Index.frequency_ofTokens]
  have holds' : query'.holds index = true := by
    simp [query', ofTerm, Query.holds, index, Index.frequency_ofTokens]
  have same : query.SameButNegated query' := .conj (.cons (.term "fox" 2.0) (.cons (.neg _ _) .nil))
  exact ⟨holds, holds', (explain_of_sameButNegated index query query' same
    (holds.trans holds'.symm)).2⟩

end Score

end Relevance
