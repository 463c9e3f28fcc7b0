import Relevance.Analysis.Analyzer
import Relevance.Proofs.Evaluation

/-! Analysis numbers the terms of a text from zero on, and no filter changes the numbers. So the
tokens of a text say what its terms say, and a phrase begins where its terms stand in a row. -/

set_option autoImplicit false

namespace Relevance.Analysis

variable {terms block : List String} {term : String} {place start : Nat}

theorem map_term_numbered (terms : List String) : (numbered terms).map Token.term = terms := by
  rw [numbered, List.map_map]
  exact List.zipIdx_map_fst 0 terms

theorem length_numbered (terms : List String) : (numbered terms).length = terms.length := by
  simp [numbered]

theorem numbered_map (f : String → String) (terms : List String) :
    numbered (terms.map f) =
      (numbered terms).map fun token => { token with term := f token.term } := by
  simp [numbered, List.zipIdx_map, Function.comp_def]

theorem exists_numbered_of_filters (filters : List TokenFilter) (terms : List String) :
    ∃ terms', filters.foldl (fun tokens filter => tokens.map filter.apply) (numbered terms) =
      numbered terms' := by
  induction filters generalizing terms with
  | nil => exact ⟨terms, rfl⟩
  | cons filter filters ih =>
    cases filter with
    | lowercase =>
      obtain ⟨terms', same⟩ := ih (terms.map Text.lowercase)
      exact ⟨terms', by rw [List.foldl_cons, ← same, numbered_map]; rfl⟩

theorem analyze_eq_numbered (analyzer : Analyzer) (text : String) :
    analyzer.analyze text = numbered (analyzer.termsOf text) := by
  obtain ⟨terms, same⟩ := exists_numbered_of_filters analyzer.tokenFilters _
  rw [Analyzer.termsOf, Analyzer.analyze, tokenize, same, map_term_numbered]

theorem length_termsOf (analyzer : Analyzer) (text : String) :
    (analyzer.termsOf text).length = (analyzer.analyze text).length := by
  rw [Analyzer.termsOf, List.length_map]

section

variable (few : terms.length < 2 ^ 32)

include few

theorem toNat_position (inside : place < terms.length) : (UInt32.ofNat place).toNat = place :=
  UInt32.toNat_ofNat_of_lt' (inside.trans few)

theorem carries_numbered : Carries (numbered terms) term place ↔ terms[place]? = some term := by
  simp only [Carries, numbered, List.mem_map, Prod.exists, List.mk_mem_zipIdx_iff_getElem?]
  constructor
  · rintro ⟨-, ⟨term, place, found, rfl⟩, rfl, rfl⟩
    obtain ⟨inside, -⟩ := List.getElem?_eq_some_iff.mp found
    rwa [toNat_position few inside]
  · intro found
    obtain ⟨inside, -⟩ := List.getElem?_eq_some_iff.mp found
    exact ⟨_, ⟨term, place, found, rfl⟩, rfl, toNat_position few inside⟩

theorem increasing_numbered :
    (numbered terms).Pairwise fun token later => token.position < later.position := by
  rw [List.pairwise_iff_getElem]
  intro place later inside inside' before
  rw [length_numbered] at inside inside'
  simp only [numbered, List.getElem_map, List.getElem_zipIdx, UInt32.lt_iff_toNat_lt, Nat.zero_add]
  rwa [toNat_position few inside, toNat_position few inside']

/-- A phrase begins where its terms follow in a row. -/
theorem occurs_numbered :
    Occurs (numbered terms) block start ↔ block ≠ [] ∧ block <+: terms.drop start := by
  simp only [Occurs, CarriesAll, carries_numbered few, List.prefix_iff_getElem?, List.getElem?_drop]

end

end Relevance.Analysis
