import Relevance.Proofs.Numbering

/-! What is known of the terms of a text, whatever analyzer they come from. -/

set_option autoImplicit false

namespace Relevance

variable {p : Char → Bool} {run text before done : List Char} {runs : List (List Char)}

namespace Text

theorem forall_mem_endRun {P : List Char → Prop} (ended : run ≠ [] → P run.reverse)
    (others : ∀ part ∈ runs, P part) : ∀ part ∈ endRun run runs, P part := by
  unfold endRun
  split
  · exact others
  · next nonempty =>
    exact List.forall_mem_cons.mpr ⟨ended (by simpa using nonempty), others⟩

theorem ne_nil_of_mem_runsFrom (others : ∀ part ∈ runs, part ≠ []) :
    ∀ part ∈ runsFrom p run runs text, part ≠ [] := by
  induction text generalizing run runs with
  | nil =>
    intro part isPart
    rw [runsFrom, List.mem_reverse] at isPart
    exact forall_mem_endRun (by simp) others part isPart
  | cons c text ih =>
    rw [runsFrom]
    split
    · exact ih others
    · exact ih (forall_mem_endRun (by simp) others)

theorem ne_nil_of_mem_runs {part : List Char} (isRun : part ∈ Text.runs p text) : part ≠ [] :=
  ne_nil_of_mem_runsFrom (List.forall_mem_nil _) part isRun

theorem lowercase_ne_nil (c : Char) : Unicode.lowercase c ≠ [] := by
  unfold Unicode.lowercase
  split
  · exact List.cons_ne_nil _ _
  · split
    · exact List.cons_ne_nil _ _
    · split
      · dsimp only
        split <;> exact List.cons_ne_nil _ _
      · exact List.cons_ne_nil _ _

theorem length_le_lowercaseFrom :
    text.length + done.length ≤ (lowercaseFrom before done text).length := by
  induction text generalizing before done with
  | nil => simp [lowercaseFrom]
  | cons c text ih =>
    rw [lowercaseFrom]
    have form : 0 <
        (if c = 'Σ' then [lowercaseSigma before text] else Unicode.lowercase c).length := by
      split
      · exact Nat.one_pos
      · exact List.length_pos_iff.mpr (lowercase_ne_nil c)
    refine Nat.le_trans ?_ ih
    simp only [List.length_cons, List.length_append, List.length_reverse]
    omega

theorem lowercase_ne_empty {term : String} (nonempty : term ≠ "") : lowercase term ≠ "" := by
  rw [lowercase, Ne, String.ofList_eq_empty_iff, ← List.length_eq_zero_iff]
  have length := @length_le_lowercaseFrom term.toList [] []
  have positive := List.length_pos_iff.mpr (mt String.toList_eq_nil_iff.mp nonempty)
  omega

end Text

namespace Analysis

theorem ne_empty_of_mem_terms {text term : String} (isTerm : term ∈ terms text) : term ≠ "" := by
  obtain ⟨run, isRun, rfl⟩ := List.mem_map.mp isTerm
  obtain ⟨segment, -, isRun⟩ := List.mem_flatMap.mp isRun
  exact mt String.ofList_eq_empty_iff.mp (Text.ne_nil_of_mem_runs isRun)

theorem ne_empty_of_filters (filters : List TokenFilter) {tokens : List Token}
    (nonempty : ∀ token ∈ tokens, token.term ≠ "") :
    ∀ token ∈ filters.foldl (fun tokens filter => tokens.map filter.apply) tokens,
      token.term ≠ "" := by
  induction filters generalizing tokens with
  | nil => exact nonempty
  | cons filter filters ih =>
    refine ih (List.forall_mem_map.mpr fun token isToken => ?_)
    cases filter with
    | lowercase => exact Text.lowercase_ne_empty (nonempty token isToken)

/-- No analyzer leaves an empty term. -/
theorem ne_empty_of_mem_termsOf {analyzer : Analyzer} {text term : String}
    (isTerm : term ∈ analyzer.termsOf text) : term ≠ "" := by
  obtain ⟨token, isToken, rfl⟩ := List.mem_map.mp isTerm
  refine ne_empty_of_filters analyzer.tokenFilters (fun token isToken => ?_) token isToken
  have isTerm : token.term ∈ (tokenize _).map Token.term := List.mem_map_of_mem isToken
  rw [tokenize, map_term_numbered] at isTerm
  exact ne_empty_of_mem_terms isTerm

end Analysis

end Relevance
