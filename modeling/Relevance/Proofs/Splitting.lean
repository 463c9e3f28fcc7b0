import Relevance.Proofs.Document

/-! Where the searches for the end of markup stop: at the first mark that they look for. -/

set_option autoImplicit false

namespace Relevance.Html

open Grammar

variable {before inside body rest text pattern : List Char}

theorem splitQuotedClose?_quotation {mark : Char} (unclosed : mark ∉ body) :
    splitQuotedClose? (some mark) inside (body ++ mark :: rest) =
      splitQuotedClose? none (mark :: (body.reverse ++ inside)) rest := by
  induction body generalizing inside with
  | nil => simp [splitQuotedClose?]
  | cons c body ih =>
    rw [List.mem_cons, not_or] at unclosed
    rw [List.cons_append, splitQuotedClose?, if_neg (Ne.symm unclosed.1), ih unclosed.2]
    simp

theorem Grammar.Closed.splitQuotedClose? (closed : Closed body) :
    splitQuotedClose? none inside (body ++ '>' :: rest) = some (inside.reverse ++ body, rest) := by
  induction closed generalizing inside with
  | nil => simp [Html.splitQuotedClose?]
  | plain noClose noDouble noSingle _ ih =>
    rw [List.cons_append, Html.splitQuotedClose?, if_neg noClose, if_neg (by simp [*]), ih]
    simp
  | quotation isMark unclosed _ ih =>
    rw [List.cons_append, List.append_assoc, List.cons_append, Html.splitQuotedClose?,
      if_neg (by rintro rfl; simp at isMark), if_pos (by simpa using isMark),
      splitQuotedClose?_quotation unclosed, ih]
    simp

-- A pattern that begins within a text and reaches beyond it overlaps the pattern that comes right
-- after the text, so one of its proper ends is one of its beginnings.
theorem not_prefix_of_unbordered
    (unbordered : ∀ count < pattern.length, 0 < count → ¬pattern.drop count <+: pattern)
    (absent : ¬pattern <:+: text) (nonempty : text ≠ []) (begins : pattern <+: rest) :
    ¬pattern <+: text ++ rest := by
  intro isPrefix
  by_cases short : pattern.length ≤ text.length
  · exact absent (List.prefix_of_prefix_length_le isPrefix (List.prefix_append ..) short).isInfix
  · obtain ⟨others, rfl⟩ :=
      List.prefix_of_prefix_length_le (List.prefix_append text rest) isPrefix (by omega)
    have overlap := (List.prefix_append_right_inj text).mp isPrefix
    apply unbordered text.length (by omega) (List.length_pos_iff.mpr nonempty)
    rw [List.drop_left]
    exact List.prefix_of_prefix_length_le overlap begins (by simp)

theorem prefix_of_prefix_append {c : Char} (foreign : c ∉ pattern)
    (isPrefix : pattern <+: text ++ c :: rest) : pattern <+: text := by
  by_cases short : pattern.length ≤ text.length
  · exact List.prefix_of_prefix_length_le isPrefix (List.prefix_append ..) short
  · have holds : text ++ [c] <+: pattern := by
      refine List.prefix_of_prefix_length_le ?_ isPrefix (by simp; omega)
      exact ⟨rest, by simp⟩
    exact absurd (holds.subset (by simp)) foreign

-- The function `fold` makes the letter case of end tags irrelevant; for comments it does nothing.
theorem splitBefore?_first {p : List Char → Bool} (pattern : List Char) (fold : Char → Char)
    (recognizes : ∀ text, p text = true ↔ pattern <+: text.map fold)
    (unbordered : ∀ count < pattern.length, 0 < count → ¬pattern.drop count <+: pattern)
    (absent : ¬pattern <:+: body.map fold) (begins : p rest = true) (nonempty : rest ≠ []) :
    splitBefore? p before (body ++ rest) = some (before.reverse ++ body, rest) := by
  induction body generalizing before with
  | nil =>
    obtain ⟨c, others, rfl⟩ := List.exists_cons_of_ne_nil nonempty
    rw [List.nil_append, splitBefore?, if_pos begins, List.append_nil]
  | cons c body ih =>
    have notHere : ¬p (c :: body ++ rest) = true := by
      rw [recognizes, List.map_append]
      exact not_prefix_of_unbordered unbordered absent (by simp) ((recognizes rest).mp begins)
    have notLater : ¬pattern <:+: body.map fold := fun later =>
      absent (later.trans (List.suffix_cons ..).isInfix)
    rw [List.cons_append] at notHere ⊢
    rw [splitBefore?, if_neg notHere, ih notLater]
    simp

theorem splitBefore?_comment (absent : ¬['-', '-', '>'] <:+: body) :
    splitBefore? (['-', '-', '>'].isPrefixOf ·) [] (body ++ '-' :: '-' :: '>' :: rest) =
      some (body, '-' :: '-' :: '>' :: rest) := by
  refine splitBefore?_first ['-', '-', '>'] id ?_ (by decide) ?_ ?_ nofun
  · simp
  · simpa using absent
  · rfl

theorem RawElement.closes_iff {element : RawElement} :
    element.closes text = true ↔ '<' :: '/' :: element.name <+: text.map Char.toLower := by
  rw [closes, beq_iff_eq, List.prefix_iff_eq_take, List.map_take, eq_comm]

theorem splitBefore?_closes {element : RawElement} {name : List Char}
    (absent : ¬('<' :: '/' :: element.name <:+: body.map Char.toLower))
    (spells : Spells element name) :
    splitBefore? element.closes [] (body ++ '<' :: '/' :: (name ++ rest)) =
      some (body, '<' :: '/' :: (name ++ rest)) := by
  refine splitBefore?_first ('<' :: '/' :: element.name) Char.toLower
    (fun text => RawElement.closes_iff) ?_ absent ?_ nofun
  · cases element <;> decide
  · rw [RawElement.closes_iff, List.map_cons, List.map_cons, List.map_append, spells]
    exact ⟨rest.map Char.toLower, rfl⟩

theorem takeWhile_name {name attributes : List Char} (isName : ∀ c ∈ name, c.isAlphanum = true)
    (apart : ∀ c, attributes.head? = some c → c.isAlphanum = false) :
    (name ++ attributes).takeWhile Char.isAlphanum = name := by
  rw [List.takeWhile_append_of_pos isName]
  cases attributes with
  | nil => simp
  | cons c rest => simp [apart c rfl]

theorem Grammar.IsName.alphanumeric {name : List Char} (isName : IsName name) :
    ∀ c ∈ name, c.isAlphanum = true := by
  cases isName with
  | letter letter others =>
    intro c inside
    cases inside with
    | head => simp [Char.isAlphanum, letter]
    | tail _ inside => exact others c inside

end Relevance.Html
