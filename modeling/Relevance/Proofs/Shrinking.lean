import Relevance.Analysis.Analyzer
import Relevance.Proofs.Decoding

/-! The length of a document in bytes while its markup is removed.

Whatever is removed or replaced, malformed or not, has more bytes than what takes its place. So a
text either stays as it is or becomes shorter, and what is collected of a document at any moment of
the scan has room in the bytes of the document.
-/

set_option autoImplicit false

namespace Relevance.Html

open Grammar String

variable {text left left' front rest output digits body document : List Char} {c value : Char}
  {number offset : Nat} {scanner : Scanner}

theorem length_le_utf8Len (text : List Char) : text.length ≤ utf8Len text := by
  induction text with
  | nil => exact Nat.le_refl _
  | cons c text ih => exact Nat.add_le_add ih c.utf8Size_pos

def Shrinks (text left : List Char) : Prop :=
  left = text ∨ utf8Len left < utf8Len text

namespace Shrinks

theorem refl (text : List Char) : Shrinks text text :=
  .inl rfl

theorem utf8Len_le (shrinks : Shrinks text left) : utf8Len left ≤ utf8Len text := by
  rcases shrinks with rfl | fewer
  · exact Nat.le_refl _
  · exact Nat.le_of_lt fewer

theorem eq_of_utf8Len_eq (shrinks : Shrinks text left) (same : utf8Len left = utf8Len text) :
    left = text :=
  shrinks.resolve_right (Nat.ne_of_lt · same)

theorem trans (shrinks : Shrinks text left) (further : Shrinks left left') :
    Shrinks text left' := by
  rcases further with rfl | fewer
  · exact shrinks
  · exact .inr (Nat.lt_of_lt_of_le fewer shrinks.utf8Len_le)

/-- What stands in front of a text that shrinks does not matter. -/
theorem append_left (front : List Char) (shrinks : Shrinks text left) :
    Shrinks (front ++ text) (front ++ left) := by
  rcases shrinks with rfl | fewer
  · exact refl _
  · refine .inr ?_
    rw [utf8Len_append, utf8Len_append]
    exact Nat.add_lt_add_left fewer _

/-- A piece of two bytes or more that becomes a space or nothing, with some of what follows it. -/
theorem markup (long : 1 < utf8Len front) (short : utf8Len output ≤ 1) (isSuffix : left <:+ rest) :
    Shrinks (front ++ rest) (output ++ left) := by
  have fewer := utf8Len_le_of_suffix isSuffix
  refine .inr ?_
  rw [utf8Len_append, utf8Len_append]
  omega

end Shrinks

theorem utf8Size_characterOf_digit (isDigit : c.toLower ∈ numerals.take 10) :
    (characterOf (numberOf 10 [c])).utf8Size = 1 := by
  have small : (numerals.take 10).all
      (fun digit => (characterOf (numerals.idxOf digit)).utf8Size = 1) = true := by
    decide
  have oneByte := of_decide_eq_true (List.all_eq_true.mp small _ isDigit)
  rwa [numberOf, List.foldl_cons, List.foldl_nil, Nat.zero_mul, Nat.zero_add]

-- No character has more than four bytes, and a number of one digit is that of a control character.
theorem Grammar.Numbers.utf8Size_lt (numbers : Numbers digits number) :
    (characterOf number).utf8Size < utf8Len digits + 3 := by
  have atMost := (characterOf number).utf8Size_le_four
  have bytes := length_le_utf8Len digits
  cases numbers with
  | @decimal sign digits isSign isNumber =>
    rw [List.length_append] at bytes
    match digits, isNumber with
    | [], isNumber => exact absurd rfl isNumber.1
    | [c], isNumber =>
      rw [utf8Size_characterOf_digit (isNumber.2 c List.mem_cons_self)]
      omega
    | _ :: _ :: _, _ =>
      simp only [List.length_cons] at bytes
      omega
  | @hexadecimal mark sign digits isMark isSign isNumber =>
    have nonempty := List.length_pos_iff.mpr isNumber.1
    rw [List.length_cons, List.length_append] at bytes
    omega

/-- A reference has more bytes than the character it is replaced by. -/
theorem Grammar.Replaced.utf8Size_lt (replaced : Replaced body value) :
    value.utf8Size < utf8Len body + 2 := by
  cases replaced with
  | named =>
    have oneByte : ((entities.lookup body).getD ' ').utf8Size = 1 := by
      rw [← named?_eq_lookup]
      unfold Reference.named?
      split_ifs <;> rfl
    rw [oneByte]
    omega
  | numbered numbers =>
    have fewer := numbers.utf8Size_lt
    have mark := ('#').utf8Size_pos
    rw [utf8Len_cons]
    omega
  | noNumber =>
    rw [show (' ').utf8Size = 1 from rfl]
    omega

theorem Reference.shrinks_of_read? {reference : Reference} (found : read? text = some reference) :
    Shrinks ('&' :: text) (reference.value :: reference.rest) := by
  obtain ⟨body, rfl, replaced, -⟩ := replaced_of_read? found
  have fewer := replaced.utf8Size_lt
  have ampersand : ('&').utf8Size = 1 := rfl
  have semicolon : (';').utf8Size = 1 := rfl
  refine .inr ?_
  rw [utf8Len_cons, utf8Len_cons, utf8Len_append, utf8Len_cons]
  omega

namespace Plain

theorem utf8Len_output_removeComment (ignoreQuotes : Bool) (text : List Char) :
    utf8Len (removeComment ignoreQuotes text).output ≤ 1 := by
  unfold removeComment
  split <;> dsimp only <;> decide

theorem utf8Len_output_removeContents (ignoreQuotes : Bool) (element : RawElement)
    (text : List Char) : utf8Len (removeContents ignoreQuotes element text).output ≤ 1 := by
  unfold removeContents
  split
  · split <;> dsimp only <;> decide
  · dsimp only
    decide

theorem shrinks_removeTag (ignoreQuotes : Bool) (text : List Char) :
    Shrinks ('<' :: text)
      ((removeTag ignoreQuotes text).output ++ (removeTag ignoreQuotes text).rest) := by
  unfold removeTag
  split
  · split
    · next tag rest ignoreQuotes cut =>
      obtain rfl := append_of_splitTag? cut
      have long : 1 < utf8Len ('<' :: (tag ++ ['>'])) := by
        have bytes := length_le_utf8Len ('<' :: (tag ++ ['>']))
        rw [List.length_cons, List.length_append, List.length_singleton] at bytes
        omega
      rw [List.append_cons, ← List.cons_append]
      split
      · exact .markup long (utf8Len_output_removeContents ..) (suffix_removeContents ..)
      · exact .markup long (by dsimp only; decide) List.suffix_rfl
    · exact .refl _
  · exact .refl _

/-- A piece of markup has more bytes than what it is replaced by, and a `<` that is text is kept. -/
theorem shrinks_removeMarkup (ignoreQuotes : Bool) (text : List Char) :
    Shrinks ('<' :: text)
      ((removeMarkup ignoreQuotes text).output ++ (removeMarkup ignoreQuotes text).rest) := by
  unfold removeMarkup
  split
  · next begins =>
    obtain ⟨rest, rfl⟩ := List.isPrefixOf_iff_prefix.mp begins
    have long : 1 < utf8Len ['<', '!', '-', '-'] := by decide
    exact .markup long (utf8Len_output_removeComment ..) (suffix_removeComment ..)
  · exact shrinks_removeTag ..

end Plain

/-- The states that the scan of a document passes through, with what is collected by then: the
scanner, the place, the output with its last character first, and the text that is left. -/
inductive Collects (document : List Char) : Scanner → Nat → List Char → List Char → Prop where
  | start : Collects document (Scanner.start document) 0 [] document
  | markup {scanner : Scanner} {offset : Nat} {output rest : List Char} :
      Collects document scanner offset output ('<' :: rest) →
      Collects document (scanner.removeMarkup offset rest).scanner
        (scanner.removeMarkup offset rest).offset
        ((scanner.removeMarkup offset rest).output ++ output)
        (scanner.removeMarkup offset rest).rest
  | reference {scanner : Scanner} {offset : Nat} {output rest : List Char} {reference : Reference} :
      Collects document scanner offset output ('&' :: rest) →
      Reference.read? rest = some reference →
      Collects document scanner (offset + reference.length + 1) (reference.value :: output)
        reference.rest
  | character {scanner : Scanner} {offset : Nat} {c : Char} {output rest : List Char} :
      Collects document scanner offset output (c :: rest) → c ≠ '<' →
      (c = '&' → Reference.read? rest = none) →
      Collects document scanner (offset + 1) (c :: output) rest

theorem Collects.passes (collects : Collects document scanner offset output rest) :
    Passes document scanner offset rest := by
  induction collects with
  | start => exact .start
  | markup _ ih => exact .markup ih
  | reference _ found ih => exact .reference ih found
  | character _ noTag noReference ih => exact .character ih noTag noReference

/-- What is collected is what is left of the document in the end. -/
theorem Collects.stripFrom (collects : Collects document scanner offset output rest) :
    ∃ scanner' offset',
      Collects document scanner' offset' (stripFrom scanner offset output rest).reverse [] := by
  fun_induction Html.stripFrom scanner offset output rest with
  | case1 scanner offset output =>
    rw [List.reverse_reverse]
    exact ⟨scanner, offset, collects⟩
  | case2 scanner offset output rest removal =>
    rename_i ih
    exact ih collects.markup
  | case3 scanner offset output rest reference found _ ih => exact ih (collects.reference found)
  | case4 scanner offset output rest missing _ ih =>
    exact ih (collects.character (by decide) fun _ => missing)
  | case5 scanner offset output c rest noTag noReference ih =>
    exact ih (collects.character noTag fun isMark => absurd isMark noReference)

/-- What is collected at any moment, with the text that is left behind it, is the document or has
fewer bytes. -/
theorem Collects.shrinks (collects : Collects document scanner offset output rest) :
    Shrinks document (output.reverse ++ rest) := by
  induction collects with
  | start => exact .refl _
  | @markup scanner offset output rest collects ih =>
    obtain ⟨sameOutput, sameRest, -⟩ := collects.passes.isAt.follows.removeMarkup
    rw [List.reverse_append, List.append_assoc, sameOutput, sameRest]
    exact ih.trans ((Plain.shrinks_removeMarkup ..).append_left _)
  | reference _ found ih =>
    rw [List.reverse_cons, List.append_assoc]
    exact ih.trans ((Reference.shrinks_of_read? found).append_left _)
  | character _ _ _ ih =>
    rw [List.reverse_cons, List.append_assoc]
    exact ih

theorem collects_strip (document : String) : ∃ scanner offset,
    Collects document.toList scanner offset (strip document).toList.reverse [] := by
  rw [strip_eq_stripFrom, toList_ofList]
  exact Collects.start.stripFrom

theorem shrinks_strip (document : String) : Shrinks document.toList (strip document).toList := by
  obtain ⟨scanner, offset, collects⟩ := collects_strip document
  simpa using collects.shrinks

/-- Documents through any number of filters. -/
theorem shrinks_filtered (filters : List Analysis.CharFilter) (document : String) :
    Shrinks document.toList
      (filters.foldl (fun text filter => filter.apply text) document).toList := by
  induction filters generalizing document with
  | nil => exact .refl _
  | cons filter filters ih =>
    cases filter with
    | stripHtml => exact (shrinks_strip document).trans (ih (strip document))

/-- A document does not grow when its markup is removed, however often, and it has as many bytes as
before only if it is the same. What is collected of it at any moment of the scan has room in the
bytes of what is read by then. -/
theorem strip_never_grows (document : String) :
    (strip document).utf8ByteSize ≤ document.utf8ByteSize ∧
    ((strip document).utf8ByteSize = document.utf8ByteSize ↔ strip document = document) ∧
    (∃ scanner offset, Collects document.toList scanner offset (strip document).toList.reverse []) ∧
    (∀ scanner offset output rest, Collects document.toList scanner offset output rest →
      utf8Len output + utf8Len rest ≤ document.utf8ByteSize) ∧
    ∀ filters : List Analysis.CharFilter,
      (filters.foldl (fun text filter => filter.apply text) document).utf8ByteSize ≤
        document.utf8ByteSize := by
  simp only [← utf8Len_toList]
  have shrinks := shrinks_strip document
  refine ⟨shrinks.utf8Len_le, ⟨fun same => ?_, fun same => ?_⟩, collects_strip document,
    fun scanner offset output rest collects => ?_,
    fun filters => (shrinks_filtered filters document).utf8Len_le⟩
  · exact toList_injective (shrinks.eq_of_utf8Len_eq same)
  · rw [same]
  · have fewer := collects.shrinks.utf8Len_le
    rwa [utf8Len_append, utf8Len_reverse] at fewer

/-- A reference to a character of four bytes, when it is replaced and in the end; and a text of
which everything is kept. -/
theorem strip_never_grows_emoji :
    Collects "&#128512;<b>".toList (Scanner.start "&#128512;<b>".toList) 9 ['😀'] "<b>".toList ∧
    utf8Len ['😀'] + utf8Len "<b>".toList ≤ "&#128512;<b>".utf8ByteSize ∧
    (strip "&#128512;<b>").utf8ByteSize ≤ "&#128512;<b>".utf8ByteSize ∧
    (strip "1 < 2").utf8ByteSize = "1 < 2".utf8ByteSize := by
  have collects : Collects "&#128512;<b>".toList (Scanner.start "&#128512;<b>".toList) 9 ['😀']
      "<b>".toList := by
    have found : Reference.read? "#128512;<b>".toList = some ⟨'😀', 8, "<b>".toList⟩ := by cbv
    exact .reference .start found
  obtain ⟨smaller, -, -, collected, -⟩ := strip_never_grows "&#128512;<b>"
  obtain ⟨-, same, -⟩ := strip_never_grows "1 < 2"
  exact ⟨collects, collected _ _ _ _ collects, smaller, same.mpr (by cbv)⟩

end Relevance.Html
