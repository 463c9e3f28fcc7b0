import Relevance.Proofs.Decoding

/-! Texts in which characters are written as references.

Any text can be written so that nothing of it is taken for markup, in many ways, and from each of
them it is read back. What the references stand for is not read again, even if it looks like markup.
-/

set_option autoImplicit false

namespace Relevance.Html

namespace Grammar

/-- The digits of a number, in any letter case and with any number of zeros before them. -/
def IsNumeral (base number : Nat) (digits : List Char) : Prop :=
  ∃ zeros, digits.map Char.toLower = List.replicate zeros '0' ++ Nat.toDigits base number

inductive Escape : List Char → Char → Prop where
  | literal {c : Char} : c ≠ '<' → c ≠ '&' → Escape [c] c
  | named {name : List Char} {c : Char} : (name, c) ∈ entities → Escape ('&' :: (name ++ [';'])) c
  | decimal {digits : List Char} {c : Char} : IsNumeral 10 c.toNat digits → Fits ('#' :: digits) →
      Escape ('&' :: '#' :: (digits ++ [';'])) c
  | hexadecimal {mark : Char} {digits : List Char} {c : Char} : mark = 'x' ∨ mark = 'X' →
      IsNumeral 16 c.toNat digits → Fits ('#' :: mark :: digits) →
      Escape ('&' :: '#' :: mark :: (digits ++ [';'])) c

inductive Escapes : List Char → List Char → Prop where
  | nil : Escapes [] []
  | cons {source rest text : List Char} {c : Char} : Escape source c → Escapes rest text →
      Escapes (source ++ rest) (c :: text)

end Grammar

open Grammar

variable {base number : Nat} {c : Char} {name digits source text : List Char}

section

variable (isBase : base = 10 ∨ base = 16)

include isBase

theorem numeral_digitChar {digit : Nat} (small : digit < base) :
    Nat.digitChar digit ∈ numerals.take base ∧ numerals.idxOf (Nat.digitChar digit) = digit := by
  have decimal : ∀ digit < 10, Nat.digitChar digit ∈ numerals.take 10 := by decide
  have hexadecimal : ∀ digit < 16, Nat.digitChar digit ∈ numerals.take 16 := by decide
  have values : ∀ digit < 16, numerals.idxOf (Nat.digitChar digit) = digit := by decide
  rcases isBase with rfl | rfl
  · exact ⟨decimal digit small, values digit (by omega)⟩
  · exact ⟨hexadecimal digit small, values digit small⟩

/-- The digits of a number are numerals, and the number is read back from them. -/
theorem numerals_toDigits (number : Nat) :
    (∀ c ∈ Nat.toDigits base number, c ∈ numerals.take base) ∧
      (Nat.toDigits base number).foldl (fun number c => number * base + numerals.idxOf c) 0 =
        number := by
  have positive : 1 < base := by omega
  induction number using Nat.strongRecOn with
  | ind number ih =>
    rw [Nat.toDigits_eq_if positive]
    by_cases small : number < base
    · obtain ⟨isNumeral, value⟩ := numeral_digitChar isBase small
      rw [if_pos small, List.forall_mem_singleton, List.foldl_cons, value]
      simpa using isNumeral
    · have less : number / base < number := Nat.div_lt_self (by omega) positive
      obtain ⟨areNumerals, read⟩ := ih (number / base) less
      obtain ⟨isNumeral, value⟩ := numeral_digitChar isBase (Nat.mod_lt number (by omega))
      rw [if_neg small, List.forall_mem_append, List.foldl_append, read, List.foldl_cons, value]
      exact ⟨⟨areNumerals, List.forall_mem_singleton.mpr isNumeral⟩, Nat.div_add_mod' number base⟩

theorem Grammar.IsNumeral.isNumber (isNumeral : IsNumeral base number digits) :
    IsNumber base digits ∧ numberOf base digits = number := by
  obtain ⟨zeros, lower⟩ := isNumeral
  obtain ⟨areNumerals, read⟩ := numerals_toDigits isBase number
  have zero : '0' ∈ numerals.take base := by rcases isBase with rfl | rfl <;> decide
  refine ⟨⟨?_, fun c inside => ?_⟩, ?_⟩
  · rintro rfl
    have empty := (List.append_eq_nil_iff.mp lower.symm).2
    exact Nat.toDigits_ne_nil empty
  · have isDigit : c.toLower ∈ List.replicate zeros '0' ++ Nat.toDigits base number :=
      lower ▸ List.mem_map_of_mem inside
    rcases List.mem_append.mp isDigit with isZero | isDigit
    · rwa [List.eq_of_mem_replicate isZero]
    · exact areNumerals _ isDigit
  · have zeros_skipped : ∀ zeros, (List.replicate zeros '0').foldl
        (fun number c => number * base + numerals.idxOf c) 0 = 0 := by
      intro zeros
      induction zeros with
      | zero => rfl
      | succ zeros ih =>
        rw [List.replicate_succ, List.foldl_cons, Nat.zero_mul]
        exact ih
    calc numberOf base digits
      _ = (digits.map Char.toLower).foldl
          (fun number c => number * base + numerals.idxOf c) 0 := by
        rw [List.foldl_map, numberOf]
      _ = number := by rw [lower, List.foldl_append, zeros_skipped, read]

end

theorem characterOf_toNat (c : Char) : characterOf c.toNat = c := by
  have valid : c.toNat.isValidChar := c.valid
  rw [characterOf, if_pos valid, Char.ofNat_toNat]

/-- What the name of an entity refers to. -/
theorem refers_of_mem_entities (isEntity : (name, c) ∈ entities) : Refers name c ∧ Fits name := by
  have names : ∀ entity ∈ entities, entity.1 ≠ [] ∧ entity.1.all Char.isAlphanum = true := by decide
  have values : ∀ entity ∈ entities, (entities.lookup entity.1).getD ' ' = entity.2 := by decide
  have short : ∀ entity ∈ entities, Fits entity.1 := by decide
  obtain ⟨nonempty, isName⟩ := names _ isEntity
  have refers := Refers.named nonempty (List.all_eq_true.mp isName)
  rw [values _ isEntity] at refers
  exact ⟨refers, short _ isEntity⟩

/-- What is written for a character is a piece of a document of which this character is seen. -/
theorem Grammar.Escape.piece (escape : Escape source c) : Piece source [c] := by
  cases escape with
  | literal noTag noReference => exact .character noTag noReference
  | named isEntity =>
    obtain ⟨refers, fits⟩ := refers_of_mem_entities isEntity
    exact .reference refers fits
  | decimal isNumeral fits =>
    obtain ⟨isNumber, value⟩ := isNumeral.isNumber (.inl rfl)
    have refers := Refers.decimal isNumber
    rw [value, characterOf_toNat] at refers
    exact .reference refers fits
  | hexadecimal isMark isNumeral fits =>
    obtain ⟨isNumber, value⟩ := isNumeral.isNumber (.inr rfl)
    have refers := Refers.hexadecimal isMark isNumber
    rw [value, characterOf_toNat] at refers
    exact .reference refers fits

theorem Grammar.Escapes.document (escapes : Escapes source text) : Document source text := by
  induction escapes with
  | nil => exact .nil
  | cons escape _ ih => exact .cons escape.piece ih

theorem exists_escapes (text : List Char) : ∃ source, Escapes source text := by
  induction text with
  | nil => exact ⟨[], .nil⟩
  | cons c text ih =>
    obtain ⟨rest, escapes⟩ := ih
    have written : ∃ source, Escape source c := by
      by_cases tag : c = '<'
      · subst tag
        exact ⟨_, @Escape.named ['l', 't'] '<' (by decide)⟩
      · by_cases reference : c = '&'
        · subst reference
          exact ⟨_, @Escape.named ['a', 'm', 'p'] '&' (by decide)⟩
        · exact ⟨_, .literal tag reference⟩
    obtain ⟨source, escape⟩ := written
    exact ⟨source ++ rest, .cons escape escapes⟩

/-- Every text can be written with references for some of its characters, at least for those with
which markup could begin, and however it is written, stripping leaves just the text. -/
theorem strip_of_escapes (text : String) :
    (∃ written : String, Escapes written.toList text.toList) ∧
      ∀ written : String, Escapes written.toList text.toList → strip written = text := by
  constructor
  · obtain ⟨source, escapes⟩ := exists_escapes text.toList
    exact ⟨String.ofList source, by rwa [String.toList_ofList]⟩
  · intro written escapes
    have stripped := strip_of_document _ _ escapes.document
    rwa [String.ofList_toList, String.ofList_toList] at stripped

/-- What is written here stands for a tag and for a reference, and both are left as they are. -/
theorem strip_of_escapes_tag : strip "&lt;i>&#x026;l&#0116;;&#XE9;" = "<i>&lt;é" := by
  have tag : Escape ['&', 'l', 't', ';'] '<' := @Escape.named ['l', 't'] '<' (by decide)
  have ampersand : Escape ['&', '#', 'x', '0', '2', '6', ';'] '&' :=
    @Escape.hexadecimal 'x' ['0', '2', '6'] '&' (.inl rfl) ⟨1, by decide⟩ (by decide)
  have letter : Escape ['&', '#', '0', '1', '1', '6', ';'] 't' :=
    @Escape.decimal ['0', '1', '1', '6'] 't' ⟨1, by decide⟩ (by decide)
  have accented : Escape ['&', '#', 'X', 'E', '9', ';'] 'é' :=
    @Escape.hexadecimal 'X' ['E', '9'] 'é' (.inr rfl) ⟨0, by decide⟩ (by decide)
  have escapes := Escapes.cons tag (.cons (.literal (c := 'i') nofun nofun)
    (.cons (.literal (c := '>') nofun nofun) (.cons ampersand
    (.cons (.literal (c := 'l') nofun nofun) (.cons letter
    (.cons (.literal (c := ';') nofun nofun) (.cons accented .nil)))))))
  exact (strip_of_escapes "<i>&lt;é").2 "&lt;i>&#x026;l&#0116;;&#XE9;" escapes

end Relevance.Html
