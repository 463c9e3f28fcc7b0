import Relevance.Proofs.Grammar

/-! The characters of the texts that are read as decimals. None of them ends a word, so the text of
a boost is read as a whole. -/

set_option autoImplicit false

namespace Relevance

variable {c : Char} {text rest : List Char}

theorem toNat_lt_of_isAlphanum (alphanumeric : c.isAlphanum = true) : c.toNat < 128 := by
  simp only [Char.isAlphanum, Char.isAlpha, Char.isUpper, Char.isLower, Char.isDigit, ge_iff_le,
    Bool.or_eq_true, Bool.and_eq_true, decide_eq_true_eq, UInt32.le_iff_toNat_le] at alphanumeric
  change ((65 ≤ c.toNat ∧ c.toNat ≤ 90) ∨ (97 ≤ c.toNat ∧ c.toNat ≤ 122)) ∨
    (48 ≤ c.toNat ∧ c.toNat ≤ 57) at alphanumeric
  omega

/-- All letters and digits are below U+0080, so it is enough to look at these characters. -/
theorem of_isAlphanum {P : Char → Prop}
    (all : ∀ code < 128, (Char.ofNat code).isAlphanum = true → P (Char.ofNat code))
    (alphanumeric : c.isAlphanum = true) : P c := by
  have same := all c.toNat (toNat_lt_of_isAlphanum alphanumeric)
  rw [Char.ofNat_toNat] at same
  exact same alphanumeric

/-- Letters and digits are parts of words. -/
theorem isBoundary_of_isAlphanum (alphanumeric : c.isAlphanum = true) :
    Query.Token.isBoundary c = false :=
  of_isAlphanum (P := fun c => Query.Token.isBoundary c = false) (by decide +kernel) alphanumeric

namespace Decimal

def IsNumeric (c : Char) : Prop :=
  c.isDigit = true ∨ c ∈ ['+', '-', '.', 'e', 'E']

theorem isNumeric_of_splitSign (numeric : ∀ c ∈ (splitSign text).2, IsNumeric c) :
    ∀ c ∈ text, IsNumeric c := by
  unfold splitSign at numeric
  split at numeric
  · exact List.forall_mem_cons.mpr ⟨.inr (by decide), numeric⟩
  · exact List.forall_mem_cons.mpr ⟨.inr (by decide), numeric⟩
  · exact numeric

theorem isNumeric_of_dropWhile (numeric : ∀ c ∈ text.dropWhile Char.isDigit, IsNumeric c) :
    ∀ c ∈ text, IsNumeric c := by
  intro c isText
  rw [← List.takeWhile_append_dropWhile (l := text) (p := Char.isDigit)] at isText
  rcases List.mem_append.mp isText with isDigit | isBehind
  · exact .inl (List.mem_takeWhile_imp isDigit)
  · exact numeric c isBehind

theorem isNumeric_of_splitFraction (numeric : ∀ c ∈ (splitFraction text).2, IsNumeric c) :
    ∀ c ∈ text, IsNumeric c := by
  unfold splitFraction at numeric
  split at numeric
  · exact List.forall_mem_cons.mpr ⟨.inr (by decide), isNumeric_of_dropWhile numeric⟩
  · exact numeric

theorem isDigit_of_digit? {value : Nat} (found : Text.Numeral.digit? 10 c = some value) :
    c.isDigit = true := by
  by_contra other
  simp only [Text.Numeral.digit?, other] at found
  grind

theorem isNumeric_of_exponentFrom? {start value : Nat}
    (found : exponentFrom? start text = some value) : ∀ c ∈ text, IsNumeric c := by
  fun_induction exponentFrom? start text with
  | case1 => nofun
  | case2 start c rest d digit ih =>
    exact List.forall_mem_cons.mpr ⟨.inl (isDigit_of_digit? digit), ih found⟩
  | case3 => contradiction

theorem isNumeric_of_exponent? {value : Int} (found : exponent? text = some value) :
    ∀ c ∈ text, IsNumeric c := by
  unfold exponent? at found
  split at found
  · exact List.forall_mem_nil _
  · next c rest =>
    split at found
    · next mark =>
      have isMark : IsNumeric c := by
        rw [Bool.or_eq_true, decide_eq_true_eq, decide_eq_true_eq] at mark
        rcases mark with rfl | rfl <;> exact .inr (by decide)
      simp only at found
      split at found
      · contradiction
      · obtain ⟨value, lifted, -⟩ := Option.map_eq_some_iff.mp found
        obtain ⟨value, digits, -⟩ := Option.bind_eq_some_iff.mp lifted
        exact List.forall_mem_cons.mpr
          ⟨isMark, isNumeric_of_splitSign (isNumeric_of_exponentFrom? digits)⟩
    · contradiction

/-- A text that is read as a decimal is not empty, and all its characters are those of decimals. -/
theorem isNumeric_of_read? {value : Float} (found : read? text = some value) :
    text ≠ [] ∧ ∀ c ∈ text, IsNumeric c := by
  constructor
  · rintro rfl
    contradiction
  · simp only [read?] at found
    split at found
    · contradiction
    · split at found
      · next exponent =>
        exact isNumeric_of_splitSign (isNumeric_of_dropWhile
          (isNumeric_of_splitFraction (isNumeric_of_exponent? exponent)))
      · contradiction

theorem isBoundary_of_isNumeric (numeric : IsNumeric c) : Query.Token.isBoundary c = false := by
  rcases numeric with digit | mark
  · exact isBoundary_of_isAlphanum (by rw [Char.isAlphanum, digit, Bool.or_true])
  · simp only [List.mem_cons, List.not_mem_nil, or_false] at mark
    rcases mark with rfl | rfl | rfl | rfl | rfl <;> decide

end Decimal

/-- The text of a boost is not empty and holds nothing before which a word ends. -/
theorem Query.Grammar.IsBoost.inside {text : String} {factor : Float}
    (isBoost : IsBoost text factor) :
    text.toList ≠ [] ∧ ∀ c ∈ text.toList, Token.isBoundary c = false := by
  obtain ⟨nonempty, numeric⟩ := Decimal.isNumeric_of_read? isBoost.read
  exact ⟨nonempty, fun c isText => Decimal.isBoundary_of_isNumeric (numeric c isText)⟩

end Relevance
