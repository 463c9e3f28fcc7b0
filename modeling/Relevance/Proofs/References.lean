import Relevance.Html.Reference
import Relevance.Proofs.Document

/-! Well-formed references are read as the characters that are seen of them. -/

set_option autoImplicit false

namespace Relevance.Html

open Grammar Text

variable {base value : Nat} {c : Char} {body digits rest : List Char}

theorem toNat_lt_of_toLower_mem (isNumeral : c.toLower ∈ numerals) : c.toNat < 128 := by
  have small : numerals.all (·.toNat < 128) = true := by decide
  have lower := of_decide_eq_true (List.all_eq_true.mp small _ isNumeral)
  unfold Char.toLower at lower
  split at lower
  · next upper =>
    have bound : c.toNat ≤ 'Z'.toNat := upper.2
    exact Nat.lt_of_le_of_lt bound (by decide)
  · exact lower

theorem toNat_lt_of_digit? (isDigit : Numeral.digit? base c = some value) : c.toNat < 128 := by
  have upTo : ∀ last : Char, c ≤ last → last.toNat < 128 → c.toNat < 128 :=
    fun last below small => Nat.lt_of_le_of_lt below small
  unfold Numeral.digit? at isDigit
  by_cases decimal : c.isDigit = true
  · rw [Char.isDigit, Bool.and_eq_true, decide_eq_true_eq, decide_eq_true_eq] at decimal
    exact upTo '9' decimal.2 (by decide)
  by_cases lower : ('a' ≤ c && c ≤ 'f') = true
  · rw [Bool.and_eq_true, decide_eq_true_eq, decide_eq_true_eq] at lower
    exact upTo 'f' lower.2 (by decide)
  by_cases upper : ('A' ≤ c && c ≤ 'F') = true
  · rw [Bool.and_eq_true, decide_eq_true_eq, decide_eq_true_eq] at upper
    exact upTo 'F' upper.2 (by decide)
  rw [if_neg decimal, if_neg lower, if_neg upper] at isDigit
  simp at isDigit

theorem digit?_eq (isBase : base = 10 ∨ base = 16) (c : Char) :
    Numeral.digit? base c =
      if c.toLower ∈ numerals.take base then some (numerals.idxOf c.toLower) else none := by
  -- Digits and numerals lie below 128, so there are finitely many characters to look at.
  have all : ∀ base ∈ [10, 16], ∀ code < 128, Numeral.digit? base (Char.ofNat code) =
      if (Char.ofNat code).toLower ∈ numerals.take base then
        some (numerals.idxOf (Char.ofNat code).toLower) else none := by
    decide +kernel
  by_cases small : c.toNat < 128
  · have same := all base (by simpa using isBase) c.toNat small
    rwa [Char.ofNat_toNat] at same
  · rw [if_neg (mt (toNat_lt_of_toLower_mem ∘ List.mem_of_mem_take) small)]
    exact Option.eq_none_iff_forall_ne_some.mpr fun value => mt toNat_lt_of_digit? small

theorem readFrom?_numerals (isBase : base = 10 ∨ base = 16)
    (areNumerals : ∀ c ∈ digits, c.toLower ∈ numerals.take base) :
    Numeral.readFrom? base value digits = some (digits.foldl
      (fun number c => number * base + numerals.idxOf c.toLower) value) := by
  induction digits generalizing value with
  | nil => rfl
  | cons c digits ih =>
    rw [List.forall_mem_cons] at areNumerals
    rw [Numeral.readFrom?, digit?_eq isBase, if_pos areNumerals.1]
    exact ih areNumerals.2

theorem numerals_of_readFrom? {number : Nat} (isBase : base = 10 ∨ base = 16)
    (read : Numeral.readFrom? base value digits = some number) :
    ∀ c ∈ digits, c.toLower ∈ numerals.take base := by
  induction digits generalizing value with
  | nil => exact nofun
  | cons c digits ih =>
    rw [Numeral.readFrom?, digit?_eq isBase] at read
    by_cases isNumeral : c.toLower ∈ numerals.take base
    · rw [if_pos isNumeral] at read
      exact List.forall_mem_cons.mpr ⟨isNumeral, ih read⟩
    · rw [if_neg isNumeral] at read
      contradiction

theorem readDigits?_eq_some_iff {number : Nat} (isBase : base = 10 ∨ base = 16) :
    Numeral.readDigits? base digits = some number ↔
      IsNumber base digits ∧ numberOf base digits = number := by
  unfold Numeral.readDigits?
  constructor
  · intro read
    split at read
    · contradiction
    · next nonempty =>
      have areNumerals := numerals_of_readFrom? isBase read
      rw [readFrom?_numerals isBase areNumerals] at read
      exact ⟨⟨by simpa using nonempty, areNumerals⟩, Option.some.inj read⟩
  · rintro ⟨⟨nonempty, areNumerals⟩, rfl⟩
    rw [if_neg (by simpa using nonempty), readFrom?_numerals isBase areNumerals, numberOf]

theorem read?_isNumber (isBase : base = 10 ∨ base = 16) (isNumber : IsNumber base digits) :
    Numeral.read? base digits = some (numberOf base digits) := by
  have unsigned : ∀ rest, digits ≠ '+' :: rest := by
    rintro rest rfl
    have plus := List.mem_of_mem_take (isNumber.2 '+' List.mem_cons_self)
    exact absurd plus (by decide)
  rw [Numeral.read?, (readDigits?_eq_some_iff isBase).mpr ⟨isNumber, rfl⟩]
  exact fun rest same => unsigned rest same

theorem bind_scalar?_getD (number : Nat) :
    ((some number).bind Reference.scalar?).getD ' ' = characterOf number := by
  rw [Option.bind_some, Reference.scalar?, characterOf]
  split <;> rfl

theorem named?_eq_lookup (name : List Char) : Reference.named? name = entities.lookup name := by
  unfold Reference.named? entities
  simp only [List.lookup]
  grind

theorem value?_of_refers {value : Char} (refers : Refers body value) :
    Reference.value? body = some value := by
  cases refers with
  | named nonempty isName =>
    rw [Reference.value?, if_pos (List.all_eq_true.mpr isName), named?_eq_lookup]
    · exact nonempty
    · rintro number rfl
      exact absurd (isName '#' List.mem_cons_self) (by decide)
  | decimal isNumber =>
    rw [Reference.value?, Reference.numbered?, read?_isNumber (.inl rfl) isNumber,
      bind_scalar?_getD]
    · rintro rest rfl
      have numeral := isNumber.2 'x' List.mem_cons_self
      exact absurd numeral (by decide)
    · rintro rest rfl
      have numeral := isNumber.2 'X' List.mem_cons_self
      exact absurd numeral (by decide)
  | hexadecimal isMark isNumber =>
    rcases isMark with rfl | rfl <;>
      rw [Reference.value?, Reference.numbered?, read?_isNumber (.inr rfl) isNumber,
        bind_scalar?_getD]

theorem notMem_of_isNumber (isNumber : IsNumber base digits) (other : c.toLower ∉ numerals) :
    c ∉ digits :=
  fun inside => other (List.mem_of_mem_take (isNumber.2 c inside))

/-- A reference holds nothing but letters and digits behind its number sign. -/
theorem notMem_of_refers {value : Char} (refers : Refers body value) (noMark : c ≠ '#')
    (noName : c.isAlphanum = false) (noNumeral : c.toLower ∉ numerals) : c ∉ body := by
  cases refers with
  | named nonempty isName =>
    intro inside
    rw [isName c inside] at noName
    contradiction
  | decimal isNumber =>
    exact List.not_mem_cons_of_ne_of_not_mem noMark (notMem_of_isNumber isNumber noNumeral)
  | hexadecimal isMark isNumber =>
    apply List.not_mem_cons_of_ne_of_not_mem noMark
    apply List.not_mem_cons_of_ne_of_not_mem _ (notMem_of_isNumber isNumber noNumeral)
    rintro rfl
    rcases isMark with rfl | rfl <;> contradiction

theorem semicolon_notMem_of_refers {value : Char} (refers : Refers body value) : ';' ∉ body :=
  notMem_of_refers refers (by decide) rfl (by decide)

theorem splitSemicolon?_append {room : Nat} {before : List Char} (noSemicolon : ';' ∉ body)
    (fits : (body.map Char.utf8Size).sum < room) :
    Reference.splitSemicolon? room before (body ++ ';' :: rest) =
      some (before.reverse ++ body, rest) := by
  induction body generalizing room before with
  | nil =>
    rw [List.nil_append, Reference.splitSemicolon?, if_neg (Nat.ne_zero_of_lt fits), if_pos rfl,
      List.append_nil]
  | cons c body ih =>
    rw [List.mem_cons, not_or] at noSemicolon
    rw [List.map_cons, List.sum_cons] at fits
    rw [List.cons_append, Reference.splitSemicolon?, if_neg (by omega),
      if_neg (Ne.symm noSemicolon.1), ih noSemicolon.2 (by omega)]
    simp

theorem read?_of_value? {value : Char} (rest : List Char)
    (isValue : Reference.value? body = some value) (noSemicolon : ';' ∉ body)
    (short : (body.map Char.utf8Size).sum + 2 ≤ 32) :
    Reference.read? (body ++ ';' :: rest) = some ⟨value, body.length + 1, rest⟩ := by
  have fits : (body.map Char.utf8Size).sum < Reference.room := by
    rw [Reference.room]
    omega
  rw [Reference.read?, splitSemicolon?_append noSemicolon fits]
  simp [isValue]

/-- A well-formed reference of at most 32 bytes is read. -/
theorem read?_of_refers {value : Char} (rest : List Char) (refers : Refers body value)
    (short : (body.map Char.utf8Size).sum + 2 ≤ 32) :
    Reference.read? (body ++ ';' :: rest) = some ⟨value, body.length + 1, rest⟩ :=
  read?_of_value? rest (value?_of_refers refers) (semicolon_notMem_of_refers refers) short

end Relevance.Html
