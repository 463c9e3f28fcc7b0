import Mathlib.Tactic.IntervalCases
import Relevance.Text.Utf8

/-! The bytes of a text, and the text read back from them. Reading never fails, so what is shown
here is that intact text comes back as it was. -/

set_option autoImplicit false

namespace Relevance.Text

/-- What is true of the 256 numbers that bytes are made of is true of all bytes. -/
theorem forall_byte {P : UInt8 → Prop} (all : ∀ n < 256, P (UInt8.ofNat n)) (byte : UInt8) :
    P byte := by
  have here := all byte.toNat byte.toNat_lt
  rwa [UInt8.ofNat_toNat] at here

theorem toList_loop (bytes : ByteArray) (i : Nat) (done : List UInt8) :
    ByteArray.toList.loop bytes i done = done.reverse ++ bytes.data.toList.drop i := by
  fun_induction ByteArray.toList.loop bytes i done with
  | case1 i done inside ih =>
    have here : bytes.get! i = bytes.data.toList[i] := getElem!_pos bytes.data i inside
    rw [ih, here, List.drop_eq_getElem_cons (i := i) inside, List.reverse_cons, List.append_assoc,
      List.singleton_append]
  | case2 i done outside =>
    rw [List.drop_eq_nil_of_le (Nat.le_of_not_lt outside), List.append_nil]

theorem toList_toByteArray (bytes : List UInt8) : bytes.toByteArray.toList = bytes := by
  rw [ByteArray.toList, toList_loop, List.toList_data_toByteArray]
  rfl

theorem toList_toUTF8 (text : String) :
    text.toUTF8.toList = text.toList.flatMap String.utf8EncodeChar := by
  obtain ⟨chars, rfl⟩ : ∃ chars, text = String.ofList chars := ⟨_, text.ofList_toList.symm⟩
  rw [String.toUTF8_eq_toByteArray, String.toByteArray_ofList, List.utf8Encode,
    toList_toByteArray, String.toList_ofList]

theorem fromUTF8?_toUTF8 (text : String) : String.fromUTF8? text.toUTF8 = some text :=
  dif_pos text.isValidUTF8

def asciiByte (c : Char) : UInt8 :=
  UInt8.ofNat c.toNat

theorem toList_toUTF8_of_ascii {text : List Char} (isAscii : ∀ c ∈ text, c.toNat < 0x80) :
    (String.ofList text).toUTF8.toList = text.map asciiByte := by
  rw [toList_toUTF8, String.toList_ofList]
  induction text with
  | nil => rfl
  | cons c text ih =>
    rw [List.forall_mem_cons] at isAscii
    have one : String.utf8EncodeChar c = [asciiByte c] := if_pos (Nat.le_of_lt_succ isAscii.1)
    rw [List.flatMap_cons, ih isAscii.2, one, List.map_cons, List.singleton_append]

namespace Utf8

variable {done : List Char} {rest : List UInt8} {n : Nat}

theorem lead_of_lt (isAscii : n < 0x80) :
    lead (UInt8.ofNat n) = some (.inl (Char.ofNat n)) := by
  have value : (UInt8.ofNat n).toNat = n :=
    UInt8.toNat_ofNat_of_lt' (Nat.lt_trans isAscii (by decide))
  rw [lead, value, if_pos (by rw [UInt8.lt_iff_toNat_lt, value]; exact isAscii)]

theorem lead_two (low : 0xC2 ≤ n) (high : n < 0xE0) :
    lead (UInt8.ofNat n) = some (.inr ⟨n - 0xC0, 0, 0x80, 0xBF⟩) := by
  interval_cases n <;> rfl

/-- The bounds on the second byte keep out overlong forms and surrogates. -/
theorem lead_three (low : 0xE0 ≤ n) (high : n < 0xF0) :
    lead (UInt8.ofNat n) =
      some (.inr ⟨n - 0xE0, 1, if n = 0xE0 then 0xA0 else 0x80,
        if n = 0xED then 0x9F else 0xBF⟩) := by
  interval_cases n <;> rfl

/-- The bounds on the second byte keep out overlong forms and what is no code point. -/
theorem lead_four (low : 0xF0 ≤ n) (high : n < 0xF5) :
    lead (UInt8.ofNat n) =
      some (.inr ⟨n - 0xF0, 2, if n = 0xF0 then 0x90 else 0x80,
        if n = 0xF4 then 0x8F else 0xBF⟩) := by
  interval_cases n <;> rfl

theorem decodeFrom_of_lead {sequence : Incomplete} {byte : UInt8}
    (begins : lead byte = some (.inr sequence)) :
    decodeFrom none done (byte :: rest) = decodeFrom (some sequence) done rest := by
  simp only [decodeFrom, advance, beginSequence, begins]

section

variable {code : Nat} {low high : UInt8}

theorem toNat_ofNat_of_le (below : n ≤ high.toNat) : (UInt8.ofNat n).toNat = n :=
  UInt8.toNat_ofNat_of_lt' (Nat.lt_of_le_of_lt below high.toNat_lt)

theorem within_bounds (above : low.toNat ≤ n) (below : n ≤ high.toNat) :
    (decide (low ≤ UInt8.ofNat n) && decide (UInt8.ofNat n ≤ high)) = true := by
  simp only [UInt8.le_iff_toNat_le, toNat_ofNat_of_le below, Bool.and_eq_true, decide_eq_true_eq]
  exact ⟨above, below⟩

theorem decodeFrom_last (above : low.toNat ≤ n) (below : n ≤ high.toNat) :
    decodeFrom (some ⟨code, 0, low, high⟩) done (UInt8.ofNat n :: rest) =
      decodeFrom none (Char.ofNat (code * 64 + (n - 0x80)) :: done) rest := by
  simp only [decodeFrom, advance, within_bounds above below, toNat_ofNat_of_le below, if_true]

theorem decodeFrom_next {missing : Nat} (above : low.toNat ≤ n) (below : n ≤ high.toNat) :
    decodeFrom (some ⟨code, missing + 1, low, high⟩) done (UInt8.ofNat n :: rest) =
      decodeFrom (some ⟨code * 64 + (n - 0x80), missing, 0x80, 0xBF⟩) done rest := by
  simp only [decodeFrom, advance, within_bounds above below, toNat_ofNat_of_le below, if_true]

end

variable {v : Nat}

theorem decodeFrom_one (isAscii : v < 0x80) :
    decodeFrom none done (UInt8.ofNat v :: rest) = decodeFrom none (Char.ofNat v :: done) rest := by
  simp only [decodeFrom, advance, beginSequence, lead_of_lt isAscii]

theorem decodeFrom_two (low : 0x80 ≤ v) (high : v < 0x800) :
    decodeFrom none done (UInt8.ofNat (v / 64 % 32 + 192) :: UInt8.ofNat (v % 64 + 128) :: rest) =
      decodeFrom none (Char.ofNat v :: done) rest := by
  have whole : (v / 64 % 32 + 192 - 0xC0) * 64 + (v % 64 + 128 - 0x80) = v := by omega
  rw [decodeFrom_of_lead (lead_two (by omega) (by omega)),
    decodeFrom_last (by simp) (by simp; omega), whole]

theorem decodeFrom_three (low : 0x800 ≤ v) (high : v < 0x10000)
    (valid : v < 0xD800 ∨ 0xDFFF < v) :
    decodeFrom none done (UInt8.ofNat (v / 4096 % 16 + 224) :: UInt8.ofNat (v / 64 % 64 + 128) ::
        UInt8.ofNat (v % 64 + 128) :: rest) =
      decodeFrom none (Char.ofNat v :: done) rest := by
  have whole : ((v / 4096 % 16 + 224 - 0xE0) * 64 + (v / 64 % 64 + 128 - 0x80)) * 64 +
      (v % 64 + 128 - 0x80) = v := by omega
  rw [decodeFrom_of_lead (lead_three (by omega) (by omega)),
    decodeFrom_next (by split <;> simp; omega) (by split <;> simp <;> omega),
    decodeFrom_last (by simp) (by simp; omega), whole]

theorem decodeFrom_four (low : 0x10000 ≤ v) (high : v < 0x110000) :
    decodeFrom none done (UInt8.ofNat (v / 262144 % 8 + 240) ::
        UInt8.ofNat (v / 4096 % 64 + 128) :: UInt8.ofNat (v / 64 % 64 + 128) ::
        UInt8.ofNat (v % 64 + 128) :: rest) =
      decodeFrom none (Char.ofNat v :: done) rest := by
  have whole : (((v / 262144 % 8 + 240 - 0xF0) * 64 + (v / 4096 % 64 + 128 - 0x80)) * 64 +
      (v / 64 % 64 + 128 - 0x80)) * 64 + (v % 64 + 128 - 0x80) = v := by omega
  rw [decodeFrom_of_lead (lead_four (by omega) (by omega)),
    decodeFrom_next (by split <;> simp; omega) (by split <;> simp <;> omega),
    decodeFrom_next (by simp) (by simp; omega),
    decodeFrom_last (by simp) (by simp; omega), whole]

theorem toNat_valid (c : Char) : c.toNat < 0xD800 ∨ 0xDFFF < c.toNat ∧ c.toNat < 0x110000 :=
  c.valid

theorem decodeFrom_utf8EncodeChar (c : Char) :
    decodeFrom none done (String.utf8EncodeChar c ++ rest) = decodeFrom none (c :: done) rest := by
  have valid := toNat_valid c
  have same := Char.ofNat_toNat c
  -- One case for each length that a character can have.
  rw [String.utf8EncodeChar, ← Char.toNat]
  generalize c.toNat = v at valid same
  subst same
  split
  next => exact decodeFrom_one (by omega)
  next =>
    split
    next => exact decodeFrom_two (by omega) (by omega)
    next =>
      split
      next => exact decodeFrom_three (by omega) (by omega) (by omega)
      next => exact decodeFrom_four (by omega) (by omega)

theorem decodeFrom_encode (text : List Char) :
    decodeFrom none done (text.flatMap String.utf8EncodeChar) = done.reverse ++ text := by
  induction text generalizing done with
  | nil => simp [decodeFrom]
  | cons c text ih =>
    rw [List.flatMap_cons, decodeFrom_utf8EncodeChar, ih, List.reverse_cons, List.append_assoc,
      List.singleton_append]

theorem decode_encode (text : List Char) : decode (text.flatMap String.utf8EncodeChar) = text :=
  decodeFrom_encode text

end Utf8

end Relevance.Text
