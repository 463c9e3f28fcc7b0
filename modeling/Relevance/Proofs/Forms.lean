import Mathlib.Tactic.IntervalCases
import Relevance.Proofs.Bytes
import Relevance.Proofs.Locations

/-! Web forms as browsers write them, and their names and values read back. -/

set_option autoImplicit false

namespace Relevance.Service.Form

open Text (asciiByte)

def isPlain (byte : UInt8) : Bool :=
  let c := Char.ofNat byte.toNat
  c.isAlphanum || c == '*' || c == '-' || c == '.' || c == '_'

/-- A byte of a name or value: a space is a plus sign, and what is not plain is a percent sign with
two digits. -/
def encodeByte (byte : UInt8) : List Char :=
  if byte = 0x20 then ['+']
  else if isPlain byte then [Char.ofNat byte.toNat]
  else Url.percentByte byte

def encodeText (text : String) : List Char :=
  text.toUTF8.toList.flatMap encodeByte

def encodePair (pair : String × String) : List Char :=
  encodeText pair.1 ++ '=' :: encodeText pair.2

def encode (pairs : List (String × String)) : String :=
  String.ofList (['&'].intercalate (pairs.map encodePair))

section

variable {α β : Type} {separator : α}

theorem eq_or_mem_of_mem_intercalate {x : α} {parts : List (List α)}
    (member : x ∈ [separator].intercalate parts) : x = separator ∨ ∃ part ∈ parts, x ∈ part := by
  induction parts with
  | nil => contradiction
  | cons part parts ih =>
    cases parts with
    | nil => exact .inr ⟨part, List.mem_singleton_self part, by simpa using member⟩
    | cons next parts =>
      rw [List.intercalate_cons_cons, List.append_assoc, List.mem_append, List.mem_append,
        List.mem_singleton] at member
      rcases member with member | member | member
      · exact .inr ⟨part, List.mem_cons_self, member⟩
      · exact .inl member
      · refine (ih member).imp_right fun ⟨other, isPart, member⟩ => ?_
        exact ⟨other, List.mem_cons_of_mem part isPart, member⟩

theorem map_intercalate (f : α → β) (parts : List (List α)) :
    ([separator].intercalate parts).map f = [f separator].intercalate (parts.map (·.map f)) := by
  induction parts with
  | nil => rfl
  | cons part parts ih =>
    cases parts with
    | nil => simp
    | cons next parts =>
      simp only [List.map_cons, List.intercalate_cons_cons, List.map_append] at ih ⊢
      rw [ih, List.map_nil]

end

def isWritten (c : Char) : Bool :=
  ' ' < c && c ≤ '~' && !Url.isSpecialInQuery c

theorem of_mem_encodeByte {c : Char} {byte : UInt8} (written : c ∈ encodeByte byte) :
    isWritten c = true ∧ c ≠ '&' ∧ c ≠ '=' := by
  have all : ∀ byte, (encodeByte byte).all fun c => isWritten c && c ≠ '&' && c ≠ '=' :=
    Text.forall_byte (by decide +kernel)
  simpa [and_assoc] using List.all_eq_true.mp (all byte) c written

theorem of_mem_encodeText {c : Char} {text : String} (written : c ∈ encodeText text) :
    isWritten c = true ∧ c ≠ '&' ∧ c ≠ '=' := by
  obtain ⟨byte, -, written⟩ := List.mem_flatMap.mp written
  exact of_mem_encodeByte written

theorem of_mem_encodePair {c : Char} {pair : String × String} (written : c ∈ encodePair pair) :
    isWritten c = true ∧ c ≠ '&' := by
  rcases List.mem_append.mp written with written | written
  · exact ⟨(of_mem_encodeText written).1, (of_mem_encodeText written).2.1⟩
  · rcases List.mem_cons.mp written with rfl | written
    · decide
    · exact ⟨(of_mem_encodeText written).1, (of_mem_encodeText written).2.1⟩

theorem isWritten_of_mem_encode {c : Char} {pairs : List (String × String)}
    (written : c ∈ (encode pairs).toList) : isWritten c = true := by
  rw [encode, String.toList_ofList] at written
  rcases eq_or_mem_of_mem_intercalate written with rfl | ⟨part, isPart, written⟩
  · decide
  · obtain ⟨pair, -, rfl⟩ := List.mem_map.mp isPart
    exact (of_mem_encodePair written).1

theorem toNat_lt_of_isWritten {c : Char} (written : isWritten c = true) : c.toNat < 0x80 := by
  simp only [isWritten, Bool.and_eq_true, decide_eq_true_eq] at written
  have bound : c.toNat ≤ 0x7E := written.1.2
  omega

theorem asciiByte_ne {c separator : Char} (written : isWritten c = true)
    (isAscii : separator.toNat < 0x80) (ne : c ≠ separator) :
    asciiByte c ≠ asciiByte separator := by
  intro same
  have bound := toNat_lt_of_isWritten written
  have same := congrArg UInt8.toNat same
  simp only [asciiByte, UInt8.toNat_ofNat'] at same
  exact ne (Char.toNat_inj.mp (by omega))

theorem of_isWritten {c : Char} (written : isWritten c = true) :
    ' ' < c ∧ c ≠ '#' ∧ Url.encodeChar Url.isSpecialInQuery c = [c] := by
  simp only [isWritten, Bool.and_eq_true, decide_eq_true_eq, Bool.not_eq_true'] at written
  obtain ⟨⟨low, high⟩, ordinary⟩ := written
  refine ⟨low, ?_, Url.encodeChar_of_plain low high ordinary⟩
  rintro rfl
  contradiction

/-- The bytes of a form: those of its parts, with ampersands between them. -/
theorem toList_toUTF8_encode (pairs : List (String × String)) :
    (encode pairs).toUTF8.toList =
      [0x26].intercalate (pairs.map fun pair => (encodePair pair).map asciiByte) := by
  rw [encode, Text.toList_toUTF8_of_ascii, map_intercalate, List.map_map]
  · rfl
  · intro c written
    exact toNat_lt_of_isWritten (isWritten_of_mem_encode (by rwa [encode, String.toList_ofList]))

def unplus (byte : UInt8) : UInt8 :=
  if byte = 0x2B then 0x20 else byte

theorem decode_eq (bytes : List UInt8) :
    decode bytes = String.ofList (Text.Utf8.decode (percentDecodeFrom [] (bytes.map unplus))) :=
  rfl

section

variable {done rest : List UInt8} {byte : UInt8}

theorem percentDecodeFrom_of_ne (plain : byte ≠ 0x25) :
    percentDecodeFrom done (byte :: rest) = percentDecodeFrom (byte :: done) rest := by
  rw [percentDecodeFrom, if_neg plain]

theorem percentDecodeFrom_of_escape {value : UInt8} {after : List UInt8}
    (found : escape? rest = some (value, after)) :
    percentDecodeFrom done (0x25 :: rest) = percentDecodeFrom (value :: done) after := by
  rw [percentDecodeFrom, if_pos rfl]
  split
  next value' after' found' =>
    simp only [found, Option.some.injEq, Prod.mk.injEq] at found'
    rw [found'.1, found'.2]
  next none => simp [found] at none

theorem of_isPlain (plain : isPlain byte = true) :
    unplus (asciiByte (Char.ofNat byte.toNat)) = byte ∧ byte ≠ 0x25 := by
  have all : ∀ byte, isPlain byte = true →
      unplus (asciiByte (Char.ofNat byte.toNat)) = byte ∧ byte ≠ 0x25 :=
    Text.forall_byte (by decide +kernel)
  exact all byte plain

theorem hexValue?_hexDigit {n : Nat} (isDigit : n < 16) :
    hexValue? (unplus (asciiByte (Url.hexDigit n))) = some (UInt8.ofNat n) := by
  interval_cases n <;> rfl

-- No digit is a plus sign, so escapes are as they were when they are read.
theorem escape?_percentByte :
    escape? (unplus (asciiByte (Url.hexDigit (byte.toNat / 16))) ::
      unplus (asciiByte (Url.hexDigit (byte.toNat % 16))) :: rest) = some (byte, rest) := by
  have bound := byte.toNat_lt
  have whole : UInt8.ofNat (byte.toNat / 16) * 16 + UInt8.ofNat (byte.toNat % 16) = byte := by
    rw [← UInt8.toNat_inj]
    simp
    omega
  simp only [escape?, hexValue?_hexDigit (show byte.toNat / 16 < 16 by omega),
    hexValue?_hexDigit (show byte.toNat % 16 < 16 by omega), whole]

theorem percentDecodeFrom_encodeByte :
    percentDecodeFrom done (((encodeByte byte).map asciiByte).map unplus ++ rest) =
      percentDecodeFrom (byte :: done) rest := by
  unfold encodeByte
  split
  next isSpace =>
    subst isSpace
    exact percentDecodeFrom_of_ne (by decide)
  next =>
    split
    next plain =>
      obtain ⟨same, ne⟩ := of_isPlain plain
      rw [List.map_singleton, List.map_singleton, same]
      exact percentDecodeFrom_of_ne ne
    next => exact percentDecodeFrom_of_escape escape?_percentByte

theorem percentDecodeFrom_encode (bytes : List UInt8) :
    percentDecodeFrom done (((bytes.flatMap encodeByte).map asciiByte).map unplus) =
      done.reverse ++ bytes := by
  induction bytes generalizing done with
  | nil => rw [List.append_nil]; exact percentDecodeFrom.eq_1 done
  | cons byte bytes ih =>
    rw [List.flatMap_cons, List.map_append, List.map_append, percentDecodeFrom_encodeByte, ih,
      List.reverse_cons, List.append_assoc, List.singleton_append]

end

theorem decode_encodeText (text : String) :
    decode ((encodeText text).map asciiByte) = text := by
  rw [decode_eq, encodeText, percentDecodeFrom_encode, Text.toList_toUTF8, List.reverse_nil,
    List.nil_append, Text.Utf8.decode_encode, String.ofList_toList]

theorem decodePair_encodePair (pair : String × String) :
    decodePair ((encodePair pair).map asciiByte) = pair := by
  have noSign : ∀ byte ∈ (encodeText pair.1).map asciiByte, decide (byte ≠ 0x3D) = true := by
    intro byte member
    obtain ⟨c, written, rfl⟩ := List.mem_map.mp member
    obtain ⟨written, -, ne⟩ := of_mem_encodeText written
    exact decide_eq_true (asciiByte_ne written (by decide) ne)
  have parts : (encodePair pair).map asciiByte =
      (encodeText pair.1).map asciiByte ++ 0x3D :: (encodeText pair.2).map asciiByte := by
    rw [encodePair, List.map_append]
    rfl
  rw [parts, decodePair, List.takeWhile_append_of_pos noSign, List.dropWhile_append_of_pos noSign]
  simp [decode_encodeText]

/-- Cutting at separators is the cutting of the library. -/
theorem splitFrom_eq (separator : UInt8) (part : List UInt8) (done : List (List UInt8))
    (bytes : List UInt8) :
    splitFrom separator part done bytes =
      done.reverse ++ List.splitOnPPrepend (· == separator) bytes part := by
  fun_induction splitFrom separator part done bytes with
  | case1 part done => rw [List.splitOnPPrepend_nil, List.reverse_cons]
  | case2 part done rest ih =>
    rw [ih, List.splitOnPPrepend_cons_pos (by simp), List.reverse_cons, List.append_assoc]
    rfl
  | case3 part done byte rest ne ih => rw [ih, List.splitOnPPrepend_cons_neg (by simpa using ne)]

theorem split_eq_splitOn (separator : UInt8) (bytes : List UInt8) :
    split separator bytes = bytes.splitOn separator :=
  splitFrom_eq separator [] [] bytes

theorem pairs_encode (pairs : List (String × String)) :
    Form.pairs (encode pairs).toUTF8.toList = pairs := by
  have noMark : ∀ part ∈ pairs.map fun pair => (encodePair pair).map asciiByte, 0x26 ∉ part := by
    intro part isPart member
    obtain ⟨pair, -, rfl⟩ := List.mem_map.mp isPart
    obtain ⟨c, written, same⟩ := List.mem_map.mp member
    obtain ⟨written, ne⟩ := of_mem_encodePair written
    exact asciiByte_ne written (by decide) ne same
  have full : ∀ part ∈ pairs.map fun pair => (encodePair pair).map asciiByte,
      (!part.isEmpty) = true := by
    intro part isPart
    obtain ⟨pair, -, rfl⟩ := List.mem_map.mp isPart
    simp [encodePair]
  rw [toList_toUTF8_encode, Form.pairs]
  cases pairs with
  | nil => rfl
  | cons pair pairs =>
    rw [split_eq_splitOn,
      List.splitOn_intercalate 0x26 noMark (List.cons_ne_nil _ _), List.filter_eq_self.mpr full,
      List.map_map]
    exact List.map_congr_left (fun pair _ => decodePair_encodePair pair) |>.trans (List.map_id _)

end Relevance.Service.Form
