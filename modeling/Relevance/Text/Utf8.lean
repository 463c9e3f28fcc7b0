/-! Reading UTF-8 that may be damaged. Each maximal part that no well-formed sequence continues is
read as one replacement character, so reading never fails and keeps every character that is
intact. -/

set_option autoImplicit false

namespace Relevance.Text.Utf8

structure Incomplete where
  code : Nat
  /-- How many bytes are missing after the next one. -/
  missing : Nat
  low : UInt8
  high : UInt8

/-- What the first byte of a sequence says: a whole character, the beginning of a longer sequence,
or nothing at all. The bounds on the second byte exclude overlong forms, surrogates and code
points above U+10FFFF. -/
def lead (byte : UInt8) : Option (Char ⊕ Incomplete) :=
  let bits := byte.toNat
  if byte < 0x80 then some (.inl (Char.ofNat bits))
  else if byte < 0xC2 then none
  else if byte < 0xE0 then some (.inr ⟨bits - 0xC0, 0, 0x80, 0xBF⟩)
  else if byte == 0xE0 then some (.inr ⟨0, 1, 0xA0, 0xBF⟩)
  else if byte == 0xED then some (.inr ⟨0xD, 1, 0x80, 0x9F⟩)
  else if byte < 0xF0 then some (.inr ⟨bits - 0xE0, 1, 0x80, 0xBF⟩)
  else if byte == 0xF0 then some (.inr ⟨0, 2, 0x90, 0xBF⟩)
  else if byte < 0xF4 then some (.inr ⟨bits - 0xF0, 2, 0x80, 0xBF⟩)
  else if byte == 0xF4 then some (.inr ⟨4, 2, 0x80, 0x8F⟩)
  else none

def beginSequence (byte : UInt8) (done : List Char) : Option Incomplete × List Char :=
  match lead byte with
  | some (.inl c) => (none, c :: done)
  | some (.inr sequence) => (some sequence, done)
  | none => (none, '\uFFFD' :: done)

def advance (pending : Option Incomplete) (byte : UInt8) (done : List Char) :
    Option Incomplete × List Char :=
  match pending with
  | none => beginSequence byte done
  | some ⟨code, missing, low, high⟩ =>
    if low ≤ byte && byte ≤ high then
      let code := code * 64 + (byte.toNat - 0x80)
      match missing with
      | 0 => (none, Char.ofNat code :: done)
      | missing + 1 => (some ⟨code, missing, 0x80, 0xBF⟩, done)
    else beginSequence byte ('\uFFFD' :: done)

def decodeFrom (pending : Option Incomplete) (done : List Char) : List UInt8 → List Char
  | [] => (if pending.isSome then '\uFFFD' :: done else done).reverse
  | byte :: bytes =>
    let (pending, done) := advance pending byte done
    decodeFrom pending done bytes

def decode (bytes : List UInt8) : List Char :=
  decodeFrom none [] bytes

end Relevance.Text.Utf8
