import Relevance.Text.Numeral
import Relevance.Text.Utf8
import Std.Data.ExtTreeMap.Basic

/-! The parameters of requests, encoded as web forms: names and values joined by equals signs, and
pairs joined by ampersands. -/

set_option autoImplicit false

namespace Relevance.Service

abbrev Parameters : Type := Std.ExtTreeMap String String

namespace Form

/-- Cuts a list at every entry that equals a separator. The part that the rest continues and the
parts before it are given with their last entry first. -/
def splitFrom (separator : UInt8) (part : List UInt8) (done : List (List UInt8)) :
    List UInt8 → List (List UInt8)
  | [] => (part.reverse :: done).reverse
  | byte :: rest =>
    if byte = separator then splitFrom separator [] (part.reverse :: done) rest
    else splitFrom separator (byte :: part) done rest

def split (separator : UInt8) (bytes : List UInt8) : List (List UInt8) :=
  splitFrom separator [] [] bytes

def hexValue? (byte : UInt8) : Option UInt8 :=
  (Text.Numeral.digit? 16 (Char.ofNat byte.toNat)).map UInt8.ofNat

def escape? : List UInt8 → Option (UInt8 × List UInt8)
  | high :: low :: rest =>
    match hexValue? high, hexValue? low with
    | some h, some l => some (h * 16 + l, rest)
    | _, _ => none
  | _ => none

theorem length_of_escape? {bytes rest : List UInt8} {byte : UInt8}
    (found : escape? bytes = some (byte, rest)) : rest.length < bytes.length := by
  unfold escape? at found
  split at found
  · split at found
    · simp only [Option.some.injEq, Prod.mk.injEq] at found
      simp only [← found.2, List.length_cons]
      omega
    · simp at found
  · simp at found

/-- Reads percent signs with the two digits after them as bytes; a percent sign that is not
followed by two digits is kept. The bytes read are given with the last one first. -/
def percentDecodeFrom (done : List UInt8) : List UInt8 → List UInt8
  | [] => done.reverse
  | byte :: rest =>
    if byte = 0x25 then
      match found : escape? rest with
      | some (value, after) =>
        have := length_of_escape? found
        percentDecodeFrom (value :: done) after
      | none => percentDecodeFrom (byte :: done) rest
    else percentDecodeFrom (byte :: done) rest
termination_by bytes => bytes.length

def decode (bytes : List UInt8) : String :=
  let spaced := bytes.map fun byte => if byte = 0x2B then 0x20 else byte
  String.ofList (Text.Utf8.decode (percentDecodeFrom [] spaced))

def decodePair (bytes : List UInt8) : String × String :=
  (decode (bytes.takeWhile (· ≠ 0x3D)), decode ((bytes.dropWhile (· ≠ 0x3D)).drop 1))

def pairs (bytes : List UInt8) : List (String × String) :=
  ((split 0x26 bytes).filter (!·.isEmpty)).map decodePair

end Form

def Parameters.addAll (parameters : Parameters) (pairs : List (String × String)) : Parameters :=
  pairs.foldl (fun parameters (name, value) => parameters.insert name value) parameters

end Relevance.Service
