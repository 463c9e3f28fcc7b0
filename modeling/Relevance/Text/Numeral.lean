/-! Natural numbers read from texts in which nothing but digits and a leading plus sign may stand.
-/

set_option autoImplicit false

namespace Relevance.Text.Numeral

/-- The value of a digit in a base of at most sixteen. -/
def digit? (base : Nat) (c : Char) : Option Nat :=
  let value :=
    if c.isDigit then c.toNat - '0'.toNat
    else if 'a' ≤ c && c ≤ 'f' then c.toNat - 'a'.toNat + 10
    else if 'A' ≤ c && c ≤ 'F' then c.toNat - 'A'.toNat + 10
    else base
  if value < base then some value else none

def readFrom? (base value : Nat) : List Char → Option Nat
  | [] => some value
  | c :: rest =>
    match digit? base c with
    | some d => readFrom? base (value * base + d) rest
    | none => none

def readDigits? (base : Nat) (digits : List Char) : Option Nat :=
  if digits.isEmpty then none else readFrom? base 0 digits

def read? (base : Nat) : List Char → Option Nat
  | '+' :: digits => readDigits? base digits
  | digits => readDigits? base digits

end Relevance.Text.Numeral
