import Relevance.Text.Numeral

/-! Decimal texts read as floats: digits with an optional point among them, an optional sign before
and an optional exponent behind. The value is the float nearest to the number written. -/

set_option autoImplicit false

namespace Relevance.Decimal

def splitSign : List Char → Bool × List Char
  | '-' :: rest => (true, rest)
  | '+' :: rest => (false, rest)
  | text => (false, text)

def splitFraction : List Char → List Char × List Char
  | '.' :: rest => (rest.takeWhile Char.isDigit, rest.dropWhile Char.isDigit)
  | text => ([], text)

def exponentLimit : Nat := 0x10000

/-- Extends an exponent by the digits of a text. All digits are read, but those after the limit is
reached do not count. -/
def exponentFrom? (value : Nat) : List Char → Option Nat
  | [] => some value
  | c :: rest =>
    match Text.Numeral.digit? 10 c with
    | some d => exponentFrom? (if value < exponentLimit then value * 10 + d else value) rest
    | none => none

def exponent? : List Char → Option Int
  | [] => some 0
  | c :: rest =>
    if c = 'e' || c = 'E' then
      let (negative, digits) := splitSign rest
      if digits.isEmpty then none
      else (exponentFrom? 0 digits).map fun value => if negative then -value else value
    else none

def toFloat (significand : Nat) (exponent : Int) : Float :=
  Float.ofScientific significand (exponent < 0) exponent.natAbs

/-- How many significant digits are read one by one. A float has fewer, and so has the number
halfway between two neighbouring floats. -/
def digitLimit : Nat := 800

/-- The significant digits of a number, and how many digits at its end were left out. Of those past
the limit it only counts whether they are all zero, so they become a single one if they are not. -/
def significant (digits : List Char) : List Char × Nat :=
  let digits := digits.dropWhile (· = '0')
  let beyond := digits.drop digitLimit
  if beyond.all (· = '0') then (digits.take digitLimit, beyond.length)
  else (digits.take digitLimit ++ ['1'], beyond.length - 1)

def read? (text : List Char) : Option Float :=
  let (negative, text) := splitSign text
  let whole := text.takeWhile Char.isDigit
  let (fraction, text) := splitFraction (text.dropWhile Char.isDigit)
  if whole.isEmpty && fraction.isEmpty then none
  else
    let (digits, dropped) := significant (whole ++ fraction)
    match Text.Numeral.readFrom? 10 0 digits, exponent? text with
    | some significand, some exponent =>
      let value := toFloat significand (exponent - fraction.length + dropped)
      some (if negative then -value else value)
    | _, _ => none

end Relevance.Decimal
