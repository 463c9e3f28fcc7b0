import Relevance.Decimal.Shortest

/-! Floats written out in decimal: with the fewest digits that read back, or with a fixed number of
places. -/

set_option autoImplicit false

namespace Relevance.Decimal

def digits (d : Decimal) : List Char :=
  Nat.toDigits 10 d.significand

/-- How many digits stand before the point; not positive if the first digit comes after it. -/
def point (d : Decimal) : Int :=
  d.digits.length + d.exponent

def positional (wholeMark : List Char) (d : Decimal) : List Char :=
  if 0 ≤ d.exponent then d.digits ++ List.replicate d.exponent.toNat '0' ++ wholeMark
  else if 0 < d.point then
    d.digits.take d.point.toNat ++ '.' :: d.digits.drop d.point.toNat
  else '0' :: '.' :: List.replicate (-d.point).toNat '0' ++ d.digits

def scientific (d : Decimal) : List Char :=
  let exponent := d.point - 1
  let sign := if exponent < 0 then '-' else '+'
  let fraction := match d.digits.drop 1 with
    | [] => []
    | rest => '.' :: rest
  d.digits.take 1 ++ fraction ++ 'e' :: sign :: Nat.toDigits 10 exponent.natAbs

structure Style where
  tie : Tie
  /-- Whether a number whose first digit counts `10 ^ e` is written without an exponent. -/
  isPositional : Int → Bool
  /-- What follows a whole number that is written without an exponent. -/
  wholeMark : List Char

def signMark : Float.Model.UnpackedFloat.Sign → List Char
  | .positive => []
  | .negative => ['-']

/-- The text of a finite float with the fewest digits that read back; none for infinities and NaN.
-/
def Style.write? (style : Style) (x : Float) : Option (List Char) :=
  match x.toModel.unpack with
  | .notANumber | .infinity _ => none
  | .zero sign => some (signMark sign ++ '0' :: style.wholeMark)
  | .finite sign mantissa exponent _ =>
    let d := shortest style.tie mantissa exponent
    let text :=
      if style.isPositional (d.point - 1) then d.positional style.wholeMark else d.scientific
    some (signMark sign ++ text)

def divideNearest (numerator denominator : Nat) : Nat :=
  let down := numerator / denominator
  match compare (2 * (numerator % denominator)) denominator with
  | .lt => down
  | .gt => down + 1
  | .eq => down + down % 2

def hundredths (n : Nat) : List Char :=
  Nat.toDigits 10 (n / 100) ++ ['.', Nat.digitChar (n / 10 % 10), Nat.digitChar (n % 10)]

/-- A float rounded from its exact value to two places, a tie to the even digit. The sign is kept
where the digits are all zero. -/
def twoPlaces (x : Float) : String :=
  String.ofList (match x.toModel.unpack with
    | .notANumber => ['N', 'a', 'N']
    | .infinity sign => signMark sign ++ ['i', 'n', 'f']
    | .zero sign => signMark sign ++ hundredths 0
    | .finite sign mantissa exponent _ =>
      let numerator := mantissa * 100 * Nat.pow 2 exponent.toNat
      let denominator := Nat.pow 2 (-exponent).toNat
      signMark sign ++ hundredths (divideNearest numerator denominator))

end Relevance.Decimal
