/-! The shortest decimal that reads back as a given binary floating-point number.

The decimals with a fixed number of digits form a grid. If a point of a grid lies in the interval
of numbers that round to the given one, so does one of the two points next to it, so it is enough
to look at these two, on ever finer grids. All arithmetic is on natural numbers and exact.
-/

set_option autoImplicit false

namespace Relevance

structure Decimal where
  significand : Nat
  exponent : Int
  deriving DecidableEq, Repr

namespace Decimal

inductive Tie where
  | even
  | up
  deriving DecidableEq, Repr

/-- A positive rational number `value / unit` amid the numbers that round to it: they reach down by
`lower / unit` and up by `upper / unit`. -/
structure Neighbourhood where
  value : Nat
  lower : Nat
  upper : Nat
  unit : Nat
  closed : Bool

namespace Neighbourhood

/-- The neighbourhood of the float `mantissa * 2 ^ exponent`, in quarters of the last place. Below a
power of two floats lie twice as close as above it, except at the least exponent; the ends round to
the even mantissa. -/
def ofFinite (mantissa : Nat) (exponent : Int) : Neighbourhood :=
  let lower := if mantissa = Nat.pow 2 52 ∧ -1074 < exponent then 1 else 2
  let scale := Nat.pow 2 (exponent - 2).toNat
  ⟨4 * mantissa * scale, lower * scale, 2 * scale, Nat.pow 2 (2 - exponent).toNat, mantissa % 2 = 0⟩

def measure (n : Neighbourhood) (exponent : Int) : Neighbourhood :=
  let scale := Nat.pow 10 (-exponent).toNat
  { n with
    value := n.value * scale
    lower := n.lower * scale
    upper := n.upper * scale
    unit := n.unit * Nat.pow 10 exponent.toNat }

def integer? (tie : Tie) (n : Neighbourhood) : Option Nat :=
  let down := n.value / n.unit
  let above := n.value % n.unit
  let below := n.unit - above
  let within (distance margin : Nat) : Bool :=
    if n.closed then distance ≤ margin else distance < margin
  match within above n.lower, within below n.upper with
  | true, true =>
    some (match compare (2 * above) n.unit with
      | .lt => down
      | .gt => down + 1
      | .eq => match tie with
        | .even => down + down % 2
        | .up => down + 1)
  | true, false => some down
  | false, true => some (down + 1)
  | false, false => none

def places (n : Neighbourhood) : Int :=
  -- every double has its first digit within 400 places of the point
  (Nat.toDigits 10 (n.value * Nat.pow 10 400 / n.unit)).length - 400

/-- The decimal with the given number of digits that is nearest to the value and lies in the
neighbourhood. Only the step from nines to a power of ten leaves a zero at the end. -/
def withDigits? (tie : Tie) (n : Neighbourhood) (digits : Nat) : Option Decimal :=
  let exponent := n.places - digits
  ((n.measure exponent).integer? tie).map fun significand =>
    if significand % 10 = 0 then ⟨significand / 10, exponent + 1⟩ else ⟨significand, exponent⟩

end Neighbourhood

/-- The decimal with the fewest digits that reads back as the float `mantissa * 2 ^ exponent`, and
of these the nearest. Seventeen digits are always enough. -/
def shortest (tie : Tie) (mantissa : Nat) (exponent : Int) : Decimal :=
  let n := Neighbourhood.ofFinite mantissa exponent
  ((List.range' 1 17).findSome? (n.withDigits? tie)).getD ⟨0, 0⟩

end Decimal

end Relevance
