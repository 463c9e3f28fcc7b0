import Relevance.Decimal.Layout
import Relevance.Ranking

/-! JSON values, and their texts without blanks. -/

set_option autoImplicit false

namespace Relevance.Service

inductive Json where
  | null
  | bool (value : Bool)
  | nat (value : Nat)
  | float (value : Float)
  | string (value : String)
  | array (items : List Json)
  | object (fields : List (String × Json))
  deriving Inhabited

namespace Json

/-- Floats are written out between `1e-5` and `1e16`, whole ones with a fraction of zero, and with
an exponent elsewhere. -/
def floatStyle : Decimal.Style :=
  ⟨.even, fun e => -5 ≤ e && e < 16, ['.', '0']⟩

def floatText (x : Float) : String :=
  match floatStyle.write? x with
  | some text => String.ofList text
  | none => "null"

def escape (c : Char) : List Char :=
  match c with
  | '"' => ['\\', '"']
  | '\\' => ['\\', '\\']
  | '\x08' => ['\\', 'b']
  | '\x0c' => ['\\', 'f']
  | '\n' => ['\\', 'n']
  | '\r' => ['\\', 'r']
  | '\t' => ['\\', 't']
  | c =>
    if c < ' ' then
      ['\\', 'u', '0', '0', Nat.digitChar (c.toNat / 16), Nat.digitChar (c.toNat % 16)]
    else [c]

def quote (s : String) : String :=
  String.ofList ('"' :: s.toList.flatMap escape ++ ['"'])

def text : Json → String
  | null => "null"
  | bool value => if value then "true" else "false"
  | nat value => String.ofList (Nat.toDigits 10 value)
  | float value => floatText value
  | string value => quote value
  | array items => "[" ++ ",".intercalate (items.map text) ++ "]"
  | object fields =>
    let entries := fields.map fun field => quote field.1 ++ ":" ++ field.2.text
    "\x7b" ++ ",".intercalate entries ++ "\x7d"
decreasing_by
  · decreasing_tactic
  · next member =>
    have whole := List.sizeOf_lt_of_mem member
    have part : sizeOf field = 1 + sizeOf field.1 + sizeOf field.2 := rfl
    simp only [object.sizeOf_spec]
    omega

def ofLeaf (e : Score.LeafExplanation) : Json :=
  object [("query", string e.query), ("term_frequency", nat e.termFrequency.toNat),
    ("boost", float e.boost), ("score", float e.score)]

def ofExplanation (e : Score.Explanation) : Json :=
  object [("score", float e.score), ("matches", bool e.holds), ("coord", float e.coordination),
    ("length_norm", float e.lengthNorm), ("length", nat e.length.toNat),
    ("leaves", array (e.leaves.map ofLeaf))]

end Json

end Relevance.Service
