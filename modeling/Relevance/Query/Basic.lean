import Relevance.Decimal.Layout

/-! Queries: trees of terms and phrases.

A query is written in one way: every combination is put in parentheses and every leaf carries its
whole boost.
-/

set_option autoImplicit false

namespace Relevance

/-- A condition on documents. Terms and phrases are its leaves, and each leaf has a boost, by
which its contribution to the score is multiplied. -/
inductive Query where
  | term (text : String) (boost : Float)
  | phrase (terms : List String) (boost : Float)
  | conj (children : List Query)
  | disj (children : List Query)
  | neg (child : Query)
  deriving Inhabited

namespace Query

def ofTerm (text : String) : Query :=
  term text 1.0

def ofTerms? : List String → Option Query
  | [] => none
  | [text] => some (ofTerm text)
  | terms => some (phrase terms 1.0)

/-- The query that asks for all of some queries; none if there are none. A single query is its own
conjunction. -/
def conjunction? : List Query → Option Query
  | [] => none
  | [child] => some child
  | children => some (conj children)

def disjunction? : List Query → Option Query
  | [] => none
  | [child] => some child
  | children => some (disj children)

def negate : Query → Query
  | neg child => child
  | child => neg child

def scale (factor : Float) : Query → Query
  | term text boost => term text (boost * factor)
  | phrase terms boost => phrase terms (boost * factor)
  | conj children => conj (children.map (scale factor))
  | disj children => disj (children.map (scale factor))
  | neg child => neg (child.scale factor)

def boost (factor : Float) (query : Query) : Query :=
  if factor == 1.0 then query else query.scale factor

/-- Whether two queries are built alike from the same terms and numerically equal boosts. A boost
that is not a number equals none. -/
def beq : Query → Query → Bool
  | term text boost, term text' boost' => text == text' && boost == boost'
  | phrase terms boost, phrase terms' boost' => terms == terms' && boost == boost'
  | conj children, conj children' | disj children, disj children' =>
    children.length == children'.length &&
      (children.attach.zip children').all fun (⟨child, _⟩, child') => child.beq child'
  | neg child, neg child' => child.beq child'
  | _, _ => false

instance : BEq Query := ⟨beq⟩

/-- Boosts are written with the fewest digits that read back and never with an exponent. -/
def boostStyle : Decimal.Style :=
  ⟨.up, fun _ => true, []⟩

def boostText (boost : Float) : String :=
  match boostStyle.write? boost with
  | some text => String.ofList text
  | none => if boost.isNaN then "NaN" else if boost < 0.0 then "-inf" else "inf"

def boostSuffix (boost : Float) : String :=
  if boost == 1.0 then "" else "^" ++ boostText boost

def display : Query → String
  | term text boost => text ++ boostSuffix boost
  | phrase terms boost => "\"" ++ " ".intercalate terms ++ "\"" ++ boostSuffix boost
  | conj children => "(" ++ " AND ".intercalate (children.map display) ++ ")"
  | disj children => "(" ++ " OR ".intercalate (children.map display) ++ ")"
  | neg child => "NOT " ++ child.display

end Query

end Relevance
