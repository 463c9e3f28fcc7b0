/-! Properties of code points given by tables of ranges.

A table is written as rows in increasing order and searched as a binary tree, so a look-up takes a
number of comparisons logarithmic in the number of rows.
-/

set_option autoImplicit false

namespace Relevance.Unicode

inductive RangeTable (α : Type) where
  | empty
  | node (left : RangeTable α) (first last : Nat) (value : α) (right : RangeTable α)

namespace RangeTable

variable {α : Type}

def find? (code : Nat) : RangeTable α → Option α
  | empty => none
  | node left first last value right =>
    if code < first then left.find? code
    else if last < code then right.find? code
    else some value

/-- Moves rows from the front of a list into a tree of at most the given depth; also returns the
rows that are left over. -/
def fill : Nat → List (Nat × Nat × α) → RangeTable α × List (Nat × Nat × α)
  | 0, rows => (empty, rows)
  | depth + 1, rows =>
    match fill depth rows with
    | (left, []) => (left, [])
    | (left, (first, last, value) :: rows) =>
      let (right, rows) := fill depth rows
      (node left first last value right, rows)

/-- The table of rows `(first, last, value)` in increasing order. A tree of depth `d` holds
`2 ^ d - 1` rows, so no row is left over. -/
def ofRows (rows : List (Nat × Nat × α)) : RangeTable α :=
  (fill (rows.length.log2 + 1) rows).1

end RangeTable

abbrev RangeSet : Type := RangeTable Unit

def RangeSet.ofRanges (ranges : List (Nat × Nat)) : RangeSet :=
  RangeTable.ofRows (ranges.map fun (first, last) => (first, last, ()))

def RangeSet.contains (set : RangeSet) (c : Char) : Bool :=
  (set.find? c.toNat).isSome

end Relevance.Unicode
