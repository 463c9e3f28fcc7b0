import Relevance.Analysis.Analyzer
import Std.Data.ExtTreeMap.Basic

/-! The positions of every term of one document.

An index is built in one pass over the tokens. Tokens come in the order of their positions, so every
posting is sorted and is searched by halving.
-/

set_option autoImplicit false

namespace Relevance

open Analysis

structure Posting where
  positions : Array UInt32 := #[]
  deriving DecidableEq, Repr

namespace Posting

def frequency (posting : Posting) : UInt32 :=
  UInt32.ofNat posting.positions.size

def push (posting : Posting) (position : UInt32) : Posting :=
  ⟨posting.positions.push position⟩

/-- Halves a part of an array, given by its start and size, until one entry is left: the last that
is not above the key, if the array is sorted and has such an entry. -/
def seek (entries : Array UInt32) (key : UInt32) (start size : Nat) : Nat :=
  if size ≤ 1 then start
  else
    let half := size / 2
    let middle := start + half
    seek entries key (if entries[middle]?.any (key < ·) then start else middle) (size - half)
termination_by size

def contains (posting : Posting) (position : UInt32) : Bool :=
  let entries := posting.positions
  entries[seek entries position 0 entries.size]? == some position

end Posting

structure Index where
  postings : Std.ExtTreeMap String Posting := {}
  length : UInt32 := 0

namespace Index

def push (index : Index) (token : Token) : Index where
  postings := index.postings.alter token.term fun posting =>
    some ((posting.getD {}).push token.position)
  length := index.length + 1

def ofTokens (tokens : List Token) : Index :=
  tokens.foldl push {}

def posting? (index : Index) (term : String) : Option Posting :=
  index.postings[term]?

def frequency (index : Index) (term : String) : UInt32 :=
  ((index.posting? term).map Posting.frequency).getD 0

def positions (index : Index) (term : String) : Array UInt32 :=
  ((index.posting? term).map Posting.positions).getD #[]

def termCount (index : Index) : Nat :=
  index.postings.size

end Index

end Relevance
