import Relevance.Index
import Relevance.Query.Basic

/-! Which documents a query holds of, and how often its leaves occur in them. -/

set_option autoImplicit false

namespace Relevance

namespace Index

/-- Whether terms, given by their postings, occur one after the other from a place on. Places are
counted without bound, and beyond the greatest position there is no token. -/
def continues (place : Nat) : List Posting → Bool
  | [] => true
  | posting :: rest =>
    place < UInt32.size && posting.contains (UInt32.ofNat place) && continues (place + 1) rest

/-- At how many positions some terms occur one directly after the other; occurrences may overlap. No
terms occur nowhere. -/
def phraseFrequency (index : Index) : List String → UInt32
  | [] => 0
  | first :: rest =>
    match rest.mapM index.posting? with
    | none => 0
    | some postings =>
      UInt32.ofNat ((index.positions first).countP fun start =>
        continues (start.toNat + 1) postings)

end Index

namespace Query

def leafFrequency? (index : Index) : Query → Option UInt32
  | term text _ => some (index.frequency text)
  | phrase terms _ => some (index.phraseFrequency terms)
  | _ => none

def holds (index : Index) : Query → Bool
  | term text _ => 0 < index.frequency text
  | phrase terms _ => 0 < index.phraseFrequency terms
  | conj children => children.attach.all fun ⟨child, _⟩ => child.holds index
  | disj children => children.attach.any fun ⟨child, _⟩ => child.holds index
  | neg child => !child.holds index

end Query

end Relevance
