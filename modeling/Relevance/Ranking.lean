import Relevance.Query.Matching
import Relevance.Query.Parser

/-! Scores of documents, alone or with all that they are made of.

With a single document there is nothing to measure the rarity of a term against, so a score is made
of how often terms occur, how long the document is, and how much of the query is found. A document
of which the query does not hold scores zero. Negated leaves decide only whether the query holds:
they are not counted and contribute nothing. Nothing is kept between calls: a document is indexed,
scored and forgotten.
-/

set_option autoImplicit false

namespace Relevance

namespace Score

def frequencyWeight (frequency : UInt32) : Float :=
  frequency.toFloat.sqrt

/-- The weight of the length of a document, so that long ones do not win by length alone. -/
def lengthNorm (length : UInt32) : Float :=
  1.0 / (max length 1).toFloat.sqrt

def coordination (matched total : Nat) : Float :=
  if total = 0 then 0.0 else Float.ofNat matched / Float.ofNat total

def leafScore (frequency : UInt32) (boost : Float) : Float :=
  frequencyWeight frequency * boost

def combine (sum : Float) (matched total : Nat) (length : UInt32) : Float :=
  coordination matched total * lengthNorm length * sum

structure Leaf where
  query : Query
  frequency : UInt32
  boost : Float

def leaves (index : Index) : Query → List Leaf
  | .term text boost => [⟨.term text boost, index.frequency text, boost⟩]
  | .phrase terms boost => [⟨.phrase terms boost, index.phraseFrequency terms, boost⟩]
  | .conj children | .disj children => children.flatMap (leaves index)
  | .neg _ => []

structure Tally where
  matched : Nat := 0
  sum : Float := 0.0

def Tally.add (tally : Tally) (leaf : Leaf) : Tally :=
  ⟨tally.matched + 1, tally.sum + leafScore leaf.frequency leaf.boost⟩

def score (index : Index) (query : Query) : Float :=
  if query.holds index then
    let leaves := leaves index query
    let tally := (leaves.filter fun leaf => 0 < leaf.frequency).foldl Tally.add {}
    combine tally.sum tally.matched leaves.length index.length
  else 0.0

structure LeafExplanation where
  query : String
  termFrequency : UInt32
  boost : Float
  score : Float

structure Explanation where
  score : Float
  holds : Bool
  coordination : Float
  lengthNorm : Float
  length : UInt32
  leaves : List LeafExplanation

/-- Explains a leaf, and adds it to what was found so far if it occurs. The explanations before it
are given with the last one first. -/
def explainLeaf (state : Tally × List LeafExplanation) (leaf : Leaf) :
    Tally × List LeafExplanation :=
  let (tally, done) := state
  let (tally, score) :=
    if 0 < leaf.frequency then (tally.add leaf, leafScore leaf.frequency leaf.boost)
    else (tally, 0.0)
  (tally, ⟨leaf.query.display, leaf.frequency, leaf.boost, score⟩ :: done)

def explain (index : Index) (query : Query) : Explanation :=
  -- the parts are given for a document that scores zero as well
  let holds := query.holds index
  let leaves := leaves index query
  let (tally, explanations) := leaves.foldl explainLeaf ({}, [])
  { score := if holds then combine tally.sum tally.matched leaves.length index.length else 0.0
    holds
    coordination := coordination tally.matched leaves.length
    lengthNorm := lengthNorm index.length
    length := index.length
    leaves := explanations.reverse }

end Score

open Analysis

def Index.ofText (analyzer : Analyzer) (document : String) : Index :=
  Index.ofTokens (analyzer.analyze document)

def rank (analyzer : Analyzer) (document query : String) : Except Query.ParseError Float := do
  let query ← Query.parse analyzer query
  return Score.score (Index.ofText analyzer document) query

def explain (analyzer : Analyzer) (document query : String) :
    Except Query.ParseError Score.Explanation := do
  let query ← Query.parse analyzer query
  return Score.explain (Index.ofText analyzer document) query

def formatScore (score : Float) : String :=
  Decimal.twoPlaces score

end Relevance
