import Mathlib.Data.List.Forall2
import Relevance.Ranking

/-! A score and its explanation are made of the same leaves, and of the same operations on floats in
the same order. Nothing is assumed of these operations. -/

set_option autoImplicit false

namespace Relevance

open Analysis

namespace Query

def isLeaf : Query → Bool
  | term .. | phrase .. => true
  | _ => false

def isNegation : Query → Bool
  | neg _ => true
  | _ => false

def leafBoost? : Query → Option Float
  | term _ boost | phrase _ boost => some boost
  | _ => none

/-- A node of a query with all the nodes above it, the nearest one first. -/
structure Node where
  above : List Query
  query : Query

def nodes (above : List Query) : Query → List Node
  | term text boost => [⟨above, term text boost⟩]
  | phrase terms boost => [⟨above, phrase terms boost⟩]
  | conj children => ⟨above, conj children⟩ :: children.flatMap (nodes (conj children :: above))
  | disj children => ⟨above, disj children⟩ :: children.flatMap (nodes (disj children :: above))
  | neg child => ⟨above, neg child⟩ :: child.nodes (neg child :: above)

def Node.counts (node : Node) : Bool :=
  node.query.isLeaf && !node.above.any isNegation

def countedLeaves (query : Query) : List Query :=
  ((query.nodes []).filter Node.counts).map Node.query

theorem above_of_mem_nodes {above : List Query} {node : Node} {query : Query}
    (isNode : node ∈ query.nodes above) : above <:+ node.above := by
  fun_induction nodes above query with
  | case1 | case2 =>
    obtain rfl := List.mem_singleton.mp isNode
    exact List.suffix_rfl
  | case3 above children ih | case4 above children ih =>
    rcases List.mem_cons.mp isNode with rfl | isNode
    · exact List.suffix_rfl
    · obtain ⟨child, isChild, isNode⟩ := List.mem_flatMap.mp isNode
      exact (List.suffix_cons _ above).trans (ih child isChild isNode)
  | case5 above child ih =>
    rcases List.mem_cons.mp isNode with rfl | isNode
    · exact List.suffix_rfl
    · exact (List.suffix_cons _ above).trans (ih isNode)

theorem not_counts_of_negated {above : List Query} {node : Node} {query : Query}
    (isNode : node ∈ query.nodes above) (negated : above.any isNegation = true) :
    node.counts = false := by
  obtain ⟨child, isAbove, isNegation⟩ := List.any_eq_true.mp negated
  have found := (above_of_mem_nodes isNode).subset isAbove
  have negated : node.above.any Query.isNegation = true :=
    List.any_eq_true.mpr ⟨_, found, isNegation⟩
  rw [Node.counts, negated, Bool.not_true, Bool.and_false]

end Query

namespace Score

open Query

variable {index : Index}

theorem map_leaves_eq (index : Index) {above : List Query}
    (positive : above.any isNegation = false) (query : Query) :
    (leaves index query).map Leaf.query =
      ((query.nodes above).filter Node.counts).map Node.query := by
  fun_induction nodes above query with
  | case1 | case2 => simp [leaves, Node.counts, isLeaf, positive]
  | case3 above children ih | case4 above children ih =>
    have parts : ∀ child ∈ children, (leaves index child).map Leaf.query =
        ((child.nodes (_ :: above)).filter Node.counts).map Node.query :=
      fun child isChild => ih child isChild positive
    rw [leaves, List.map_flatMap, List.flatMap_congr parts]
    simp [Node.counts, isLeaf, List.filter_flatMap, List.map_flatMap]
  | case5 above child ih =>
    have none : ((child.nodes (neg child :: above)).filter Node.counts) = [] :=
      List.filter_eq_nil_iff.mpr fun node isNode =>
        ne_true_of_eq_false (not_counts_of_negated isNode rfl)
    simp [leaves, Node.counts, isLeaf, none]

theorem leaf_of_mem_leaves {leaf : Leaf} {query : Query} (isLeaf : leaf ∈ leaves index query) :
    leaf.query.leafFrequency? index = some leaf.frequency ∧
      leaf.query.leafBoost? = some leaf.boost := by
  fun_induction leaves index query with
  | case1 | case2 =>
    obtain rfl := List.mem_singleton.mp isLeaf
    exact ⟨rfl, rfl⟩
  | case3 children ih | case4 children ih =>
    obtain ⟨child, isChild, isLeaf⟩ := List.mem_flatMap.mp isLeaf
    exact ih child isChild isLeaf
  | case5 => contradiction

def Leaf.explanation (leaf : Leaf) : LeafExplanation where
  query := leaf.query.display
  termFrequency := leaf.frequency
  boost := leaf.boost
  score := if 0 < leaf.frequency then leafScore leaf.frequency leaf.boost else 0.0

-- Going through all leaves and adding up those that occur, as an explanation does, finds the same
-- as leaving the others out first, as a score does.
theorem foldl_explainLeaf (leaves : List Leaf) (tally : Tally) (done : List LeafExplanation) :
    leaves.foldl explainLeaf (tally, done) =
      ((leaves.filter fun leaf => 0 < leaf.frequency).foldl Tally.add tally,
        (leaves.map Leaf.explanation).reverse ++ done) := by
  induction leaves generalizing tally done with
  | nil => rfl
  | cons leaf leaves ih =>
    by_cases occurs : 0 < leaf.frequency
    · have step : explainLeaf (tally, done) leaf = (tally.add leaf, leaf.explanation :: done) := by
        simp [explainLeaf, Leaf.explanation, occurs]
      simp [step, ih, occurs]
    · have step : explainLeaf (tally, done) leaf = (tally, leaf.explanation :: done) := by
        simp [explainLeaf, Leaf.explanation, occurs]
      simp [step, ih, occurs]

theorem explain_score_eq (index : Index) (query : Query) :
    (explain index query).score = score index query := by
  simp only [explain, score, foldl_explainLeaf]

theorem explain_leaves_eq (index : Index) (query : Query) :
    (explain index query).leaves = (leaves index query).map Leaf.explanation := by
  simp only [explain, foldl_explainLeaf, List.append_nil, List.reverse_reverse]

/-- A part of an explanation is about a leaf: it shows the leaf, how often it occurs and how it is
boosted, and what it contributes if it occurs. -/
structure Explains (index : Index) (explanation : LeafExplanation) (leaf : Query) : Prop where
  shown : explanation.query = leaf.display
  frequency : leaf.leafFrequency? index = some explanation.termFrequency
  boost : leaf.leafBoost? = some explanation.boost
  score : explanation.score =
    if 0 < explanation.termFrequency then leafScore explanation.termFrequency explanation.boost
    else 0.0

theorem explains_leaf {leaf : Leaf} {query : Query} (isLeaf : leaf ∈ leaves index query) :
    Explains index leaf.explanation leaf.query where
  shown := rfl
  frequency := (leaf_of_mem_leaves isLeaf).1
  boost := (leaf_of_mem_leaves isLeaf).2
  score := rfl

theorem explain_leaves_explains (index : Index) (query : Query) :
    List.Forall₂ (Explains index) (explain index query).leaves query.countedLeaves := by
  rw [explain_leaves_eq, countedLeaves, ← map_leaves_eq index rfl,
    List.forall₂_map_left_iff, List.forall₂_map_right_iff, List.forall₂_same]
  exact fun leaf isLeaf => explains_leaf isLeaf

end Score

theorem rank_eq_map_parse (analyzer : Analyzer) (document text : String) :
    rank analyzer document text =
      (Query.parse analyzer text).map (Score.score (Index.ofText analyzer document)) := by
  rw [rank]
  cases Query.parse analyzer text <;> rfl

theorem explain_eq_map_parse (analyzer : Analyzer) (document text : String) :
    explain analyzer document text =
      (Query.parse analyzer text).map (Score.explain (Index.ofText analyzer document)) := by
  rw [explain]
  cases Query.parse analyzer text <;> rfl

theorem map_eq_error_iff {Error Value Value' : Type} {result : Except Error Value}
    {f : Value → Value'} {error : Error} : result.map f = .error error ↔ result = .error error := by
  cases result <;> simp [Except.map]

/-- An explanation has the score that is given without it, says whether the query holds, and lists
the leaves that have no negation above them. Ranking a document is explaining it and keeping the
score. Both fail exactly as reading the query does, whatever the document. -/
theorem explain_agrees_with_score :
    (∀ (index : Index) (query : Query),
      (Score.explain index query).score = Score.score index query ∧
      (Score.explain index query).holds = query.holds index ∧
      List.Forall₂ (Score.Explains index) (Score.explain index query).leaves query.countedLeaves) ∧
    ∀ (analyzer : Analyzer) (text : String),
      (∀ document, rank analyzer document text =
        (explain analyzer document text).map Score.Explanation.score) ∧
      ∀ document error,
        (rank analyzer document text = .error error ↔ Query.parse analyzer text = .error error) ∧
        (explain analyzer document text = .error error ↔
          Query.parse analyzer text = .error error) := by
  constructor
  · intro index query
    exact ⟨Score.explain_score_eq index query, rfl, Score.explain_leaves_explains index query⟩
  · intro analyzer text
    constructor
    · intro document
      rw [rank_eq_map_parse, explain_eq_map_parse]
      cases Query.parse analyzer text with
      | error error => rfl
      | ok query => exact congrArg Except.ok (Score.explain_score_eq _ query).symm
    · intro document error
      rw [rank_eq_map_parse, explain_eq_map_parse]
      exact ⟨map_eq_error_iff, map_eq_error_iff⟩

end Relevance
