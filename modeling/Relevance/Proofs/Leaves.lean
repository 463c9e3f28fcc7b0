import Mathlib.Data.List.Basic
import Relevance.Ranking

/-! Queries with the boosts of all their leaves changed.

Boosts are factors of a score and nothing else: the documents that a query holds of, and what is
found of its leaves, do not depend on them.
-/

set_option autoImplicit false

namespace Relevance

namespace Query

/-- The same query with the boost of every leaf changed, also of those under negations. -/
def mapBoosts (change : Float → Float) : Query → Query
  | term text boost => term text (change boost)
  | phrase terms boost => phrase terms (change boost)
  | conj children => conj (children.map (mapBoosts change))
  | disj children => disj (children.map (mapBoosts change))
  | neg child => neg (child.mapBoosts change)

def unboosted (query : Query) : Query :=
  query.mapBoosts fun _ => 1.0

def allLeaves : Query → List Query
  | term text boost => [term text boost]
  | phrase terms boost => [phrase terms boost]
  | conj children | disj children => children.flatMap allLeaves
  | neg child => child.allLeaves

def multiply (boost factor : Float) : Float :=
  if factor == 1.0 then boost else boost * factor

variable {change : Float → Float} {index : Index}

theorem mapBoosts_mapBoosts (change change' : Float → Float) (query : Query) :
    (query.mapBoosts change).mapBoosts change' =
      query.mapBoosts fun boost => change' (change boost) := by
  fun_induction mapBoosts change query with
  | case1 | case2 => simp only [mapBoosts]
  | case3 children ih | case4 children ih => simpa [mapBoosts] using ih
  | case5 child ih => rw [mapBoosts, ih, mapBoosts]

theorem mapBoosts_id (query : Query) : query.mapBoosts (fun boost => boost) = query := by
  fun_induction mapBoosts (fun boost => boost) query with
  | case1 | case2 => rfl
  | case3 children ih | case4 children ih => rw [List.map_congr_left ih, List.map_id']
  | case5 child ih => rw [ih]

theorem unboosted_mapBoosts (change : Float → Float) (query : Query) :
    (query.mapBoosts change).unboosted = query.unboosted :=
  mapBoosts_mapBoosts change _ query

theorem scale_eq_mapBoosts (factor : Float) (query : Query) :
    query.scale factor = query.mapBoosts (· * factor) := by
  fun_induction scale factor query with
  | case1 | case2 => simp only [mapBoosts]
  | case3 children ih | case4 children ih => rw [mapBoosts, List.map_congr_left ih]
  | case5 child ih => rw [mapBoosts, ih]

/-- A boost reaches every leaf once. -/
theorem boost_eq_mapBoosts (factor : Float) (query : Query) :
    query.boost factor = query.mapBoosts (multiply · factor) := by
  unfold boost multiply
  split
  · exact (mapBoosts_id query).symm
  · exact scale_eq_mapBoosts factor query

theorem mapBoosts_ne_neg {query : Query} (positive : ∀ child, query ≠ neg child) (child : Query) :
    query.mapBoosts change ≠ neg child := by
  cases query with
  | neg child => exact (positive child rfl).elim
  | _ => simp [mapBoosts]

theorem unboosted_boost (factor : Float) (query : Query) :
    (query.boost factor).unboosted = query.unboosted := by
  rw [boost_eq_mapBoosts, unboosted_mapBoosts]

theorem allLeaves_mapBoosts (change : Float → Float) (query : Query) :
    (query.mapBoosts change).allLeaves = query.allLeaves.map (mapBoosts change) := by
  fun_induction allLeaves query with
  | case1 | case2 => simp [mapBoosts, allLeaves]
  | case3 children ih | case4 children ih =>
    rw [mapBoosts, allLeaves, List.flatMap_map, List.map_flatMap, List.flatMap_congr ih]
  | case5 child ih => rw [mapBoosts, allLeaves, ih]

theorem unboosted_negate (query : Query) : (negate query).unboosted = negate query.unboosted := by
  cases query <;> simp [negate, unboosted, mapBoosts]

theorem mapBoosts_conjunction? (queries : List Query) :
    (conjunction? queries).map (mapBoosts change) =
      conjunction? (queries.map (mapBoosts change)) := by
  match queries with
  | [] | [_] | _ :: _ :: _ => simp [conjunction?, mapBoosts]

theorem mapBoosts_disjunction? (queries : List Query) :
    (disjunction? queries).map (mapBoosts change) =
      disjunction? (queries.map (mapBoosts change)) := by
  match queries with
  | [] | [_] | _ :: _ :: _ => simp [disjunction?, mapBoosts]

theorem unboosted_ofTerms? (terms : List String) :
    (ofTerms? terms).map unboosted = ofTerms? terms := by
  match terms with
  | [] | [_] | _ :: _ :: _ => simp [ofTerms?, ofTerm, unboosted, mapBoosts]

theorem allLeaves_negate (query : Query) : (negate query).allLeaves = query.allLeaves := by
  cases query <;> simp [negate, allLeaves]

theorem allLeaves_conjunction? (queries : List Query) :
    (conjunction? queries).toList.flatMap allLeaves = queries.flatMap allLeaves := by
  match queries with
  | [] | [_] | _ :: _ :: _ => simp [conjunction?, allLeaves]

theorem allLeaves_disjunction? (queries : List Query) :
    (disjunction? queries).toList.flatMap allLeaves = queries.flatMap allLeaves := by
  match queries with
  | [] | [_] | _ :: _ :: _ => simp [disjunction?, allLeaves]

theorem allLeaves_ofTerms? (terms : List String) :
    (ofTerms? terms).toList.flatMap allLeaves = (ofTerms? terms).toList := by
  match terms with
  | [] | [_] | _ :: _ :: _ => simp [ofTerms?, ofTerm, allLeaves]

theorem holds_conj (index : Index) (children : List Query) :
    (conj children).holds index = (children.map (holds index)).all id := by
  simp [holds]

theorem holds_disj (index : Index) (children : List Query) :
    (disj children).holds index = (children.map (holds index)).any id := by
  simp [holds]

theorem holds_mapBoosts (query : Query) :
    (query.mapBoosts change).holds index = query.holds index := by
  fun_induction mapBoosts change query with
  | case1 | case2 => simp only [holds]
  | case3 children ih =>
    rw [holds_conj, holds_conj, List.map_map, Function.comp_def, List.map_congr_left ih]
  | case4 children ih =>
    rw [holds_disj, holds_disj, List.map_map, Function.comp_def, List.map_congr_left ih]
  | case5 child ih => rw [holds, holds, ih]

theorem leafFrequency?_mapBoosts (query : Query) :
    (query.mapBoosts change).leafFrequency? index = query.leafFrequency? index := by
  cases query <;> simp [mapBoosts, leafFrequency?]

end Query

namespace Score

open Query

def Leaf.mapBoosts (change : Float → Float) (leaf : Leaf) : Leaf :=
  ⟨leaf.query.mapBoosts change, leaf.frequency, change leaf.boost⟩

theorem leaves_mapBoosts (index : Index) (change : Float → Float) (query : Query) :
    leaves index (query.mapBoosts change) = (leaves index query).map (Leaf.mapBoosts change) := by
  fun_induction leaves index query with
  | case1 | case2 => simp [Query.mapBoosts, leaves, Leaf.mapBoosts]
  | case3 children ih | case4 children ih =>
    rw [Query.mapBoosts, leaves, List.flatMap_map, List.map_flatMap, List.flatMap_congr ih]
  | case5 => simp [Query.mapBoosts, leaves]

end Score

end Relevance
