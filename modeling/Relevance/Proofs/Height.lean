import Mathlib.Data.List.Chain
import Relevance.Ranking

/-! How deep queries are, and with it the functions that go through them.

Every function on queries calls itself for the children of a query only, so that its calls nest no
deeper than the ways down to the leaves are long.
-/

set_option autoImplicit false

namespace Relevance.Query

def children : Query → List Query
  | term .. | phrase .. => []
  | conj children | disj children => children
  | neg child => [child]

def IsWayDown (way : List Query) : Prop :=
  way.IsChain fun parent child => child ∈ parent.children

/-- No way down from a query passes more than `limit` queries, itself and the leaf included. -/
inductive Within : Nat → Query → Prop where
  | node {limit : Nat} {query : Query} :
      (∀ child ∈ query.children, Within limit child) → Within (limit + 1) query

variable {limit limit' : Nat} {query : Query} {queries : List Query} {Answer : Type}

theorem Within.mono (within : Within limit query) (le : limit ≤ limit') : Within limit' query := by
  induction within generalizing limit' with
  | node _ ih =>
    cases limit' with
    | zero => contradiction
    | succ limit' => exact .node fun child isChild => ih child isChild (Nat.le_of_succ_le_succ le)

theorem Within.length_le (within : Within limit query) {way : List Query}
    (isWay : IsWayDown (query :: way)) : (query :: way).length ≤ limit := by
  induction within generalizing way with
  | @node limit _ _ ih =>
    cases way with
    | nil => exact Nat.succ_le_succ (Nat.zero_le limit)
    | cons child way =>
      obtain ⟨isChild, isWay⟩ := List.isChain_cons_cons.mp isWay
      exact Nat.succ_le_succ (ih child isChild isWay)

structure Recursion (Answer : Type) where
  term : String → Float → Answer
  phrase : List String → Float → Answer
  conj : List Answer → Answer
  disj : List Answer → Answer
  neg : Answer → Answer

namespace Recursion

/-- Answers for a query with at most `limit` calls open at once; gives up where there would be more.
-/
def runWithin? (recursion : Recursion Answer) : Nat → Query → Option Answer
  | 0, _ => none
  | _ + 1, .term text boost => some (recursion.term text boost)
  | _ + 1, .phrase terms boost => some (recursion.phrase terms boost)
  | limit + 1, .conj children =>
    (children.mapM (recursion.runWithin? limit)).map recursion.conj
  | limit + 1, .disj children =>
    (children.mapM (recursion.runWithin? limit)).map recursion.disj
  | limit + 1, .neg child => (recursion.runWithin? limit child).map recursion.neg

def scale (factor : Float) : Recursion Query where
  term text boost := .term text (boost * factor)
  phrase terms boost := .phrase terms (boost * factor)
  conj := .conj
  disj := .disj
  neg := .neg

def holds (index : Index) : Recursion Bool where
  term text _ := 0 < index.frequency text
  phrase terms _ := 0 < index.phraseFrequency terms
  conj answers := answers.all id
  disj answers := answers.any id
  neg := not

def leaves (index : Index) : Recursion (List Score.Leaf) where
  term text boost := [⟨.term text boost, index.frequency text, boost⟩]
  phrase terms boost := [⟨.phrase terms boost, index.phraseFrequency terms, boost⟩]
  conj := List.flatten
  disj := List.flatten
  neg _ := []

def display : Recursion String where
  term text boost := text ++ boostSuffix boost
  phrase terms boost := "\"" ++ " ".intercalate terms ++ "\"" ++ boostSuffix boost
  conj texts := "(" ++ " AND ".intercalate texts ++ ")"
  disj texts := "(" ++ " OR ".intercalate texts ++ ")"
  neg text := "NOT " ++ text

structure Governs (recursion : Recursion Answer) (f : Query → Answer) : Prop where
  term text boost : f (.term text boost) = recursion.term text boost
  phrase terms boost : f (.phrase terms boost) = recursion.phrase terms boost
  conj children : f (.conj children) = recursion.conj (children.map f)
  disj children : f (.disj children) = recursion.disj (children.map f)
  neg child : f (.neg child) = recursion.neg (f child)

theorem governs_scale (factor : Float) : (scale factor).Governs (Query.scale factor) := by
  constructor <;> intros <;> simp [scale, Query.scale]

theorem governs_holds (index : Index) : (holds index).Governs (Query.holds index) := by
  constructor <;> intros <;> simp [holds, Query.holds]

theorem governs_leaves (index : Index) : (leaves index).Governs (Score.leaves index) := by
  constructor <;> intros <;> simp [leaves, Score.leaves, List.flatMap]

theorem governs_display : display.Governs Query.display := by
  constructor <;> intros <;> simp [display, Query.display]

theorem mapM_eq_some_map {f : Query → Option Answer} {g : Query → Answer}
    (answers : ∀ query ∈ queries, f query = some (g query)) :
    queries.mapM f = some (queries.map g) := by
  induction queries with
  | nil => rfl
  | cons query queries ih =>
    obtain ⟨first, others⟩ := List.forall_mem_cons.mp answers
    simp [List.mapM_cons, first, ih others]

/-- A function gets by with as many open calls as ways down are long. -/
theorem Governs.runWithin? {recursion : Recursion Answer} {f : Query → Answer}
    (governs : recursion.Governs f) (within : Within limit query) :
    recursion.runWithin? limit query = some (f query) := by
  induction within with
  | @node limit query _ ih =>
    cases query with
    | term text boost => rw [Recursion.runWithin?, governs.term]
    | phrase terms boost => rw [Recursion.runWithin?, governs.phrase]
    | conj children =>
      have answers : ∀ child ∈ children, recursion.runWithin? limit child = some (f child) := ih
      rw [Recursion.runWithin?, mapM_eq_some_map answers, governs.conj]
      rfl
    | disj children =>
      have answers : ∀ child ∈ children, recursion.runWithin? limit child = some (f child) := ih
      rw [Recursion.runWithin?, mapM_eq_some_map answers, governs.disj]
      rfl
    | neg child =>
      rw [Recursion.runWithin?, ih child (List.mem_singleton_self child), governs.neg]
      rfl

end Recursion

end Relevance.Query
