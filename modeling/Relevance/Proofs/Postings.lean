import Relevance.Index
import Mathlib.Data.List.Basic

/-! What an index holds: for every term, the places of the tokens that carry it. Searching a posting
by halving finds a place exactly if it is there. -/

set_option autoImplicit false

namespace Relevance

open Analysis

namespace Posting

variable {entries : Array UInt32} {key : UInt32} {start size : Nat}

/-- What is known while an array is halved: the part lies in the array, it does not begin above the
key unless the array does, and all that comes behind it is above the key. -/
structure Halving (entries : Array UInt32) (key : UInt32) (start size : Nat) : Prop where
  inside : start + size ≤ entries.size
  below : start = 0 ∨ ∃ entry, entries[start]? = some entry ∧ entry ≤ key
  above : ∀ place (found : place < entries.size), start + size ≤ place → key < entries[place]

theorem halving_whole (entries : Array UInt32) (key : UInt32) :
    Halving entries key 0 entries.size where
  inside := by omega
  below := .inl rfl
  above place found behind := by omega

theorem Halving.step (halving : Halving entries key start size) (long : 1 < size)
    (sorted : entries.toList.Pairwise (· < ·)) :
    Halving entries key
      (if entries[start + size / 2]?.any (key < ·) then start else start + size / 2)
      (size - size / 2) := by
  obtain ⟨inside, below, above⟩ := halving
  have within : start + size / 2 < entries.size := by omega
  have ordered : ∀ place (found : place < entries.size), start + size / 2 < place →
      entries[start + size / 2] < entries[place] := fun place found behind =>
    List.pairwise_iff_getElem.mp sorted _ _ within found behind
  -- Either the middle is above the key, and all behind it too, or the part may begin there.
  rw [Array.getElem?_eq_getElem within, Option.any_some]
  by_cases greater : key < entries[start + size / 2]
  · rw [if_pos (by simpa using greater)]
    refine ⟨by omega, below, fun place found behind => ?_⟩
    rcases Nat.eq_or_lt_of_le (show start + size / 2 ≤ place by omega) with rfl | later
    · exact greater
    · exact UInt32.lt_trans greater (ordered place found later)
  · rw [if_neg (by simpa using greater)]
    refine ⟨by omega, .inr ⟨_, Array.getElem?_eq_getElem within, UInt32.not_lt.mp greater⟩, ?_⟩
    intro place found behind
    exact above place found (by omega)

theorem Halving.seek (halving : Halving entries key start size)
    (sorted : entries.toList.Pairwise (· < ·)) :
    ∃ left ≤ 1, Halving entries key (seek entries key start size) left := by
  fun_induction Posting.seek entries key start size with
  | case1 start size short => exact ⟨size, short, halving⟩
  | case2 start size long half middle ih =>
    apply ih
    exact halving.step (by omega) sorted

/-- A place is found in a sorted posting exactly if it is one of its places. -/
theorem contains_iff_mem {posting : Posting}
    (sorted : posting.positions.toList.Pairwise (· < ·)) :
    posting.contains key = true ↔ key ∈ posting.positions := by
  obtain ⟨left, short, inside, below, above⟩ := (halving_whole posting.positions key).seek sorted
  simp only [contains, beq_iff_eq]
  constructor
  · exact Array.mem_of_getElem?
  · intro isPlace
    obtain ⟨place, found, same⟩ := Array.getElem_of_mem isPlace
    have notBehind : place < seek posting.positions key 0 posting.positions.size + left := by
      by_contra behind
      have greater := above place found (by omega)
      rw [same] at greater
      exact UInt32.lt_irrefl _ greater
    have isStart : place = seek posting.positions key 0 posting.positions.size := by
      rcases below with first | ⟨entry, atStart, least⟩
      · omega
      · obtain ⟨within, rfl⟩ := Array.getElem?_eq_some_iff.mp atStart
        by_contra differs
        -- What stands before the start is less than the entry there, which is not above the key.
        have less := List.pairwise_iff_getElem.mp sorted _ _ found within (by omega)
        rw [Array.getElem_toList, Array.getElem_toList, same] at less
        exact absurd less (UInt32.not_lt.mpr least)
    rw [← isStart, Array.getElem?_eq_getElem found, same]

end Posting

namespace Index

variable {index : Index} {token : Token} {tokens : List Token} {term : String}

def places (tokens : List Token) (term : String) : List UInt32 :=
  (tokens.filter (·.term = term)).map (·.position)

theorem places_cons : places (token :: tokens) term =
    if token.term = term then token.position :: places tokens term else places tokens term := by
  unfold places
  split <;> simp_all

@[simp] theorem length_places : (places tokens term).length = tokens.countP (·.term = term) := by
  rw [places, List.length_map, List.countP_eq_length_filter]

theorem mem_places {place : UInt32} :
    place ∈ places tokens term ↔ ∃ token ∈ tokens, token.term = term ∧ token.position = place := by
  simp [places, and_assoc]

theorem places_sorted (term : String)
    (increasing : tokens.Pairwise fun token later => token.position < later.position) :
    (places tokens term).Pairwise (· < ·) :=
  List.pairwise_map.mpr (increasing.sublist List.filter_sublist)

theorem posting?_push : (index.push token).posting? term =
    if token.term = term then some ⟨(index.positions term).push token.position⟩
    else index.posting? term := by
  unfold posting? positions posting? push
  rw [Std.ExtTreeMap.getElem?_alter]
  by_cases same : token.term = term
  · subst same
    rw [if_pos Std.ReflCmp.compare_self, if_pos rfl]
    cases index.postings[token.term]? <;> rfl
  · simp [same]

theorem posting?_foldl (tokens : List Token) (index : Index) (term : String) :
    (tokens.foldl push index).posting? term =
      if places tokens term = [] then index.posting? term
      else some ⟨index.positions term ++ places tokens term⟩ := by
  induction tokens generalizing index with
  | nil => rfl
  | cons token tokens ih =>
    rw [List.foldl_cons, ih, places_cons]
    by_cases carries : token.term = term
    · have pushed : (index.push token).posting? term =
          some ⟨(index.positions term).push token.position⟩ := by
        rw [posting?_push, if_pos carries]
      have positions : (index.push token).positions term =
          (index.positions term).push token.position := by
        rw [Index.positions, pushed]
        rfl
      simp only [if_pos carries, reduceCtorEq, if_false, pushed, positions]
      split <;> simp_all
    · have pushed : (index.push token).posting? term = index.posting? term := by
        rw [posting?_push, if_neg carries]
      simp only [if_neg carries, pushed, Index.positions]

/-- The posting of a term: the places of the tokens that carry it, if there are any. -/
theorem posting?_ofTokens (tokens : List Token) (term : String) :
    (ofTokens tokens).posting? term =
      if places tokens term = [] then none else some ⟨(places tokens term).toArray⟩ := by
  rw [ofTokens, posting?_foldl]
  simp [posting?, positions]

theorem positions_ofTokens (tokens : List Token) (term : String) :
    (ofTokens tokens).positions term = (places tokens term).toArray := by
  rw [positions, posting?_ofTokens]
  split <;> simp_all

theorem frequency_ofTokens (tokens : List Token) (term : String) :
    (ofTokens tokens).frequency term = UInt32.ofNat (tokens.countP (·.term = term)) := by
  rw [frequency, posting?_ofTokens, ← length_places]
  split <;> simp_all [Posting.frequency]

end Index

end Relevance
