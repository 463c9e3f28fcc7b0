import Mathlib.Algebra.BigOperators.Group.Finset.Basic
import Mathlib.Data.List.Sort
import Relevance.Proofs.Evaluation

/-! What is lost of some tokens in their index: only the order of tokens that carry different terms.
If positions increase, not even that, and the tokens can be told from the index.
-/

set_option autoImplicit false

namespace Relevance.Index

open Analysis

variable {tokens tokens' : List Token} {token : Token} {term : String}

def distinctTerms (tokens : List Token) : Finset String :=
  (tokens.map Token.term).toFinset

theorem mem_distinctTerms : term ∈ distinctTerms tokens ↔ ∃ token ∈ tokens, token.term = term := by
  rw [distinctTerms, List.mem_toFinset, List.mem_map]

theorem places_eq_nil_iff : places tokens term = [] ↔ term ∉ distinctTerms tokens := by
  rw [places, List.map_eq_nil_iff, List.filter_eq_nil_iff, mem_distinctTerms]
  simp

/-- A term has a posting exactly if some token carries it. -/
theorem isSome_posting?_iff :
    ((ofTokens tokens).posting? term).isSome = true ↔ term ∈ distinctTerms tokens := by
  rw [posting?_ofTokens]
  split
  · next none => simp [places_eq_nil_iff.mp none]
  · next some => simpa [places_eq_nil_iff] using some

theorem termCount_ofTokens (tokens : List Token) :
    (ofTokens tokens).termCount = (distinctTerms tokens).card := by
  have keys : (ofTokens tokens).postings.keys.toFinset = distinctTerms tokens := by
    ext term
    rw [List.mem_toFinset, Std.ExtTreeMap.mem_keys, Std.ExtTreeMap.mem_iff_isSome_getElem?]
    exact isSome_posting?_iff
  rw [termCount, ← Std.ExtTreeMap.length_keys,
    ← List.toFinset_card_of_nodup Std.ExtTreeMap.nodup_keys, keys]

/-- Every token carries one of the distinct terms. -/
theorem sum_countP_distinctTerms (tokens : List Token) :
    ∑ term ∈ distinctTerms tokens, tokens.countP (·.term = term) = tokens.length := by
  have counted : ∀ term, tokens.countP (·.term = term) = (tokens.map Token.term).count term := by
    intro term
    rw [List.count, List.countP_map]
    rfl
  simp only [distinctTerms, counted, List.sum_toFinset_count_eq_length, List.length_map]

theorem length_foldl_push (tokens : List Token) (index : Index) :
    (tokens.foldl push index).length = index.length + UInt32.ofNat tokens.length := by
  induction tokens generalizing index with
  | nil => exact (UInt32.add_zero _).symm
  | cons token tokens ih =>
    have counted : (index.push token).length = index.length + 1 := rfl
    rw [List.foldl_cons, ih, counted, List.length_cons, Nat.add_comm, UInt32.ofNat_add,
      UInt32.add_assoc]
    rfl

theorem toNat_length_ofTokens (few : tokens.length < 2 ^ 32) :
    (ofTokens tokens).length.toNat = tokens.length := by
  have counted := length_foldl_push tokens {}
  rw [UInt32.zero_add] at counted
  rw [ofTokens, counted, UInt32.toNat_ofNat_of_lt' few]

structure Records (index : Index) (tokens : List Token) : Prop where
  positions : ∀ term, (index.positions term).toList =
    (tokens.filter (·.term = term)).map (·.position)
  frequency : ∀ term, (index.frequency term).toNat = tokens.countP (·.term = term)
  posting : ∀ term, (index.posting? term).isSome = true ↔ ∃ token ∈ tokens, token.term = term
  length : index.length.toNat = tokens.length
  total : ∑ term ∈ distinctTerms tokens, (index.frequency term).toNat = index.length.toNat
  termCount : index.termCount = (distinctTerms tokens).card

theorem records_ofTokens (few : tokens.length < 2 ^ 32) : (ofTokens tokens).Records tokens where
  positions term := by
    rw [positions_ofTokens]
    rfl
  frequency := toNat_frequency few
  posting term := isSome_posting?_iff.trans mem_distinctTerms
  length := toNat_length_ofTokens few
  total := by
    simp only [toNat_frequency few, sum_countP_distinctTerms, toNat_length_ofTokens few]
  termCount := termCount_ofTokens tokens

/-- The places of a posting increase, and a search finds all of them and no others. -/
theorem sorted_posting?
    (increasing : tokens.Pairwise fun token later => token.position < later.position)
    {posting : Posting} (found : (ofTokens tokens).posting? term = some posting) :
    posting.positions.toList.Pairwise (· < ·) ∧
      ∀ place, posting.contains place = true ↔ place ∈ posting.positions := by
  have sorted : posting.positions.toList.Pairwise (· < ·) := by
    rw [posting?_ofTokens] at found
    split at found
    · contradiction
    · obtain rfl := Option.some.inj found
      exact places_sorted term increasing
  exact ⟨sorted, fun place => Posting.contains_iff_mem sorted⟩

theorem mem_iff_mem_places : token ∈ tokens ↔ token.position ∈ places tokens token.term := by
  rw [mem_places]
  constructor
  · intro isToken
    exact ⟨token, isToken, rfl, rfl⟩
  · rintro ⟨⟨term, position⟩, isToken, rfl, rfl⟩
    exact isToken

-- An index tells which tokens there are, and the positions tell their order.
theorem eq_of_ofTokens_eq
    (increasing : tokens.Pairwise fun token later => token.position < later.position)
    (increasing' : tokens'.Pairwise fun token later => token.position < later.position)
    (same : ofTokens tokens = ofTokens tokens') : tokens = tokens' := by
  have places_eq : ∀ term, places tokens term = places tokens' term := by
    intro term
    have positions := congrArg (·.positions term) same
    simp only [positions_ofTokens] at positions
    exact congrArg Array.toList positions
  have : Std.Irrefl fun token later : Token => token.position < later.position :=
    ⟨fun token => UInt32.lt_irrefl token.position⟩
  have : Std.Antisymm fun token later : Token => token.position < later.position :=
    ⟨fun token later before after => absurd after (UInt32.lt_asymm before)⟩
  refine increasing.eq_of_mem_iff increasing' fun token => ?_
  rw [mem_iff_mem_places, mem_iff_mem_places, places_eq]

/-- An index holds for every term the positions of the tokens that carry it, in their order, and
counts terms and tokens. If positions increase, searches find what the index holds, and different
tokens have different indexes. -/
theorem ofTokens_lossless :
    (∀ tokens : List Token, tokens.length < 2 ^ 32 → (ofTokens tokens).Records tokens) ∧
    ∀ tokens : List Token, (tokens.Pairwise fun token later => token.position < later.position) →
      (∀ term posting, (ofTokens tokens).posting? term = some posting →
        posting.positions.toList.Pairwise (· < ·) ∧
        ∀ place, posting.contains place = true ↔ place ∈ posting.positions) ∧
      ∀ tokens' : List Token, (tokens'.Pairwise fun token later => token.position < later.position) →
        ofTokens tokens = ofTokens tokens' → tokens = tokens' :=
  ⟨fun _ few => records_ofTokens few, fun _ increasing =>
    ⟨fun _ _ found => sorted_posting? increasing found,
      fun _ increasing' same => eq_of_ofTokens_eq increasing increasing' same⟩⟩

/-- A term that comes twice, once out of order; and two tokens that change places. -/
theorem ofTokens_lossless_to_be :
    ((ofTokens [⟨"to", 7⟩, ⟨"be", 3⟩, ⟨"to", 5⟩]).positions "to").toList = [7, 5] ∧
    (ofTokens [⟨"to", 7⟩, ⟨"be", 3⟩, ⟨"to", 5⟩]).termCount = 2 ∧
    (∃ posting, (ofTokens [⟨"to", 0⟩, ⟨"be", 1⟩, ⟨"to", 2⟩]).posting? "to" = some posting ∧
      posting.contains 2 = true ∧ posting.contains 1 = false) ∧
    ofTokens [⟨"to", 0⟩, ⟨"be", 1⟩] ≠ ofTokens [⟨"be", 0⟩, ⟨"to", 1⟩] := by
  obtain ⟨records, increasing⟩ := ofTokens_lossless
  have unordered := records [⟨"to", 7⟩, ⟨"be", 3⟩, ⟨"to", 5⟩] (by decide)
  have found : (ofTokens [⟨"to", 0⟩, ⟨"be", 1⟩, ⟨"to", 2⟩]).posting? "to" = some ⟨#[0, 2]⟩ := by
    simp [posting?_ofTokens, places]
  obtain ⟨searches, -⟩ := increasing [⟨"to", 0⟩, ⟨"be", 1⟩, ⟨"to", 2⟩] (by decide)
  have contains := (searches "to" _ found).2
  refine ⟨?_, ?_, ⟨_, found, ?_, ?_⟩, fun same => ?_⟩
  · rw [unordered.positions]
    decide
  · rw [unordered.termCount]
    decide
  · simp [contains]
  · simp [← Bool.not_eq_true, contains]
  · have differ : ([⟨"to", 0⟩, ⟨"be", 1⟩] : List Token) ≠ [⟨"be", 0⟩, ⟨"to", 1⟩] := by decide
    exact differ ((increasing _ (by decide)).2 _ (by decide) same)

end Relevance.Index
