import Relevance.Proofs.Postings
import Relevance.Query.Matching
import Mathlib.Data.Set.Card

/-! Queries evaluated on the index of some tokens, and on the tokens themselves. -/

set_option autoImplicit false

namespace Relevance

open Analysis

variable {tokens : List Analysis.Token} {terms : List String} {postings : List Posting}
  {place start : Nat}

def Carries (tokens : List Token) (term : String) (place : Nat) : Prop :=
  ∃ token ∈ tokens, token.term = term ∧ token.position.toNat = place

/-- The terms are carried one directly after the other. Places are natural numbers, so behind the
greatest position there is nothing. -/
def CarriesAll (tokens : List Token) (terms : List String) (start : Nat) : Prop :=
  ∀ offset (inside : offset < terms.length), Carries tokens terms[offset] (start + offset)

def Occurs (tokens : List Token) (terms : List String) (start : Nat) : Prop :=
  terms ≠ [] ∧ CarriesAll tokens terms start

namespace Query

def Satisfied (tokens : List Analysis.Token) : Query → Prop
  | term text _ => ∃ token ∈ tokens, token.term = text
  | phrase terms _ => ∃ start, Occurs tokens terms start
  | conj children => ∀ child, (isChild : child ∈ children) → Satisfied tokens child
  | disj children => ∃ child, ∃ _isChild : child ∈ children, Satisfied tokens child
  | neg child => ¬Satisfied tokens child

end Query

theorem carriesAll_nil : CarriesAll tokens [] start :=
  fun _ inside => absurd inside (Nat.not_lt_zero _)

theorem carriesAll_cons {term : String} : CarriesAll tokens (term :: terms) start ↔
    Carries tokens term start ∧ CarriesAll tokens terms (start + 1) := by
  constructor
  · intro carries
    refine ⟨carries 0 (Nat.zero_lt_succ _), fun offset inside => ?_⟩
    have later := carries (offset + 1) (Nat.succ_lt_succ inside)
    rwa [show start + (offset + 1) = start + 1 + offset by omega] at later
  · intro ⟨first, later⟩ offset inside
    cases offset with
    | zero => exact first
    | succ offset =>
      have carries := later offset (Nat.lt_of_succ_lt_succ inside)
      rwa [show start + 1 + offset = start + (offset + 1) by omega] at carries

theorem occurs_cons {term : String} : Occurs tokens (term :: terms) start ↔
    Carries tokens term start ∧ CarriesAll tokens terms (start + 1) := by
  simp [Occurs, carriesAll_cons]

theorem carries_iff_mem_places {term : String} : Carries tokens term place ↔
    ∃ position ∈ Index.places tokens term, position.toNat = place := by
  simp [Carries, Index.mem_places, and_assoc]

theorem mapM_cons_eq_some {Entry Value : Type} {look : Entry → Option Value} {entry : Entry}
    {entries : List Entry} {values : List Value} :
    (entry :: entries).mapM look = some values ↔ ∃ value others, look entry = some value ∧
      entries.mapM look = some others ∧ values = value :: others := by
  simp only [List.mapM_cons, Option.bind_eq_bind, Option.bind_eq_some_iff, Option.pure_def,
    Option.some.injEq, exists_and_left]
  grind

-- The places in a sorted posting are distinct, so counting entries is counting places.
theorem countP_eq_ncard {positions : List UInt32} (kind : UInt32 → Bool)
    (sorted : positions.Pairwise (· < ·)) :
    positions.countP kind =
      {start | ∃ position ∈ positions, position.toNat = start ∧ kind position = true}.ncard := by
  have same : {start | ∃ position ∈ positions, position.toNat = start ∧ kind position = true} =
      ((positions.filter kind).map UInt32.toNat).toFinset := by
    ext start
    simp only [Set.mem_ofPred_eq, List.coe_toFinset, List.mem_map, List.mem_filter, and_assoc]
    grind
  have distinct : ((positions.filter kind).map UInt32.toNat).Nodup := by
    refine List.pairwise_map.mpr ((sorted.sublist List.filter_sublist).imp ?_)
    intro position later less
    exact Nat.ne_of_lt less
  rw [same, Set.ncard_coe_finset, List.toFinset_card_of_nodup distinct, List.length_map,
    List.countP_eq_length_filter]

namespace Index

theorem toNat_frequency (few : tokens.length < 2 ^ 32) (term : String) :
    ((ofTokens tokens).frequency term).toNat = tokens.countP (·.term = term) := by
  rw [frequency_ofTokens]
  exact UInt32.toNat_ofNat_of_lt' (Nat.lt_of_le_of_lt List.countP_le_length few)

variable (increasing : tokens.Pairwise fun token later => token.position < later.position)

include increasing

theorem contains_iff_carries {term : String} {posting : Posting}
    (found : (ofTokens tokens).posting? term = some posting) :
    (place < UInt32.size && posting.contains (UInt32.ofNat place)) = true ↔
      Carries tokens term place := by
  rw [posting?_ofTokens] at found
  split at found
  · contradiction
  · obtain rfl := Option.some.inj found
    rw [Bool.and_eq_true, decide_eq_true_eq, carries_iff_mem_places,
      Posting.contains_iff_mem (places_sorted term increasing), List.mem_toArray]
    constructor
    · intro ⟨small, isPlace⟩
      exact ⟨_, isPlace, UInt32.toNat_ofNat_of_lt' small⟩
    · intro ⟨position, isPlace, same⟩
      subst same
      exact ⟨position.toNat_lt, by rwa [UInt32.ofNat_toNat]⟩

theorem continues_iff_carriesAll (found : terms.mapM (ofTokens tokens).posting? = some postings) :
    continues place postings = true ↔ CarriesAll tokens terms place := by
  induction terms generalizing place postings with
  | nil =>
    obtain rfl := Option.some.inj found
    exact iff_of_true rfl carriesAll_nil
  | cons term terms ih =>
    obtain ⟨posting, others, first, later, rfl⟩ := mapM_cons_eq_some.mp found
    rw [continues, Bool.and_eq_true, contains_iff_carries increasing first, ih later,
      carriesAll_cons]

omit increasing in
theorem mapM_posting?_of_carriesAll (carries : CarriesAll tokens terms place) :
    ∃ postings, terms.mapM (ofTokens tokens).posting? = some postings := by
  induction terms generalizing place with
  | nil => exact ⟨[], rfl⟩
  | cons term terms ih =>
    obtain ⟨first, later⟩ := carriesAll_cons.mp carries
    obtain ⟨position, isPlace, -⟩ := carries_iff_mem_places.mp first
    obtain ⟨others, found⟩ := ih later
    have posting := posting?_ofTokens tokens term
    rw [if_neg (List.ne_nil_of_mem isPlace)] at posting
    exact ⟨_, mapM_cons_eq_some.mpr ⟨_, others, posting, found, rfl⟩⟩

theorem continues_iff_occurs {term : String}
    (found : terms.mapM (ofTokens tokens).posting? = some postings) :
    Occurs tokens (term :: terms) start ↔ ∃ position ∈ places tokens term,
      position.toNat = start ∧ continues (position.toNat + 1) postings = true := by
  simp only [occurs_cons, carries_iff_mem_places, continues_iff_carriesAll increasing found]
  constructor
  · intro ⟨⟨position, isPlace, same⟩, later⟩
    exact ⟨position, isPlace, same, same ▸ later⟩
  · intro ⟨position, isPlace, same, later⟩
    exact ⟨⟨position, isPlace, same⟩, same ▸ later⟩

theorem toNat_phraseFrequency (few : tokens.length < 2 ^ 32) (terms : List String) :
    ((ofTokens tokens).phraseFrequency terms).toNat =
      {start : Nat | Occurs tokens terms start}.ncard := by
  cases terms with
  | nil => simp [phraseFrequency, Occurs]
  | cons term terms =>
    rw [phraseFrequency]
    split
    · next missing =>
      -- A term that no token carries has no posting, and then the phrase is not looked for.
      have nowhere : {start | Occurs tokens (term :: terms) start} = ∅ := by
        apply Set.eq_empty_of_forall_notMem
        intro start occurs
        obtain ⟨postings, found⟩ := mapM_posting?_of_carriesAll (occurs_cons.mp occurs).2
        rw [missing] at found
        contradiction
      rw [nowhere, Set.ncard_empty]
      rfl
    · next postings found =>
      have bound : (places tokens term).countP (fun start => continues (start.toNat + 1) postings) <
          UInt32.size := by
        apply Nat.lt_of_le_of_lt List.countP_le_length
        rw [length_places]
        exact Nat.lt_of_le_of_lt List.countP_le_length few
      rw [positions_ofTokens, List.countP_toArray, UInt32.toNat_ofNat_of_lt' bound,
        countP_eq_ncard _ (places_sorted term increasing)]
      simp only [continues_iff_occurs increasing found]

end Index

theorem finite_occurs (tokens : List Token) (terms : List String) :
    {start | Occurs tokens terms start}.Finite := by
  apply (tokens.map (·.position.toNat)).toFinset.finite_toSet.subset
  intro start occurs
  cases terms with
  | nil => exact absurd rfl occurs.1
  | cons term terms =>
    obtain ⟨token, isToken, -, same⟩ := (occurs_cons.mp occurs).1
    simpa using ⟨token, isToken, same⟩

namespace Query

theorem holds_iff_satisfied (few : tokens.length < 2 ^ 32)
    (increasing : tokens.Pairwise fun token later => token.position < later.position)
    (query : Query) : query.holds (Index.ofTokens tokens) = true ↔ query.Satisfied tokens := by
  fun_induction holds (Index.ofTokens tokens) query with
  | case1 text boost =>
    rw [decide_eq_true_eq, UInt32.lt_iff_toNat_lt, Index.toNat_frequency few, Satisfied]
    simp [List.countP_pos_iff]
  | case2 terms boost =>
    rw [decide_eq_true_eq, UInt32.lt_iff_toNat_lt, Index.toNat_phraseFrequency increasing few,
      Satisfied]
    exact Set.ncard_pos (finite_occurs tokens terms)
  | case3 children ih =>
    simp only [List.all_eq_true, List.mem_attach, true_imp_iff, Subtype.forall, Satisfied]
    exact forall₂_congr ih
  | case4 children ih =>
    simp only [List.any_eq_true, List.mem_attach, true_and, Subtype.exists, Satisfied]
    exact exists₂_congr ih
  | case5 child ih =>
    rw [Bool.not_eq_true', ← Bool.not_eq_true, ih, Satisfied]

/-- A query is evaluated on the index of some tokens as on the tokens themselves. The frequency of a
term is the number of tokens that carry it, and that of a phrase the number of places where it
begins. -/
theorem evaluation_ofTokens (tokens : List Analysis.Token) (few : tokens.length < 2 ^ 32)
    (increasing : tokens.Pairwise fun token later => token.position < later.position) :
    (∀ query : Query, query.holds (Index.ofTokens tokens) = true ↔ query.Satisfied tokens) ∧
    (∀ text boost, ∃ count,
      (term text boost).leafFrequency? (Index.ofTokens tokens) = some count ∧
      count.toNat = tokens.countP (·.term = text)) ∧
    ∀ terms boost, ∃ count,
      (phrase terms boost).leafFrequency? (Index.ofTokens tokens) = some count ∧
      count.toNat = {start : Nat | Occurs tokens terms start}.ncard := by
  refine ⟨holds_iff_satisfied few increasing, fun text boost => ?_, fun terms boost => ?_⟩
  · exact ⟨_, rfl, Index.toNat_frequency few text⟩
  · exact ⟨_, rfl, Index.toNat_phraseFrequency increasing few terms⟩

/-- Three terms alike at the greatest positions: two begin a pair, and the last one does not. -/
theorem evaluation_three_alike :
    let tokens : List Analysis.Token :=
      [⟨"a", 7⟩, ⟨"na", 4294967293⟩, ⟨"na", 4294967294⟩, ⟨"na", 4294967295⟩]
    (conj [phrase ["na", "na"] 1.0, neg (phrase ["na", "a"] 1.0)]).holds (Index.ofTokens tokens) =
      true ∧
    ∃ count, (phrase ["na", "na"] 1.0).leafFrequency? (Index.ofTokens tokens) = some count ∧
      count.toNat = 2 := by
  intro tokens
  have places : ∀ start term, Carries tokens term start ↔ start = 7 ∧ term = "a" ∨
      (start = 4294967293 ∨ start = 4294967294 ∨ start = 4294967295) ∧ term = "na" := by
    intro start term
    simp [tokens, Carries]
    grind
  have pairs : ∀ term later start, Occurs tokens [term, later] start ↔
      Carries tokens term start ∧ Carries tokens later (start + 1) := by
    simp [occurs_cons, carriesAll_cons, carriesAll_nil]
  obtain ⟨holds, -, phrases⟩ := evaluation_ofTokens tokens (by decide) (by decide)
  constructor
  · rw [holds]
    simp only [Satisfied, List.mem_cons, List.not_mem_nil, or_false, forall_eq_or_imp, forall_eq,
      pairs, places]
    constructor
    · exact ⟨4294967293, by decide⟩
    · grind
  · obtain ⟨count, found, same⟩ := phrases ["na", "na"] 1.0
    refine ⟨count, found, same.trans ?_⟩
    have starts : {start | Occurs tokens ["na", "na"] start} = {4294967293, 4294967294} := by
      ext start
      simp only [Set.mem_ofPred_eq, pairs, places, Set.mem_insert_iff, Set.mem_singleton_iff]
      grind
    rw [starts, Set.ncard_pair (by decide)]

end Query

end Relevance
