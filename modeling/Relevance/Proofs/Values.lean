import Relevance.Proofs.Grammar

/-! Values of derivations: when there is none, and why a run of negations may be read by its parity.
-/

set_option autoImplicit false

namespace Relevance.Query

open Analysis

def Token.leafText? : Token → Option String
  | .word text | .phrase text => some text
  | _ => none

def leafTexts (tokens : List Token) : List String :=
  tokens.filterMap Token.leafText?

def IsDoubleNegation (query : Query) : Prop :=
  ∃ child, query = neg (neg child)

theorem ofTerms?_eq_none {terms : List String} : ofTerms? terms = none ↔ terms = [] := by
  match terms with
  | [] | [_] | _ :: _ :: _ => simp [ofTerms?]

theorem conjunction?_eq_none {children : List Query} :
    conjunction? children = none ↔ children = [] := by
  match children with
  | [] | [_] | _ :: _ :: _ => simp [conjunction?]

theorem disjunction?_eq_none {children : List Query} :
    disjunction? children = none ↔ children = [] := by
  match children with
  | [] | [_] | _ :: _ :: _ => simp [disjunction?]

theorem not_isDoubleNegation_ofTerms? {terms : List String} {query : Query}
    (found : ofTerms? terms = some query) : ¬IsDoubleNegation query := by
  rintro ⟨child, rfl⟩
  match terms with
  | [] | [_] | _ :: _ :: _ => simp [ofTerms?, ofTerm] at found

theorem isDoubleNegation_of_boost {factor : Float} {query : Query}
    (double : IsDoubleNegation (boost factor query)) : IsDoubleNegation query := by
  obtain ⟨child, same⟩ := double
  unfold boost at same
  split at same
  · exact ⟨child, same⟩
  · match query with
    | neg (neg child) => exact ⟨child, rfl⟩
    | neg (term ..) | neg (phrase ..) | neg (conj _) | neg (disj _) => simp [scale] at same
    | term .. | phrase .. | conj _ | disj _ => simp [scale] at same

theorem isDoubleNegation_of_conjunction? {children : List Query} {query : Query}
    (found : conjunction? children = some query) (double : IsDoubleNegation query) :
    query ∈ children := by
  obtain ⟨child, rfl⟩ := double
  match children with
  | [] | _ :: _ :: _ => simp [conjunction?] at found
  | [first] => simp_all [conjunction?]

theorem isDoubleNegation_of_disjunction? {children : List Query} {query : Query}
    (found : disjunction? children = some query) (double : IsDoubleNegation query) :
    query ∈ children := by
  obtain ⟨child, rfl⟩ := double
  match children with
  | [] | _ :: _ :: _ => simp [disjunction?] at found
  | [first] => simp_all [disjunction?]

theorem negate_negate {query : Query} (single : ¬IsDoubleNegation query) :
    negate (negate query) = query := by
  match query with
  | neg (neg child) => exact absurd ⟨child, rfl⟩ single
  | neg (term ..) | neg (phrase ..) | neg (conj _) | neg (disj _) => rfl
  | term .. | phrase .. | conj _ | disj _ => rfl

theorem not_isDoubleNegation_negate {query : Query} (single : ¬IsDoubleNegation query) :
    ¬IsDoubleNegation (negate query) := by
  rintro ⟨child, same⟩
  match query with
  | neg inner =>
    obtain rfl : inner = neg (neg child) := same
    exact single ⟨_, rfl⟩
  | term .. | phrase .. | conj _ | disj _ => simp [negate] at same

namespace Grammar

variable {analyzer : Analyzer}

theorem Boosted.single {node value : Option Query} {suffix : List Token}
    (boosted : Boosted node suffix value)
    (single : ∀ query, node = some query → ¬IsDoubleNegation query) :
    ∀ query, value = some query → ¬IsDoubleNegation query := by
  cases boosted with
  | absent => exact single
  | present =>
    intro query found double
    obtain ⟨inner, isInner, rfl⟩ := Option.map_eq_some_iff.mp found
    exact single inner isInner (isDoubleNegation_of_boost double)

-- Negating is the only rule that could make a double negation, and it would have to be applied to
-- the negation of one.
mutual

theorem Primary.single {tokens : List Token} {value : Option Query} :
    Primary analyzer tokens value → ∀ query, value = some query → ¬IsDoubleNegation query
  | .word boosted => boosted.single fun _ found => not_isDoubleNegation_ofTerms? found
  | .phrase boosted => boosted.single fun _ found => not_isDoubleNegation_ofTerms? found
  | .group inner boosted => boosted.single inner.single
  | .emptyGroup boosted => boosted.single nofun
termination_by structural derived => derived

theorem Operand.single {tokens : List Token} {value : Option Query} :
    Operand analyzer tokens value → ∀ query, value = some query → ¬IsDoubleNegation query
  | .not operand, query, found => by
    obtain ⟨inner, isInner, rfl⟩ := Option.map_eq_some_iff.mp found
    exact not_isDoubleNegation_negate (operand.single inner isInner)
  | .primary primary, query, found => primary.single query found
termination_by structural derived => derived

theorem Conjuncts.single {tokens : List Token} {values : List (Option Query)} :
    Conjuncts analyzer tokens values → ∀ query, some query ∈ values → ¬IsDoubleNegation query
  | .nil, _, found => nomatch found
  | .and first others, query, found => by
    rcases List.mem_cons.mp found with same | found
    · exact first.single query same.symm
    · exact others.single query found
termination_by structural derived => derived

theorem Conjunction.single {tokens : List Token} {value : Option Query} :
    Conjunction analyzer tokens value → ∀ query, value = some query → ¬IsDoubleNegation query
  | .operands first others, query, found => by
    intro double
    have isOperand := isDoubleNegation_of_conjunction? found double
    rcases List.mem_cons.mp (List.reduceOption_mem_iff.mp isOperand) with same | found
    · exact first.single query same.symm double
    · exact others.single query found double
termination_by structural derived => derived

theorem Disjuncts.single {tokens : List Token} {values : List (Option Query)} :
    Disjuncts analyzer tokens values → ∀ query, some query ∈ values → ¬IsDoubleNegation query
  | .nil, _, found => nomatch found
  | .or first others, query, found | .adjacent first others, query, found => by
    rcases List.mem_cons.mp found with same | found
    · exact first.single query same.symm
    · exact others.single query found
termination_by structural derived => derived

theorem Disjunction.single {tokens : List Token} {value : Option Query} :
    Disjunction analyzer tokens value → ∀ query, value = some query → ¬IsDoubleNegation query
  | .operands first others, query, found => by
    intro double
    have isOperand := isDoubleNegation_of_disjunction? found double
    rcases List.mem_cons.mp (List.reduceOption_mem_iff.mp isOperand) with same | found
    · exact first.single query same.symm double
    · exact others.single query found double
termination_by structural derived => derived

end

theorem Primary.map_negate_twice {tokens : List Token} {value : Option Query}
    (derived : Primary analyzer tokens value) : (value.map negate).map negate = value := by
  cases value with
  | none => rfl
  | some query => exact congrArg some (negate_negate (derived.single query rfl))

/-- Of a run of negations only the parity matters. -/
theorem Primary.negations {tokens : List Token} {value : Option Query}
    (derived : Primary analyzer tokens value) (count : Nat) :
    Operand analyzer (List.replicate count .not ++ tokens)
      (if count % 2 = 1 then value.map negate else value) := by
  induction count with
  | zero => exact .primary derived
  | succ count ih =>
    have step := Operand.not ih
    rw [List.replicate_succ, List.cons_append]
    rcases Nat.mod_two_eq_zero_or_one count with even | odd
    · rw [if_neg (by omega)] at step
      rwa [if_pos (by omega)]
    · rw [if_pos odd, derived.map_negate_twice] at step
      rwa [if_neg (by omega)]

def AllDropped (analyzer : Analyzer) (tokens : List Token) : Prop :=
  ∀ text ∈ leafTexts tokens, analyzer.termsOf text = []

@[simp] theorem allDropped_nil : AllDropped analyzer [] := nofun

@[simp] theorem allDropped_cons {token : Token} {rest : List Token} :
    AllDropped analyzer (token :: rest) ↔
      (∀ text, token.leafText? = some text → analyzer.termsOf text = []) ∧
        AllDropped analyzer rest := by
  simp only [AllDropped, leafTexts, List.filterMap_cons]
  split
  · next absent => simp [absent]
  · next text found => simp [found]

@[simp] theorem allDropped_append {front rest : List Token} :
    AllDropped analyzer (front ++ rest) ↔
      AllDropped analyzer front ∧ AllDropped analyzer rest := by
  simp only [AllDropped, leafTexts, List.filterMap_append, List.mem_append, or_imp, forall_and]

theorem reduceOption_cons_eq_nil {value : Option Query} {values : List (Option Query)} :
    (value :: values).reduceOption = [] ↔ value = none ∧ values.reduceOption = [] := by
  cases value <;> simp [List.reduceOption_cons_of_some, List.reduceOption_cons_of_none]

theorem Boosted.eq_none_iff {node value : Option Query} {suffix : List Token}
    (boosted : Boosted node suffix value) : value = none ↔ node = none := by
  cases boosted with
  | absent => exact Iff.rfl
  | present => exact Option.map_eq_none_iff

theorem Boosted.allDropped {node value : Option Query} {suffix : List Token}
    (boosted : Boosted node suffix value) : AllDropped analyzer suffix := by
  cases boosted with
  | absent => exact allDropped_nil
  | present => exact allDropped_cons.mpr ⟨nofun, allDropped_nil⟩

mutual

theorem Primary.eq_none_iff {tokens : List Token} {value : Option Query} :
    Primary analyzer tokens value → (value = none ↔ AllDropped analyzer tokens)
  | .word boosted => by
    rw [boosted.eq_none_iff, ofTerms?_eq_none]
    simp [Token.leafText?, boosted.allDropped]
  | .phrase boosted => by
    rw [boosted.eq_none_iff, ofTerms?_eq_none]
    simp [Token.leafText?, boosted.allDropped]
  | .group inner boosted => by
    rw [boosted.eq_none_iff, inner.eq_none_iff]
    simp [Token.leafText?, boosted.allDropped]
  | .emptyGroup boosted => by
    rw [boosted.eq_none_iff]
    simp [Token.leafText?, boosted.allDropped]
termination_by structural derived => derived

theorem Operand.eq_none_iff {tokens : List Token} {value : Option Query} :
    Operand analyzer tokens value → (value = none ↔ AllDropped analyzer tokens)
  | .not operand => by
    rw [Option.map_eq_none_iff, operand.eq_none_iff]
    simp [Token.leafText?]
  | .primary primary => primary.eq_none_iff
termination_by structural derived => derived

theorem Conjuncts.eq_nil_iff {tokens : List Token} {values : List (Option Query)} :
    Conjuncts analyzer tokens values →
    (values.reduceOption = [] ↔ AllDropped analyzer tokens)
  | .nil => by simp
  | .and first others => by
    rw [reduceOption_cons_eq_nil, first.eq_none_iff, others.eq_nil_iff]
    simp [Token.leafText?]
termination_by structural derived => derived

theorem Conjunction.eq_none_iff {tokens : List Token} {value : Option Query} :
    Conjunction analyzer tokens value → (value = none ↔ AllDropped analyzer tokens)
  | .operands first others => by
    rw [conjunction?_eq_none, reduceOption_cons_eq_nil, first.eq_none_iff, others.eq_nil_iff,
      allDropped_append]
termination_by structural derived => derived

theorem Disjuncts.eq_nil_iff {tokens : List Token} {values : List (Option Query)} :
    Disjuncts analyzer tokens values →
    (values.reduceOption = [] ↔ AllDropped analyzer tokens)
  | .nil => by simp
  | .or first others => by
    rw [reduceOption_cons_eq_nil, first.eq_none_iff, others.eq_nil_iff]
    simp [Token.leafText?]
  | .adjacent first others => by
    rw [reduceOption_cons_eq_nil, first.eq_none_iff, others.eq_nil_iff, allDropped_append]
termination_by structural derived => derived

theorem Disjunction.eq_none_iff {tokens : List Token} {value : Option Query} :
    Disjunction analyzer tokens value → (value = none ↔ AllDropped analyzer tokens)
  | .operands first others => by
    rw [disjunction?_eq_none, reduceOption_cons_eq_nil, first.eq_none_iff, others.eq_nil_iff,
      allDropped_append]
termination_by structural derived => derived

end

end Grammar

end Relevance.Query
