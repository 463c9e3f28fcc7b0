import Relevance.Proofs.Grammar

/-! The grammar is unambiguous: a part of a token list that is followed by nothing which could
belong to it has one extent and one value. -/

set_option autoImplicit false

namespace Relevance.Query.Grammar

open Analysis

variable {analyzer : Analyzer}

theorem Boosted.unique {tokens tokens' rest rest' : List Token} {node value value' : Option Query}
    (left : Boosted node tokens value) (right : Boosted node tokens' value')
    (same : tokens ++ rest = tokens' ++ rest') (ends : NoBoost rest) (ends' : NoBoost rest') :
    tokens = tokens' ∧ value = value' := by
  cases left with
  | absent =>
    cases right with
    | absent => exact ⟨rfl, rfl⟩
    | present => exact absurd (congrArg List.head? same) (ends _)
  | present read =>
    cases right with
    | absent => exact absurd (congrArg List.head? same).symm (ends' _)
    | present read' =>
      obtain rfl := Token.boost.inj (List.cons.inj same).1
      obtain rfl := Option.some.inj (read.read.symm.trans read'.read)
      exact ⟨rfl, rfl⟩

-- The induction is on the derivation given first. The tokens at the front tell by which rule the
-- other one was made, and the parts are cancelled one by one: each ends where the next one begins.
mutual

theorem Primary.unique {tokens tokens' rest rest' : List Token} {value value' : Option Query} :
    Primary analyzer tokens value → Primary analyzer tokens' value' →
    tokens ++ rest = tokens' ++ rest' → NoBoost rest → NoBoost rest' →
    tokens = tokens' ∧ value = value'
  | .word boosted, right, same, ends, ends' => by
    cases right with
    | word boosted' =>
      obtain ⟨head, tail⟩ := List.cons.inj same
      obtain rfl := Token.word.inj head
      obtain ⟨rfl, rfl⟩ := boosted.unique boosted' tail ends ends'
      exact ⟨rfl, rfl⟩
    | phrase | group | emptyGroup => simp at same
  | .phrase boosted, right, same, ends, ends' => by
    cases right with
    | phrase boosted' =>
      obtain ⟨head, tail⟩ := List.cons.inj same
      obtain rfl := Token.phrase.inj head
      obtain ⟨rfl, rfl⟩ := boosted.unique boosted' tail ends ends'
      exact ⟨rfl, rfl⟩
    | word | group | emptyGroup => simp at same
  | .group inner boosted, right, same, ends, ends' => by
    cases right with
    | group inner' boosted' =>
      simp only [List.cons_append, List.append_assoc, List.cons.injEq, true_and] at same
      obtain ⟨rfl, rfl⟩ := inner.unique inner' same (endsDisjunction_rightParen _)
        (endsDisjunction_rightParen _)
      obtain ⟨rfl, rfl⟩ := boosted.unique boosted' (List.cons.inj (List.append_cancel_left same)).2
        ends ends'
      exact ⟨rfl, rfl⟩
    | emptyGroup =>
      simp only [List.cons_append, List.append_assoc, List.cons.injEq, true_and] at same
      exact Bool.noConfusion (begins_of_append_eq inner.begins same)
    | word | phrase => simp at same
  | .emptyGroup boosted, right, same, ends, ends' => by
    cases right with
    | emptyGroup boosted' =>
      simp only [List.cons_append, List.cons.injEq, true_and] at same
      obtain ⟨rfl, rfl⟩ := boosted.unique boosted' same ends ends'
      exact ⟨rfl, rfl⟩
    | group inner' =>
      simp only [List.cons_append, List.append_assoc, List.cons.injEq, true_and] at same
      exact Bool.noConfusion (begins_of_append_eq inner'.begins same.symm)
    | word | phrase => simp at same
termination_by structural left => left

theorem Operand.unique {tokens tokens' rest rest' : List Token} {value value' : Option Query} :
    Operand analyzer tokens value → Operand analyzer tokens' value' →
    tokens ++ rest = tokens' ++ rest' → NoBoost rest → NoBoost rest' →
    tokens = tokens' ∧ value = value'
  | .not operand, right, same, ends, ends' => by
    cases right with
    | not operand' =>
      obtain ⟨rfl, rfl⟩ := operand.unique operand' (List.cons.inj same).2 ends ends'
      exact ⟨rfl, rfl⟩
    | primary primary' => cases primary' <;> simp at same
  | .primary primary, right, same, ends, ends' => by
    cases right with
    | not => cases primary <;> simp at same
    | primary primary' => exact primary.unique primary' same ends ends'
termination_by structural left => left

theorem Conjuncts.unique {tokens tokens' rest rest' : List Token}
    {values values' : List (Option Query)} :
    Conjuncts analyzer tokens values → Conjuncts analyzer tokens' values' →
    tokens ++ rest = tokens' ++ rest' → EndsConjunction rest → EndsConjunction rest' →
    tokens = tokens' ∧ values = values'
  | .nil, right, same, ends, _ => by
    cases right with
    | nil => exact ⟨rfl, rfl⟩
    | and => exact absurd (congrArg List.head? same) ends.noAnd
  | .and first others, right, same, ends, ends' => by
    cases right with
    | nil => exact absurd (congrArg List.head? same).symm ends'.noAnd
    | and first' others' =>
      simp only [List.cons_append, List.append_assoc, List.cons.injEq, true_and] at same
      obtain ⟨rfl, rfl⟩ := first.unique first' same (others.noBoost ends) (others'.noBoost ends')
      obtain ⟨rfl, rfl⟩ := others.unique others' (List.append_cancel_left same) ends ends'
      exact ⟨rfl, rfl⟩
termination_by structural left => left

theorem Conjunction.unique {tokens tokens' rest rest' : List Token}
    {value value' : Option Query} :
    Conjunction analyzer tokens value → Conjunction analyzer tokens' value' →
    tokens ++ rest = tokens' ++ rest' → EndsConjunction rest → EndsConjunction rest' →
    tokens = tokens' ∧ value = value'
  | .operands first others, .operands first' others', same, ends, ends' => by
    simp only [List.append_assoc] at same
    obtain ⟨rfl, rfl⟩ := first.unique first' same (others.noBoost ends) (others'.noBoost ends')
    obtain ⟨rfl, rfl⟩ := others.unique others' (List.append_cancel_left same) ends ends'
    exact ⟨rfl, rfl⟩
termination_by structural left => left

-- Side by side, an operand comes next, and none can come behind a whole disjunction or before `OR`.
theorem Disjuncts.unique {tokens tokens' rest rest' : List Token}
    {values values' : List (Option Query)} :
    Disjuncts analyzer tokens values → Disjuncts analyzer tokens' values' →
    tokens ++ rest = tokens' ++ rest' → EndsDisjunction rest → EndsDisjunction rest' →
    tokens = tokens' ∧ values = values'
  | .nil, right, same, ends, _ => by
    cases right with
    | nil => exact ⟨rfl, rfl⟩
    | or => exact nomatch ends _ (congrArg List.head? same)
    | adjacent first' others' =>
      rw [List.append_assoc] at same
      have begins := begins_of_append_eq first'.begins same.symm
      exact absurd begins (ends.not_begins ▸ Bool.false_ne_true)
  | .or first others, right, same, ends, ends' => by
    cases right with
    | nil => exact nomatch ends' _ (congrArg List.head? same).symm
    | or first' others' =>
      simp only [List.cons_append, List.append_assoc, List.cons.injEq, true_and] at same
      obtain ⟨rfl, rfl⟩ := first.unique first' same (others.endsConjunction ends)
        (others'.endsConjunction ends')
      obtain ⟨rfl, rfl⟩ := others.unique others' (List.append_cancel_left same) ends ends'
      exact ⟨rfl, rfl⟩
    | adjacent first' others' =>
      rw [List.append_assoc] at same
      exact Bool.noConfusion (begins_of_append_eq first'.begins same.symm)
  | .adjacent first others, right, same, ends, ends' => by
    cases right with
    | nil =>
      rw [List.append_assoc] at same
      have begins := begins_of_append_eq first.begins same
      exact absurd begins (ends'.not_begins ▸ Bool.false_ne_true)
    | or first' others' =>
      rw [List.append_assoc] at same
      exact Bool.noConfusion (begins_of_append_eq first.begins same)
    | adjacent first' others' =>
      simp only [List.append_assoc] at same
      obtain ⟨rfl, rfl⟩ := first.unique first' same (others.endsConjunction ends)
        (others'.endsConjunction ends')
      obtain ⟨rfl, rfl⟩ := others.unique others' (List.append_cancel_left same) ends ends'
      exact ⟨rfl, rfl⟩
termination_by structural left => left

theorem Disjunction.unique {tokens tokens' rest rest' : List Token}
    {value value' : Option Query} :
    Disjunction analyzer tokens value → Disjunction analyzer tokens' value' →
    tokens ++ rest = tokens' ++ rest' → EndsDisjunction rest → EndsDisjunction rest' →
    tokens = tokens' ∧ value = value'
  | .operands first others, .operands first' others', same, ends, ends' => by
    simp only [List.append_assoc] at same
    obtain ⟨rfl, rfl⟩ := first.unique first' same (others.endsConjunction ends)
      (others'.endsConjunction ends')
    obtain ⟨rfl, rfl⟩ := others.unique others' (List.append_cancel_left same) ends ends'
    exact ⟨rfl, rfl⟩
termination_by structural left => left

end

end Relevance.Query.Grammar
