import Relevance.Proofs.Faults
import Relevance.Proofs.Grouping
import Relevance.Proofs.Placement
import Relevance.Proofs.Values

/-! What the functions that read a part of a query answer.

Each reads a front of the tokens that the grammar derives, as long as it can be, or reports the
first token at fault. The tokens are those of a query whose grouping has been checked.
-/

set_option autoImplicit false

namespace Relevance.Query.Grammar

open Analysis

/-- A place in the tokens of a query: `depth` groups are open, and `previous` stands before it. -/
structure Place (depth : Nat) (previous : Option Token) (tokens : List Token) : Prop where
  within : depth ≤ maxDepth
  paired : checkGrouping depth tokens = .ok ()
  placed : BoostsPlaced previous tokens

inductive Entry (previous : Option Token) (tokens : List Token) : Prop where
  | operand : operandBegins tokens = true → Entry previous tokens
  | operator {token : Token} : tokens.head? = some token → token = .and ∨ token = .or →
      previous = none ∨ previous = some .leftParen → Entry previous tokens

def Reads (Derived : List Token → Option Query → Prop) (Ends : List Token → Prop)
    (previous : Option Token) (tokens : List Token) {bound : Nat} :
    Except ParseError (Parsed bound) → Prop
  | .ok (value, rest) => ∃ used, tokens = used ++ rest.1 ∧ Derived used value ∧ Ends rest.1
  | .error error => firstFault? previous tokens = some error

variable {analyzer : Analyzer} {depth bound : Nat} {previous : Option Token}
  {tokens rest : List Token}

theorem Place.after {used : List Token} (place : Place depth previous (used ++ rest))
    (expression : Expression used) :
    ∃ last, last ≠ .leftParen ∧ Place depth (some last) rest ∧
      firstFault? previous (used ++ rest) = firstFault? (some last) rest := by
  obtain ⟨last, isLast, noParen, clean⟩ := expression.firstFault?
  refine ⟨last, noParen, ⟨place.within, ?_, ?_⟩, clean previous rest⟩
  · rw [← expression.checkGrouping (nestsWithin_of_checkGrouping place.within place.paired).left]
    exact place.paired
  · have placed := (boostsPlaced_append.mp place.placed).2
    rwa [isLast, Option.some_or] at placed

theorem Place.tail {token : Token} (place : Place depth previous (token :: rest))
    (operator : token = .and ∨ token = .or ∨ token = .not) : Place depth (some token) rest where
  within := place.within
  paired := by
    have paired := place.paired
    rcases operator with rfl | rfl | rfl <;> simpa [checkGrouping] using paired
  placed := place.placed.2

theorem Place.enter (place : Place depth previous (.leftParen :: rest)) :
    ¬maxDepth ≤ depth ∧ Place (depth + 1) (some .leftParen) rest := by
  have paired := place.paired
  unfold checkGrouping at paired
  split at paired
  · contradiction
  · next room => exact ⟨room, ⟨by omega, paired, place.placed.2⟩⟩

theorem Place.leave (place : Place (depth + 1) previous (.rightParen :: rest)) :
    Place depth (some .rightParen) rest where
  within := Nat.le_of_succ_le place.within
  paired := place.paired
  placed := place.placed.2

theorem Place.ne_nil (place : Place (depth + 1) previous tokens) : tokens ≠ [] := by
  rintro rfl
  exact nomatch place.paired

theorem Place.entry (place : Place depth previous tokens)
    (front : previous = none ∨ previous = some .leftParen) (nonempty : tokens ≠ [])
    (open_ : tokens.head? ≠ some .rightParen) : Entry previous tokens := by
  cases tokens with
  | nil => contradiction
  | cons token rest =>
    cases token with
    | word | phrase | leftParen | not => exact .operand rfl
    | and => exact .operator rfl (.inl rfl) front
    | or => exact .operator rfl (.inr rfl) front
    | rightParen => exact absurd rfl open_
    | boost text =>
      have accepts := place.placed.1 text rfl
      rcases front with rfl | rfl <;> contradiction

-- If some tokens are not at fault, an answer for what stands behind them is one for all of it. This
-- joins the answers of two functions that are called one after the other.
theorem Reads.prepend {Derived Derived' : List Token → Option Query → Prop}
    {Ends : List Token → Prop} {previous' : Option Token}
    {result : Except ParseError (Parsed bound)}
    (reads : Reads Derived Ends previous' rest result) (front : List Token)
    (split : tokens = front ++ rest)
    (clean : firstFault? previous tokens = firstFault? previous' rest)
    (derives : ∀ used value, Derived used value → Derived' (front ++ used) value) :
    Reads Derived' Ends previous tokens result := by
  cases result with
  | error error => exact clean.trans reads
  | ok answer =>
    obtain ⟨used, same, derived, ends⟩ := reads
    exact ⟨front ++ used, by rw [split, same, List.append_assoc], derives used _ derived, ends⟩

theorem Reads.followed {First : List Token → Option Query → Prop} {Ends : List Token → Prop}
    {node : Option Query} {after : { after : List Token // after.length < bound }}
    (reads : Reads First Ends previous tokens (.ok (node, after)))
    (place : Place depth previous tokens)
    (expression : ∀ used value, First used value → Expression used) :
    ∃ used last, tokens = used ++ after.1 ∧ First used node ∧ Ends after.1 ∧
      last ≠ .leftParen ∧ Place depth (some last) after.1 ∧
      firstFault? previous tokens = firstFault? (some last) after.1 := by
  obtain ⟨used, same, derived, ends⟩ := reads
  rw [same] at place
  obtain ⟨last, joined, place', clean⟩ := place.after (expression used node derived)
  exact ⟨used, last, same, derived, ends, joined, place', by rw [same, clean]⟩

theorem Place.closing {node : Option Query}
    {after : { after : List Token // after.length < bound }}
    (place : Place (depth + 1) previous tokens)
    (reads : Reads (Disjunction analyzer) EndsDisjunction previous tokens (.ok (node, after))) :
    ∃ used last rest, tokens = used ++ .rightParen :: rest ∧ Disjunction analyzer used node ∧
      after.1 = .rightParen :: rest ∧ Place (depth + 1) (some last) (.rightParen :: rest) ∧
      firstFault? previous tokens = firstFault? (some .rightParen) rest := by
  obtain ⟨used, last, same, derived, ends, -, behind, clean⟩ :=
    reads.followed place fun _ _ disjunction => disjunction.expression
  obtain ⟨token, rest, split⟩ := List.exists_cons_of_ne_nil behind.ne_nil
  obtain rfl := ends token (by rw [split]; rfl)
  rw [split] at same behind clean
  exact ⟨used, last, rest, same, derived, split, behind, clean.trans (firstFault?_of_none rfl)⟩

theorem reads_takeBoost {last : Token} {node : Option Query} {shorter : tokens.length < bound}
    (place : BoostsPlaced (some last) tokens) :
    Reads (Boosted node) NoBoost (some last) tokens (takeBoost node tokens shorter) := by
  unfold takeBoost
  split
  · next text rest _ =>
    split
    · next factor read =>
      refine ⟨[.boost text], rfl, .present (boostOfText?_eq_some.mp read), ?_⟩
      intro other head
      cases rest with
      | nil => contradiction
      | cons token rest =>
        -- A second boost would stand after a boost, which accepts none.
        obtain rfl := Option.some.inj head
        exact nomatch place.2.1 other rfl
    · next unread =>
      apply firstFault?_of_fault
      simp [fault?, unread]
  · next noBoost =>
    refine ⟨[], rfl, .absent, fun text head => ?_⟩
    cases tokens with
    | nil => contradiction
    | cons token rest =>
      obtain rfl := Option.some.inj head
      exact noBoost text rest shorter rfl HEq.rfl

theorem parsePrimary_operator {token : Token} (operator : token = .and ∨ token = .or) :
    parsePrimary analyzer depth (token :: rest) = .error .missingOperand := by
  rcases operator with rfl | rfl <;> simp [parsePrimary]

theorem takeNegations_reads (negated : Bool) (place : Place depth previous tokens)
    (entry : Entry previous tokens) :
    match takeNegations negated tokens with
    | .error error => firstFault? previous tokens = some error
    | .ok (odd, rest) => ∃ count before, tokens = List.replicate count .not ++ rest ∧
        odd = (negated ^^ decide (count % 2 = 1)) ∧ rest.head? ≠ some .not ∧
        Place depth before rest ∧ Entry before rest ∧
        firstFault? previous tokens = firstFault? before rest := by
  fun_induction takeNegations negated tokens generalizing previous with
  | case1 negated rest begins ih =>
    -- The negations read so far are in `negated`, so the count starts anew at every step.
    have sound : fault? previous .not rest = none := by simp [fault?, begins]
    have reads := ih (place.tail (.inr (.inr rfl))) (.operand begins)
    rw [← firstFault?_of_none sound] at reads
    split at reads
    · exact reads
    · next odd rest' _ =>
      obtain ⟨count, before, rfl, rfl, positive, place', entry', clean⟩ := reads
      refine ⟨count + 1, before, rfl, ?_, positive, place', entry', clean⟩
      rcases Nat.mod_two_eq_zero_or_one count with even | odd
      · simp [even, show (count + 1) % 2 = 1 by omega]
      · simp [odd, show (count + 1) % 2 = 0 by omega]
  | case2 negated rest ends =>
    exact firstFault?_of_fault (by simp [fault?, ends])
  | case3 negated tokens positive =>
    refine ⟨0, previous, rfl, by simp, ?_, place, entry, rfl⟩
    intro head
    exact positive _ (List.eq_cons_of_mem_head? head)

/-- What the loop over the further operands of a conjunction adds to those before, of which the last
one is given first. -/
def FurtherConjuncts (analyzer : Analyzer) (operands : List Query) (tokens : List Token)
    (value : Option Query) : Prop :=
  ∃ values, Conjuncts analyzer tokens values ∧
    value = conjunction? (operands.reverse ++ values.reduceOption)

def FurtherDisjuncts (analyzer : Analyzer) (operands : List Query) (tokens : List Token)
    (value : Option Query) : Prop :=
  ∃ values, Disjuncts analyzer tokens values ∧
    value = disjunction? (operands.reverse ++ values.reduceOption)

theorem toList_reverse_append_reduceOption (node : Option Query) (values : List (Option Query)) :
    node.toList.reverse ++ values.reduceOption = (node :: values).reduceOption := by
  cases node <;> simp [List.reduceOption_cons_of_some, List.reduceOption_cons_of_none]

theorem reverse_append_reduceOption (node : Option Query) (operands : List Query)
    (values : List (Option Query)) :
    (node.toList ++ operands).reverse ++ values.reduceOption =
      operands.reverse ++ (node :: values).reduceOption := by
  rw [List.reverse_append, List.append_assoc, toList_reverse_append_reduceOption]

-- The parts of a disjunction lean on what is known of the shorter ones inside of their groups. That
-- is a hypothesis until all parts are put together, and `size` bounds the shorter ones.
section

variable {size : Nat}
  (smaller : ∀ {depth : Nat} {previous : Option Token} {tokens : List Token},
    tokens.length < size → Place depth previous tokens → Entry previous tokens →
    Reads (Disjunction analyzer) EndsDisjunction previous tokens
      (parseDisjunction analyzer depth tokens))

include smaller

theorem reads_group (short : rest.length < size)
    (place : Place depth previous (.leftParen :: rest)) :
    Reads (Primary analyzer) NoBoost previous (.leftParen :: rest)
      (parsePrimary analyzer depth (.leftParen :: rest)) := by
  obtain ⟨room, inside⟩ := place.enter
  by_cases closed : ∃ after, rest = .rightParen :: after
  · obtain ⟨after, rfl⟩ := closed
    rw [parsePrimary, if_neg room]
    exact (reads_takeBoost inside.leave.placed).prepend [.leftParen, .rightParen] rfl rfl
      fun _ _ boosted => .emptyGroup boosted
  · rw [parsePrimary, if_neg room]
    · have entry := inside.entry (.inr rfl) inside.ne_nil fun head =>
        closed ⟨_, List.eq_cons_of_mem_head? head⟩
      have reads := smaller short inside entry
      split
      · next error failed =>
        rw [failed] at reads
        exact (firstFault?_of_none rfl).trans reads
      · next node after shorter found =>
        rw [found] at reads
        obtain ⟨used, last, rest, same, derived, split, behind, clean⟩ := inside.closing reads
        obtain rfl := List.tail_eq_of_cons_eq split
        refine (reads_takeBoost behind.leave.placed).prepend
          (.leftParen :: (used ++ [.rightParen])) (by simp [same]) ?_ ?_
        · exact (firstFault?_of_none rfl).trans clean
        · intro suffix value boosted
          simpa using Primary.group derived boosted
      · next answer unclosed found =>
        -- The grouping has been checked, so only a closing parenthesis can end the disjunction.
        rw [found] at reads
        obtain ⟨node, after, shorter⟩ := answer
        obtain ⟨-, -, rest, -, -, rfl, -⟩ := inside.closing reads
        exact (unclosed node rest shorter rfl).elim
    · exact fun after same => closed ⟨after, same⟩

theorem reads_parsePrimary (short : tokens.length ≤ size) (place : Place depth previous tokens)
    (entry : Entry previous tokens) (positive : tokens.head? ≠ some .not) :
    Reads (Primary analyzer) NoBoost previous tokens (parsePrimary analyzer depth tokens) := by
  cases entry with
  | operator head operator front =>
    rw [List.eq_cons_of_mem_head? head, parsePrimary_operator operator]
    apply firstFault?_of_fault
    rcases operator with rfl | rfl <;> rcases front with rfl | rfl <;> simp [fault?]
  | operand begins =>
    cases tokens with
    | nil => contradiction
    | cons token rest =>
      cases token with
      | word text =>
        rw [parsePrimary]
        exact (reads_takeBoost place.placed.2).prepend [.word text] rfl
          (firstFault?_of_none rfl) fun _ _ boosted => .word boosted
      | phrase text =>
        rw [parsePrimary]
        exact (reads_takeBoost place.placed.2).prepend [.phrase text] rfl
          (firstFault?_of_none rfl) fun _ _ boosted => .phrase boosted
      | leftParen => exact reads_group smaller (Nat.lt_of_succ_le short) place
      | not => exact absurd rfl positive
      | and | or | rightParen | boost => contradiction

theorem reads_parseOperand (short : tokens.length ≤ size) (place : Place depth previous tokens)
    (entry : Entry previous tokens) :
    Reads (Operand analyzer) NoBoost previous tokens (parseOperand analyzer depth tokens) := by
  have negations := takeNegations_reads false place entry
  rw [parseOperand]
  split
  · next error failed =>
    rw [failed] at negations
    exact negations
  · next negated rest taken =>
    rw [taken] at negations
    obtain ⟨count, before, same, parity, positive, place, entry, clean⟩ := negations
    have short := Nat.le_trans (length_of_takeNegations taken) short
    have reads := reads_parsePrimary smaller short place entry positive
    split
    · next error failed =>
      rw [failed] at reads
      exact clean.trans reads
    · next node after shorter found =>
      rw [found] at reads
      obtain ⟨used, same', derived, ends⟩ := reads
      refine ⟨List.replicate count .not ++ used, ?_, ?_, ends⟩
      · exact (same.trans (congrArg _ same')).trans (List.append_assoc ..).symm
      · have negations := derived.negations count
        simpa [parity] using negations

theorem reads_parseConjuncts (operands : List Query) (shorter : tokens.length < bound)
    {last : Token} (short : tokens.length ≤ size) (joined : last ≠ .leftParen)
    (place : Place depth (some last) tokens) (noBoost : NoBoost tokens) :
    Reads (FurtherConjuncts analyzer operands) EndsConjunction (some last) tokens
      (parseConjuncts analyzer depth bound operands tokens shorter) := by
  -- Every operand takes a token at least, so the induction is on the number of tokens.
  induction count : tokens.length using Nat.strongRecOn generalizing last operands tokens with
  | ind count ih =>
  subst count
  by_cases continues : ∃ rest, tokens = .and :: rest
  · obtain ⟨rest, rfl⟩ := continues
    rw [parseConjuncts]
    split
    · next begins =>
      have sound : fault? (some last) .and rest = none := by simp [fault?, begins, joined]
      have place := place.tail (.inl rfl)
      have reads := reads_parseOperand smaller (Nat.le_of_succ_le short) place (.operand begins)
      split
      · next error failed =>
        rw [failed] at reads
        exact (firstFault?_of_none sound).trans reads
      · next node after less found =>
        rw [found] at reads
        obtain ⟨used, last', same, first, noBoost, joined, place, clean⟩ :=
          reads.followed place fun _ _ operand => operand.expression
        have reads := ih after.length (Nat.lt_succ_of_lt less) (node.toList ++ operands)
          (Nat.lt_trans less (Nat.lt_of_succ_lt shorter))
          (Nat.le_trans (Nat.le_of_lt less) (Nat.le_of_succ_le short)) joined place noBoost rfl
        apply reads.prepend (.and :: used) (congrArg (.and :: ·) same)
        · exact (firstFault?_of_none sound).trans clean
        · intro rest value further
          obtain ⟨values, others, rfl⟩ := further
          exact ⟨node :: values, .and first others, by rw [reverse_append_reduceOption]⟩
    · next ends =>
      apply firstFault?_of_fault
      simp [fault?, ends]
  · rw [parseConjuncts]
    · refine ⟨[], rfl, ⟨[], .nil, by simp⟩, noBoost, fun head => ?_⟩
      exact continues ⟨_, List.eq_cons_of_mem_head? head⟩
    · exact fun rest _ same _ => continues ⟨rest, same⟩

theorem reads_parseConjunction (short : tokens.length ≤ size)
    (place : Place depth previous tokens) (entry : Entry previous tokens) :
    Reads (Conjunction analyzer) EndsConjunction previous tokens
      (parseConjunction analyzer depth tokens) := by
  have reads := reads_parseOperand smaller short place entry
  rw [parseConjunction]
  split
  · next error failed =>
    rw [failed] at reads
    exact reads
  · next node after less found =>
    rw [found] at reads
    obtain ⟨used, last, same, first, noBoost, joined, place, clean⟩ :=
      reads.followed place fun _ _ operand => operand.expression
    apply (reads_parseConjuncts smaller node.toList less (Nat.le_trans (Nat.le_of_lt less) short)
      joined place noBoost).prepend used same clean
    intro rest value further
    obtain ⟨values, others, rfl⟩ := further
    rw [toList_reverse_append_reduceOption]
    exact .operands first others

theorem reads_parseDisjuncts (operands : List Query) (shorter : tokens.length < bound)
    {last : Token} (short : tokens.length ≤ size) (joined : last ≠ .leftParen)
    (place : Place depth (some last) tokens) (ends : EndsConjunction tokens) :
    Reads (FurtherDisjuncts analyzer operands) EndsDisjunction (some last) tokens
      (parseDisjuncts analyzer depth bound operands tokens shorter) := by
  induction count : tokens.length using Nat.strongRecOn generalizing last operands tokens with
  | ind count ih =>
  subst count
  by_cases continues : ∃ rest, tokens = .or :: rest
  · obtain ⟨rest, rfl⟩ := continues
    rw [parseDisjuncts]
    split
    · next begins =>
      have sound : fault? (some last) .or rest = none := by simp [fault?, begins, joined]
      have place := place.tail (.inr (.inl rfl))
      have reads := reads_parseConjunction smaller (Nat.le_of_succ_le short) place (.operand begins)
      split
      · next error failed =>
        rw [failed] at reads
        exact (firstFault?_of_none sound).trans reads
      · next node after less found =>
        rw [found] at reads
        obtain ⟨used, last', same, first, ends, joined, place, clean⟩ :=
          reads.followed place fun _ _ conjunction => conjunction.expression
        have reads := ih after.length (Nat.lt_succ_of_lt less) (node.toList ++ operands)
          (Nat.lt_trans less (Nat.lt_of_succ_lt shorter))
          (Nat.le_trans (Nat.le_of_lt less) (Nat.le_of_succ_le short)) joined place ends rfl
        apply reads.prepend (.or :: used) (congrArg (.or :: ·) same)
        · exact (firstFault?_of_none sound).trans clean
        · intro rest value further
          obtain ⟨values, others, rfl⟩ := further
          exact ⟨node :: values, .or first others, by rw [reverse_append_reduceOption]⟩
    · next ends =>
      apply firstFault?_of_fault
      simp [fault?, ends]
  · rw [parseDisjuncts]
    · split
      · next begins =>
        have reads := reads_parseConjunction smaller short place (.operand begins)
        split
        · next error failed =>
          rw [failed] at reads
          exact reads
        · next node after less found =>
          rw [found] at reads
          obtain ⟨used, last', same, first, ends, joined, place, clean⟩ :=
            reads.followed place fun _ _ conjunction => conjunction.expression
          have reads := ih after.length less (node.toList ++ operands) (Nat.lt_trans less shorter)
            (Nat.le_trans (Nat.le_of_lt less) short) joined place ends rfl
          apply reads.prepend used same clean
          intro rest value further
          obtain ⟨values, others, rfl⟩ := further
          exact ⟨node :: values, .adjacent first others, by rw [reverse_append_reduceOption]⟩
      · next stops =>
        -- Neither an operator nor the beginning of an operand: only `)` can come next.
        refine ⟨[], rfl, ⟨[], .nil, by simp⟩, fun token head => ?_⟩
        change tokens.head? = some token at head
        cases token with
        | rightParen => rfl
        | and => exact absurd head ends.noAnd
        | or => exact (continues ⟨_, List.eq_cons_of_mem_head? head⟩).elim
        | boost text => exact absurd head (ends.noBoost text)
        | word | phrase | leftParen | not =>
          exact absurd (by rw [operandBegins, head]; rfl) stops
    · exact fun rest _ same _ => continues ⟨rest, same⟩

theorem reads_parseDisjunction_of_smaller (short : tokens.length ≤ size)
    (place : Place depth previous tokens) (entry : Entry previous tokens) :
    Reads (Disjunction analyzer) EndsDisjunction previous tokens
      (parseDisjunction analyzer depth tokens) := by
  have reads := reads_parseConjunction smaller short place entry
  rw [parseDisjunction]
  split
  · next error failed =>
    rw [failed] at reads
    exact reads
  · next node after less found =>
    rw [found] at reads
    obtain ⟨used, last, same, first, ends, joined, place, clean⟩ :=
      reads.followed place fun _ _ conjunction => conjunction.expression
    apply (reads_parseDisjuncts smaller node.toList less (Nat.le_trans (Nat.le_of_lt less) short)
      joined place ends).prepend used same clean
    intro rest value further
    obtain ⟨values, others, rfl⟩ := further
    rw [toList_reverse_append_reduceOption]
    exact .operands first others

end

variable (analyzer)

theorem reads_parseDisjunction_of_le {size : Nat} (short : tokens.length ≤ size)
    (place : Place depth previous tokens) (entry : Entry previous tokens) :
    Reads (Disjunction analyzer) EndsDisjunction previous tokens
      (parseDisjunction analyzer depth tokens) := by
  induction size generalizing depth previous tokens with
  | zero =>
    exact reads_parseDisjunction_of_smaller (fun less => absurd less (Nat.not_lt_zero _)) short
      place entry
  | succ size ih =>
    exact reads_parseDisjunction_of_smaller (fun less => ih (Nat.le_of_lt_succ less)) short
      place entry

/-- A query or the inside of a group is read up to its end, or up to the first token at fault. -/
theorem reads_parseDisjunction (place : Place depth previous tokens)
    (entry : Entry previous tokens) :
    Reads (Disjunction analyzer) EndsDisjunction previous tokens
      (parseDisjunction analyzer depth tokens) :=
  reads_parseDisjunction_of_le analyzer (Nat.le_refl _) place entry

end Relevance.Query.Grammar
