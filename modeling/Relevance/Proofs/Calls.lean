import Relevance.Proofs.Descent

/-! The calls that reading a query makes, and the places where they are made.

A query is only read once its grouping has been checked. What can go wrong with the grouping is then
never seen again, nor is a boost that nothing stands before.
-/

set_option autoImplicit false

namespace Relevance.Query.Grammar

open Analysis

inductive Part where
  | disjunction
  | disjuncts
  | conjunction
  | conjuncts
  | operand
  | primary

/-- The calls made when a disjunction is read from some tokens with no group open: the function, how
many groups are open there, and the tokens that are left. -/
inductive Calls (analyzer : Analyzer) (tokens : List Token) : Part → Nat → List Token → Prop where
  | start : Calls analyzer tokens .disjunction 0 tokens
  | conjunction {depth : Nat} {rest : List Token} :
      Calls analyzer tokens .disjunction depth rest → Calls analyzer tokens .conjunction depth rest
  | disjuncts {depth : Nat} {rest : List Token} {value : Option Query}
      {after : { after : List Token // after.length < rest.length }} :
      Calls analyzer tokens .disjunction depth rest →
      parseConjunction analyzer depth rest = .ok (value, after) →
      Calls analyzer tokens .disjuncts depth after
  | or {depth : Nat} {rest : List Token} :
      Calls analyzer tokens .disjuncts depth (.or :: rest) → operandBegins rest = true →
      Calls analyzer tokens .conjunction depth rest
  | afterOr {depth : Nat} {rest : List Token} {value : Option Query}
      {after : { after : List Token // after.length < rest.length }} :
      Calls analyzer tokens .disjuncts depth (.or :: rest) → operandBegins rest = true →
      parseConjunction analyzer depth rest = .ok (value, after) →
      Calls analyzer tokens .disjuncts depth after
  | adjacent {depth : Nat} {rest : List Token} :
      Calls analyzer tokens .disjuncts depth rest → operandBegins rest = true →
      Calls analyzer tokens .conjunction depth rest
  | afterAdjacent {depth : Nat} {rest : List Token} {value : Option Query}
      {after : { after : List Token // after.length < rest.length }} :
      Calls analyzer tokens .disjuncts depth rest → operandBegins rest = true →
      parseConjunction analyzer depth rest = .ok (value, after) →
      Calls analyzer tokens .disjuncts depth after
  | operand {depth : Nat} {rest : List Token} :
      Calls analyzer tokens .conjunction depth rest → Calls analyzer tokens .operand depth rest
  | conjuncts {depth : Nat} {rest : List Token} {value : Option Query}
      {after : { after : List Token // after.length < rest.length }} :
      Calls analyzer tokens .conjunction depth rest →
      parseOperand analyzer depth rest = .ok (value, after) →
      Calls analyzer tokens .conjuncts depth after
  | and {depth : Nat} {rest : List Token} :
      Calls analyzer tokens .conjuncts depth (.and :: rest) → operandBegins rest = true →
      Calls analyzer tokens .operand depth rest
  | afterAnd {depth : Nat} {rest : List Token} {value : Option Query}
      {after : { after : List Token // after.length < rest.length }} :
      Calls analyzer tokens .conjuncts depth (.and :: rest) → operandBegins rest = true →
      parseOperand analyzer depth rest = .ok (value, after) →
      Calls analyzer tokens .conjuncts depth after
  | primary {depth : Nat} {rest after : List Token} {negated : Bool} :
      Calls analyzer tokens .operand depth rest →
      takeNegations false rest = .ok (negated, after) → Calls analyzer tokens .primary depth after
  | group {depth : Nat} {rest : List Token} :
      Calls analyzer tokens .primary depth (.leftParen :: rest) → depth < maxDepth →
      rest.head? ≠ some .rightParen → Calls analyzer tokens .disjunction (depth + 1) rest

variable {analyzer : Analyzer} {depth bound : Nat} {previous : Option Token}
  {tokens rest : List Token}

def Part.CalledAt (part : Part) (depth : Nat) (rest : List Token) : Prop :=
  match part with
  | .disjuncts | .conjuncts => ∃ last, last ≠ .leftParen ∧ Place depth (some last) rest
  | .disjunction | .conjunction | .operand =>
    ∃ previous, Place depth previous rest ∧ Entry previous rest
  | .primary =>
    ∃ previous, Place depth previous rest ∧ Entry previous rest ∧ rest.head? ≠ some .not

theorem place_of_parseConjunction {value : Option Query}
    {after : { after : List Token // after.length < rest.length }}
    (place : Place depth previous rest) (entry : Entry previous rest)
    (found : parseConjunction analyzer depth rest = .ok (value, after)) :
    ∃ last, last ≠ .leftParen ∧ Place depth (some last) after := by
  have reads := reads_parseConjunction (fun _ => reads_parseDisjunction analyzer) (Nat.le_refl _)
    place entry
  rw [found] at reads
  obtain ⟨-, last, -, -, -, joined, behind, -⟩ :=
    reads.followed place fun _ _ conjunction => conjunction.expression
  exact ⟨last, joined, behind⟩

theorem place_of_parseOperand {value : Option Query}
    {after : { after : List Token // after.length < rest.length }}
    (place : Place depth previous rest) (entry : Entry previous rest)
    (found : parseOperand analyzer depth rest = .ok (value, after)) :
    ∃ last, last ≠ .leftParen ∧ Place depth (some last) after := by
  have reads := reads_parseOperand (fun _ => reads_parseDisjunction analyzer) (Nat.le_refl _)
    place entry
  rw [found] at reads
  obtain ⟨-, last, -, -, -, joined, behind, -⟩ :=
    reads.followed place fun _ _ operand => operand.expression
  exact ⟨last, joined, behind⟩

theorem Place.start (place : Place 0 none tokens) (nonempty : tokens ≠ []) : Entry none tokens := by
  refine place.entry (.inl rfl) nonempty fun head => ?_
  have paired := place.paired
  rw [List.eq_cons_of_mem_head? head] at paired
  contradiction

theorem Place.enterGroup (place : Place depth previous (.leftParen :: rest))
    (nonempty : rest.head? ≠ some .rightParen) :
    Place (depth + 1) (some .leftParen) rest ∧ Entry (some .leftParen) rest :=
  have inside := place.enter.2
  ⟨inside, inside.entry (.inr rfl) inside.ne_nil nonempty⟩

theorem Calls.calledAt {part : Part} (place : Place 0 none tokens) (nonempty : tokens ≠ [])
    (called : Calls analyzer tokens part depth rest) : part.CalledAt depth rest := by
  -- A call is made at the place of the call before it, or behind what that one has read.
  induction called with
  | start => exact ⟨none, place, place.start nonempty⟩
  | conjunction _ ih | operand _ ih => exact ih
  | disjuncts _ found ih =>
    obtain ⟨previous, place, entry⟩ := ih
    exact place_of_parseConjunction place entry found
  | conjuncts _ found ih =>
    obtain ⟨previous, place, entry⟩ := ih
    exact place_of_parseOperand place entry found
  | or _ begins ih =>
    obtain ⟨last, joined, place⟩ := ih
    exact ⟨_, place.tail (.inr (.inl rfl)), .operand begins⟩
  | and _ begins ih =>
    obtain ⟨last, joined, place⟩ := ih
    exact ⟨_, place.tail (.inl rfl), .operand begins⟩
  | afterOr _ begins found ih =>
    obtain ⟨last, joined, place⟩ := ih
    exact place_of_parseConjunction (place.tail (.inr (.inl rfl))) (.operand begins) found
  | adjacent _ begins ih =>
    obtain ⟨last, joined, place⟩ := ih
    exact ⟨_, place, .operand begins⟩
  | afterAdjacent _ begins found ih =>
    obtain ⟨last, joined, place⟩ := ih
    exact place_of_parseConjunction place (.operand begins) found
  | afterAnd _ begins found ih =>
    obtain ⟨last, joined, place⟩ := ih
    exact place_of_parseOperand (place.tail (.inl rfl)) (.operand begins) found
  | primary _ taken ih =>
    obtain ⟨previous, place, entry⟩ := ih
    have negations := takeNegations_reads false place entry
    rw [taken] at negations
    obtain ⟨count, before, -, -, positive, place, entry, -⟩ := negations
    exact ⟨before, place, entry, positive⟩
  | group _ room nonempty ih =>
    obtain ⟨previous, place, -⟩ := ih
    exact ⟨_, place.enterGroup nonempty⟩

/-- What a primary is read from is never a closing parenthesis or a boost. -/
theorem Calls.head_of_primary {token : Token} (place : Place 0 none tokens)
    (nonempty : tokens ≠ []) (called : Calls analyzer tokens .primary depth (token :: rest)) :
    token ≠ .rightParen ∧ ∀ text, token ≠ .boost text := by
  obtain ⟨previous, -, entry, -⟩ := called.calledAt place nonempty
  cases entry with
  | operand begins => exact ⟨by rintro rfl; contradiction, by rintro text rfl; contradiction⟩
  | operator head operator front =>
    obtain rfl := Option.some.inj head
    rcases operator with rfl | rfl <;> simp

/-- A group is entered only where the limit of nesting leaves room. -/
theorem Calls.room (place : Place 0 none tokens) (nonempty : tokens ≠ [])
    (called : Calls analyzer tokens .primary depth (.leftParen :: rest)) : depth < maxDepth := by
  obtain ⟨previous, place, -⟩ := called.calledAt place nonempty
  exact Nat.lt_of_not_le place.enter.1

/-- After what a group holds, its parenthesis is closed. -/
theorem Calls.closes {node : Option Query}
    {after : { after : List Token // after.length < rest.length }}
    (place : Place 0 none tokens) (nonempty : tokens ≠ [])
    (called : Calls analyzer tokens .primary depth (.leftParen :: rest))
    (inside : rest.head? ≠ some .rightParen)
    (found : parseDisjunction analyzer (depth + 1) rest = .ok (node, after)) :
    after.1.head? = some .rightParen := by
  obtain ⟨previous, place, -⟩ := called.calledAt place nonempty
  obtain ⟨place, entry⟩ := place.enterGroup inside
  have reads := reads_parseDisjunction analyzer place entry
  rw [found] at reads
  obtain ⟨-, -, rest', -, -, split, -⟩ := place.closing reads
  rw [split]
  rfl

end Relevance.Query.Grammar
