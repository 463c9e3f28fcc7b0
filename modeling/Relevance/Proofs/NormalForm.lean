import Relevance.Proofs.Denotation
import Relevance.Proofs.Height
import Relevance.Proofs.Terms

/-! Queries that are read from a text are in normal form, and they are no deeper than the limit on
parentheses allows: a disjunction, a conjunction and a negation for each group that is open. -/

set_option autoImplicit false

namespace Relevance.Query

open Analysis Grammar

/-- No term is empty, phrases and combinations are made of at least two parts, and no negation is
negated. -/
inductive Normal : Query → Prop where
  | term {text : String} {boost : Float} : text ≠ "" → Normal (term text boost)
  | phrase {terms : List String} {boost : Float} : 2 ≤ terms.length →
      (∀ text ∈ terms, text ≠ "") → Normal (phrase terms boost)
  | conj {children : List Query} : 2 ≤ children.length → (∀ child ∈ children, Normal child) →
      Normal (conj children)
  | disj {children : List Query} : 2 ≤ children.length → (∀ child ∈ children, Normal child) →
      Normal (disj children)
  | neg {child : Query} : (∀ inner, child ≠ neg inner) → Normal child → Normal (neg child)

structure Shaped (limit : Nat) (query : Query) : Prop where
  normal : Normal query
  within : Within limit query

inductive Signed (limit : Nat) : Query → Prop where
  | positive {query : Query} : Shaped limit query → Signed limit query
  | negative {query : Query} : (∀ child, query ≠ neg child) → Shaped limit query →
      Signed limit (neg query)

variable {analyzer : Analyzer} {limit limit' room : Nat} {factor : Float} {query : Query}
  {queries : List Query} {terms : List String}

theorem Shaped.mono (shaped : Shaped limit query) (le : limit ≤ limit') : Shaped limit' query :=
  ⟨shaped.normal, shaped.within.mono le⟩

theorem shaped_ofTerms? (nonempty : ∀ text ∈ terms, text ≠ "")
    (found : ofTerms? terms = some query) : Shaped (limit + 1) query := by
  match terms with
  | [] => contradiction
  | [text] =>
    obtain rfl := Option.some.inj found
    exact ⟨.term (nonempty text (List.mem_singleton_self text)), .node nofun⟩
  | _ :: _ :: _ =>
    obtain rfl := Option.some.inj found
    exact ⟨.phrase (by simp) nonempty, .node nofun⟩

theorem scale_ne_neg (positive : ∀ child, query ≠ neg child) (child : Query) :
    scale factor query ≠ neg child := by
  cases query with
  | neg child => exact (positive child rfl).elim
  | _ => simp [scale]

theorem Normal.scale (normal : Normal query) : Normal (query.scale factor) := by
  induction normal with
  | term nonempty => rw [Query.scale]; exact .term nonempty
  | phrase several nonempty => rw [Query.scale]; exact .phrase several nonempty
  | conj several _ ih =>
    rw [Query.scale]
    exact .conj (by rwa [List.length_map]) (List.forall_mem_map.mpr ih)
  | disj several _ ih =>
    rw [Query.scale]
    exact .disj (by rwa [List.length_map]) (List.forall_mem_map.mpr ih)
  | neg positive _ ih =>
    rw [Query.scale]
    exact .neg (scale_ne_neg positive) ih

theorem children_scale : (query.scale factor).children = query.children.map (scale factor) := by
  cases query <;> simp [scale, children]

theorem Within.scale (within : Within limit query) : Within limit (query.scale factor) := by
  induction within with
  | node _ ih =>
    refine .node fun child isChild => ?_
    rw [children_scale] at isChild
    obtain ⟨below, isBelow, rfl⟩ := List.mem_map.mp isChild
    exact ih below isBelow

theorem Shaped.boost (shaped : Shaped limit query) : Shaped limit (query.boost factor) := by
  unfold Query.boost
  split
  · exact shaped
  · exact ⟨shaped.normal.scale, shaped.within.scale⟩

theorem Signed.shaped (signed : Signed limit query) : Shaped (limit + 1) query := by
  cases signed with
  | positive shaped => exact shaped.mono (Nat.le_succ limit)
  | negative positive shaped =>
    exact ⟨.neg positive shaped.normal, .node (List.forall_mem_singleton.mpr shaped.within)⟩

-- Only a negation that a group begins with is undone within the same limit; all others take turns.
theorem Signed.negate (signed : Signed limit query) : Signed limit (negate query) := by
  cases signed with
  | negative _ shaped => exact .positive shaped
  | positive shaped =>
    by_cases negative : ∃ child, query = neg child
    · obtain ⟨child, rfl⟩ := negative
      cases shaped.normal with
      | neg _ normal =>
        cases shaped.within with
        | node within =>
          have below := within child (List.mem_singleton_self child)
          exact .positive ⟨normal, below.mono (Nat.le_succ _)⟩
    · have positive : ∀ child, query ≠ neg child := fun child same => negative ⟨child, same⟩
      rw [negate_of_ne_neg positive]
      exact .negative positive shaped

theorem shaped_conjunction? (each : ∀ child ∈ queries, Shaped limit child)
    (found : conjunction? queries = some query) : Shaped (limit + 1) query := by
  match queries with
  | [] => contradiction
  | [child] =>
    obtain rfl := Option.some.inj found
    exact (List.forall_mem_singleton.mp each).mono (Nat.le_succ limit)
  | _ :: _ :: _ =>
    obtain rfl := Option.some.inj found
    exact ⟨.conj (by simp) fun child isChild => (each child isChild).normal,
      .node fun child isChild => (each child isChild).within⟩

theorem shaped_disjunction? (each : ∀ child ∈ queries, Shaped limit child)
    (found : disjunction? queries = some query) : Shaped (limit + 1) query := by
  match queries with
  | [] => contradiction
  | [child] =>
    obtain rfl := Option.some.inj found
    exact (List.forall_mem_singleton.mp each).mono (Nat.le_succ limit)
  | _ :: _ :: _ =>
    obtain rfl := Option.some.inj found
    exact ⟨.disj (by simp) fun child isChild => (each child isChild).normal,
      .node fun child isChild => (each child isChild).within⟩

namespace Grammar

variable {first rest : List Token}

theorem Boosted.shaped {node value : Option Query} {suffix : List Token}
    (boosted : Boosted node suffix value)
    (shaped : ∀ query, node = some query → Shaped limit query) :
    ∀ query, value = some query → Shaped limit query := by
  cases boosted with
  | absent => exact shaped
  | present =>
    intro query found
    obtain ⟨inner, isInner, rfl⟩ := Option.map_eq_some_iff.mp found
    exact (shaped inner isInner).boost

theorem shaped_leaf {text : String} :
    ∀ query, ofTerms? (analyzer.termsOf text) = some query → Shaped (limit + 1) query :=
  fun _ found => shaped_ofTerms? (fun _ isTerm => ne_empty_of_mem_termsOf isTerm) found

-- Inside of a group there is room for one parenthesis less.
theorem nestsWithin_group {inner suffix : List Token}
    (within : NestsWithin room 0 (.leftParen :: (inner ++ .rightParen :: suffix))) :
    ∃ room', room = room' + 1 ∧ NestsWithin room' 0 inner := by
  have opened := within [.leftParen] (List.prefix_append _ _)
  simp only [depthAfter_cons, depthAfter_nil, Token.rise] at opened
  obtain ⟨room, rfl⟩ := Nat.exists_eq_add_of_le' (show 1 ≤ room by omega)
  exact ⟨room, rfl, (nestsWithin_add 1).mp (by simpa [Token.rise] using within.tail.left)⟩

theorem nestsWithin_operands (within : NestsWithin room 0 (first ++ rest))
    (expression : Expression first) : NestsWithin room 0 first ∧ NestsWithin room 0 rest := by
  have behind := within.right
  rw [expression.depthAfter] at behind
  exact ⟨within.left, behind⟩

mutual

theorem Primary.shaped {tokens : List Token} {value : Option Query} :
    Primary analyzer tokens value → ∀ {room : Nat}, NestsWithin room 0 tokens →
      ∀ query, value = some query → Shaped (3 * room + 1) query
  | .word boosted, _, _ | .phrase boosted, _, _ => boosted.shaped shaped_leaf
  | .group inner boosted, room, within => by
    obtain ⟨room, rfl, inside⟩ := nestsWithin_group within
    exact boosted.shaped (inner.shaped inside)
  | .emptyGroup boosted, _, _ => boosted.shaped nofun
termination_by structural derived => derived

theorem Operand.signed {tokens : List Token} {value : Option Query} :
    Operand analyzer tokens value → ∀ {room : Nat}, NestsWithin room 0 tokens →
      ∀ query, value = some query → Signed (3 * room + 1) query
  | .not operand, room, within, query, found => by
    obtain ⟨inner, isInner, rfl⟩ := Option.map_eq_some_iff.mp found
    exact (operand.signed within.tail inner isInner).negate
  | .primary primary, room, within, query, found => .positive (primary.shaped within query found)
termination_by structural derived => derived

theorem Conjuncts.signed {tokens : List Token} {values : List (Option Query)} :
    Conjuncts analyzer tokens values → ∀ {room : Nat}, NestsWithin room 0 tokens →
      ∀ query, some query ∈ values → Signed (3 * room + 1) query
  | .nil, _, _, _, found => nomatch found
  | .and first others, room, within, query, found => by
    obtain ⟨left, right⟩ := nestsWithin_operands within.tail first.expression
    rcases List.mem_cons.mp found with same | found
    · exact first.signed left query same.symm
    · exact others.signed right query found
termination_by structural derived => derived

theorem Conjunction.shaped {tokens : List Token} {value : Option Query} :
    Conjunction analyzer tokens value → ∀ {room : Nat}, NestsWithin room 0 tokens →
      ∀ query, value = some query → Shaped (3 * room + 3) query
  | .operands first others, room, within, query, found => by
    obtain ⟨left, right⟩ := nestsWithin_operands within first.expression
    refine shaped_conjunction? (fun child isChild => Signed.shaped ?_) found
    rcases List.mem_cons.mp (List.reduceOption_mem_iff.mp isChild) with same | found
    · exact first.signed left child same.symm
    · exact others.signed right child found
termination_by structural derived => derived

theorem Disjuncts.shaped {tokens : List Token} {values : List (Option Query)} :
    Disjuncts analyzer tokens values → ∀ {room : Nat}, NestsWithin room 0 tokens →
      ∀ query, some query ∈ values → Shaped (3 * room + 3) query
  | .nil, _, _, _, found => nomatch found
  | .or first others, room, within, query, found => by
    obtain ⟨left, right⟩ := nestsWithin_operands within.tail first.expression
    rcases List.mem_cons.mp found with same | found
    · exact first.shaped left query same.symm
    · exact others.shaped right query found
  | .adjacent first others, room, within, query, found => by
    obtain ⟨left, right⟩ := nestsWithin_operands within first.expression
    rcases List.mem_cons.mp found with same | found
    · exact first.shaped left query same.symm
    · exact others.shaped right query found
termination_by structural derived => derived

/-- With `room` parentheses open at once there are `room + 1` levels, of three queries each, and a
leaf below them. -/
theorem Disjunction.shaped {tokens : List Token} {value : Option Query} :
    Disjunction analyzer tokens value → ∀ {room : Nat}, NestsWithin room 0 tokens →
      ∀ query, value = some query → Shaped (3 * room + 4) query
  | .operands first others, room, within, query, found => by
    obtain ⟨left, right⟩ := nestsWithin_operands within first.expression
    refine shaped_disjunction? (fun child isChild => ?_) found
    rcases List.mem_cons.mp (List.reduceOption_mem_iff.mp isChild) with same | found
    · exact first.shaped left child same.symm
    · exact others.shaped right child found
termination_by structural derived => derived

end

end Grammar

theorem shaped_of_parse {text : String} (read : parse analyzer text = .ok query) :
    Shaped 196 query ∧ ∀ child, query ≠ neg child := by
  cases found : Token.ofQuery text with
  | error error =>
    rw [parse, found] at read
    contradiction
  | ok tokens =>
    rw [parse_of_ofQuery found] at read
    obtain ⟨paired, derived, positive⟩ :=
      derived_of_ofTokens (Token.boostsPlaced_ofQuery found) read
    have within : NestsWithin (64 : Nat) 0 tokens :=
      nestsWithin_of_checkGrouping (Nat.zero_le _) paired
    exact ⟨derived.shaped within query rfl, positive⟩

/-- A query that is read from a text is in normal form and no negation itself. At most 196 queries
are on any way down in it, so the functions that go through it never have more calls open at once.
-/
theorem parse_normal {text : String} (read : parse analyzer text = .ok query) :
    Normal query ∧ (∀ child, query ≠ neg child) ∧
      (∀ way, IsWayDown (query :: way) → (query :: way).length ≤ 196) ∧
      (∀ factor, (Recursion.scale factor).runWithin? 196 query = some (query.scale factor)) ∧
      (∀ index, (Recursion.holds index).runWithin? 196 query = some (query.holds index) ∧
        (Recursion.leaves index).runWithin? 196 query = some (Score.leaves index query)) ∧
      Recursion.display.runWithin? 196 query = some query.display := by
  obtain ⟨⟨normal, within⟩, positive⟩ := shaped_of_parse read
  exact ⟨normal, positive, fun way isWay => within.length_le isWay,
    fun factor => (Recursion.governs_scale factor).runWithin? within,
    fun index => ⟨(Recursion.governs_holds index).runWithin? within,
      (Recursion.governs_leaves index).runWithin? within⟩,
    Recursion.governs_display.runWithin? within⟩

/-- A negation cancels out with the one that the group behind it begins with. -/
theorem parse_normal_dog_or_cat :
    ∃ query, query = conj [ofTerm "dog", disj [ofTerm "cat", neg (ofTerm "fox")]] ∧
      parse .html "dog AND NOT (NOT (cat NOT fox))" = .ok query ∧ Normal query ∧
      (∀ way, IsWayDown (query :: way) → (query :: way).length ≤ 196) ∧
      Recursion.display.runWithin? 196 query = some query.display := by
  have leaf : ∀ word ∈ ["dog", "cat", "fox"],
      Operand .html [.word word] (some (ofTerm word)) := by
    intro word isWord
    have terms : Analyzer.html.termsOf word = [word] := by
      simp only [List.mem_cons, List.not_mem_nil, or_false] at isWord
      rcases isWord with rfl | rfl | rfl <;> cbv
    exact .primary (.word (by rw [terms]; exact .absent))
  have inner : Operand .html [.leftParen, .word "cat", .not, .word "fox", .rightParen]
      (some (disj [ofTerm "cat", neg (ofTerm "fox")])) :=
    .primary (.group (.operands (leaf "cat" (by simp)).conjunction
      (.adjacent (Operand.not (leaf "fox" (by simp))).conjunction .nil)) .absent)
  have outer : Operand .html
      [.leftParen, .not, .leftParen, .word "cat", .not, .word "fox", .rightParen, .rightParen]
      (some (neg (disj [ofTerm "cat", neg (ofTerm "fox")]))) :=
    .primary (.group (Operand.not inner).conjunction.disjunction .absent)
  have derived := Conjunction.operands (leaf "dog" (by simp)) (.and (.not outer) .nil)
  have read : parse .html "dog AND NOT (NOT (cat NOT fox))" =
      .ok (conj [ofTerm "dog", disj [ofTerm "cat", neg (ofTerm "fox")]]) :=
    parse_of_derived (by cbv) (nestsWithin_of_checkGrouping (Nat.zero_le _) rfl)
      derived.disjunction (by simp)
  obtain ⟨normal, -, short, -, -, displays⟩ := parse_normal read
  exact ⟨_, rfl, read, normal, short, displays⟩

end Relevance.Query
