import Mathlib.Data.List.Forall2
import Relevance.Proofs.Nesting
import Relevance.Proofs.Reading
import Relevance.Proofs.Spelling

/-! Texts that stand for queries wherever they are written, and how such texts are joined, grouped,
negated and boosted. -/

set_option autoImplicit false

namespace Relevance.Query

open Analysis Grammar

/-- A text is read as tokens that a rule derives with the given value, and in it at most `room`
parentheses are open at once. -/
def Denotes (Rule : List Token → Option Query → Prop) (room : Nat) (text : List Char)
    (query : Query) : Prop :=
  ∃ tokens, Token.Spells text tokens ∧ Paired room tokens ∧ Rule tokens (some query)

variable {analyzer : Analyzer} {room : Nat} {query : Query} {value : Option Query}
  {tokens : List Token}
  {text : List Char} {texts : List (List Char)} {queries : List Query}

theorem Denotes.imp {Rule Rule' : List Token → Option Query → Prop}
    (denotes : Denotes Rule room text query)
    (implies : ∀ {tokens}, Rule tokens (some query) → Rule' tokens (some query)) :
    Denotes Rule' room text query := by
  obtain ⟨tokens, spells, paired, derived⟩ := denotes
  exact ⟨tokens, spells, paired, implies derived⟩

theorem Grammar.Operand.conjunction (operand : Operand analyzer tokens value) :
    Conjunction analyzer tokens value := by
  cases value with
  | none => simpa [conjunction?] using Conjunction.operands operand .nil
  | some query => simpa [conjunction?] using Conjunction.operands operand .nil

theorem Grammar.Conjunction.disjunction (conjunction : Conjunction analyzer tokens value) :
    Disjunction analyzer tokens value := by
  cases value with
  | none => simpa [disjunction?] using Disjunction.operands conjunction .nil
  | some query => simpa [disjunction?] using Disjunction.operands conjunction .nil

theorem Denotes.disjunction (operand : Denotes (Operand analyzer) room text query) :
    Denotes (Disjunction analyzer) room text query :=
  operand.imp fun derived => derived.conjunction.disjunction

theorem negate_of_ne_neg (positive : ∀ child, query ≠ neg child) : negate query = neg query := by
  cases query with
  | neg child => exact (positive child rfl).elim
  | _ => rfl

theorem Denotes.negation (operand : Denotes (Operand analyzer) room text query) :
    Denotes (Operand analyzer) room ('N' :: 'O' :: 'T' :: ' ' :: text) (negate query) := by
  obtain ⟨tokens, spells, paired, derived⟩ := operand
  exact ⟨.not :: tokens, Token.spells_not.append spells, paired.cons rfl, .not derived⟩

theorem Denotes.group (inside : Denotes (Disjunction analyzer) room text query) :
    Denotes (Operand analyzer) (room + 1) ('(' :: (text ++ [')'])) query := by
  obtain ⟨tokens, spells, paired, derived⟩ := inside
  exact ⟨_, spells.group.spells, paired.group, .primary (.group derived .absent)⟩

theorem Denotes.boostedGroup {number : String} {factor : Float}
    (inside : Denotes (Disjunction analyzer) room text query) (isBoost : IsBoost number factor) :
    Denotes (Operand analyzer) (room + 1) ('(' :: (text ++ [')']) ++ '^' :: number.toList)
      (boost factor query) := by
  obtain ⟨tokens, spells, paired, derived⟩ := inside
  have tight : Token.SpellsTightly _ ((.leftParen :: tokens) ++ [.rightParen]) := spells.group
  have boosted : Paired (room + 1) [.boost number] := (paired_nil _).cons rfl
  refine ⟨_, (tight.boosted rfl isBoost).spells, ?_, .primary (.group derived (.present isBoost))⟩
  simpa using paired.group.append boosted

section

variable {Item : List Token → Option Query → Prop} {Items : List Token → List (Option Query) → Prop}
  {operator : Token} {name : List Char}

-- Both operators join their operands in the same way, so the induction is done for any of them.
theorem exists_joined (nil : Items [] [])
    (cons : ∀ {first rest value values}, Item first value → Items rest values →
      Items (operator :: (first ++ rest)) (value :: values))
    (spells : Token.Spells name [operator]) (flat : operator.rise = 0)
    (operands : List.Forall₂ (Denotes Item room) (text :: texts) (query :: queries)) :
    ∃ first rest,
      Token.Spells ((' ' :: (name ++ [' '])).intercalate (text :: texts)) (first ++ rest) ∧
      Paired room (first ++ rest) ∧ Item first (some query) ∧ Items rest (queries.map some) := by
  induction texts generalizing text query queries with
  | nil =>
    obtain ⟨⟨first, spellsFirst, paired, derived⟩, last⟩ := List.forall₂_cons.mp operands
    obtain rfl := List.forall₂_nil_left_iff.mp last
    exact ⟨first, [], by simpa using spellsFirst, by simpa using paired, derived, nil⟩
  | cons text' texts ih =>
    obtain ⟨⟨first, spellsFirst, pairedFirst, derived⟩, others⟩ := List.forall₂_cons.mp operands
    obtain ⟨query', queries, -, -, rfl⟩ := List.forall₂_cons_left_iff.mp others
    obtain ⟨second, rest, spellsRest, pairedRest, item, items⟩ := ih others
    refine ⟨first, operator :: (second ++ rest), ?_, pairedFirst.append (pairedRest.cons flat),
      derived, cons item items⟩
    simpa using spellsFirst.append (spells.append spellsRest)

end

theorem reduceOption_map_some (queries : List Query) :
    (queries.map some).reduceOption = queries := by
  simp [List.reduceOption]

theorem conjunction?_of_two_le (several : 2 ≤ queries.length) :
    conjunction? queries = some (conj queries) := by
  match queries with
  | _ :: _ :: _ => rfl

theorem disjunction?_of_two_le (several : 2 ≤ queries.length) :
    disjunction? queries = some (disj queries) := by
  match queries with
  | _ :: _ :: _ => rfl

theorem denotes_conj (operands : List.Forall₂ (Denotes (Operand analyzer) room) texts queries)
    (several : 2 ≤ queries.length) :
    Denotes (Conjunction analyzer) room ([' ', 'A', 'N', 'D', ' '].intercalate texts)
      (conj queries) := by
  obtain ⟨query, queries, rfl⟩ := List.exists_cons_of_length_pos (Nat.lt_of_succ_lt several)
  obtain ⟨text, texts, -, -, rfl⟩ := List.forall₂_cons_right_iff.mp operands
  obtain ⟨first, rest, spells, paired, item, items⟩ :=
    exists_joined Conjuncts.nil Conjuncts.and Token.spells_and rfl operands
  refine ⟨first ++ rest, spells, paired, ?_⟩
  rw [← conjunction?_of_two_le several, ← reduceOption_map_some (query :: queries)]
  exact .operands item items

theorem denotes_disj (operands : List.Forall₂ (Denotes (Operand analyzer) room) texts queries)
    (several : 2 ≤ queries.length) :
    Denotes (Disjunction analyzer) room ([' ', 'O', 'R', ' '].intercalate texts)
      (disj queries) := by
  obtain ⟨query, queries, rfl⟩ := List.exists_cons_of_length_pos (Nat.lt_of_succ_lt several)
  obtain ⟨text, texts, -, -, rfl⟩ := List.forall₂_cons_right_iff.mp operands
  have conjunctions := operands.imp fun _ _ operand => Denotes.imp operand Operand.conjunction
  obtain ⟨first, rest, spells, paired, item, items⟩ :=
    exists_joined Disjuncts.nil Disjuncts.or Token.spells_or rfl conjunctions
  refine ⟨first ++ rest, spells, paired, ?_⟩
  rw [← disjunction?_of_two_le several, ← reduceOption_map_some (query :: queries)]
  exact .operands item items

theorem Denotes.adjacent {text' : List Char} {query' : Query}
    (first : Denotes (Operand analyzer) room text query)
    (second : Denotes (Operand analyzer) room text' query') :
    Denotes (Disjunction analyzer) room (text ++ ' ' :: text') (disj [query, query']) := by
  obtain ⟨tokens, spells, paired, derived⟩ := first
  obtain ⟨tokens', spells', paired', derived'⟩ := second
  refine ⟨tokens ++ tokens', spells.append spells', paired.append paired', ?_⟩
  simpa [disjunction?] using
    Disjunction.operands derived.conjunction (.adjacent derived'.conjunction .nil)

theorem parse_eq_answer {text : String} (read : Token.ofQuery text = .ok tokens)
    (within : NestsWithin maxDepth 0 tokens) (leaf : tokens.any Token.isLeaf = true)
    (derived : Disjunction analyzer tokens value) : parse analyzer text = answer value := by
  have scan : checkGrouping 0 tokens = .ok () := by
    have scan := derived.expression.checkGrouping within []
    rwa [List.append_nil] at scan
  rw [parse_of_ofQuery read, ofTokens_of_derived (place_of_query read scan) leaf derived]

theorem parse_of_derived {text : String} (read : Token.ofQuery text = .ok tokens)
    (within : NestsWithin maxDepth 0 tokens) (derived : Disjunction analyzer tokens (some query))
    (positive : ∀ child, query ≠ neg child) : parse analyzer text = .ok query := by
  rw [parse_eq_answer read within (any_isLeaf_of_derived derived) derived]
  exact answer_eq_ok_iff.mpr ⟨rfl, positive⟩

theorem Denotes.parse {text : String}
    (denotes : Denotes (Disjunction analyzer) maxDepth text.toList query)
    (positive : ∀ child, query ≠ neg child) : parse analyzer text = .ok query := by
  obtain ⟨tokens, spells, paired, derived⟩ := denotes
  exact parse_of_derived spells.ofQuery paired.within derived positive

theorem denotes_of_parse {text : String} (read : parse analyzer text = .ok query)
    (shallow : ∀ tokens, Token.ofQuery text = .ok tokens → NestsWithin room 0 tokens)
    (even : Even (Token.backslashes text.toList)) :
    Denotes (Disjunction analyzer) room text.toList query ∧ ∀ child, query ≠ neg child := by
  cases found : Token.ofQuery text with
  | error error =>
    rw [Query.parse, found] at read
    contradiction
  | ok tokens =>
    rw [parse_of_ofQuery found] at read
    obtain ⟨-, derived, positive⟩ := derived_of_ofTokens (Token.boostsPlaced_ofQuery found) read
    exact ⟨⟨tokens, Token.spells_of_ofQuery found even,
      derived.expression.paired (shallow tokens found), derived⟩, positive⟩

end Relevance.Query
