import Relevance.Proofs.Denotation
import Relevance.Ranking

/-! Queries put together from queries in parentheses are read as the combinations of what these are
read as. -/

set_option autoImplicit false

namespace Relevance.Query

open Analysis Grammar

variable {analyzer : Analyzer} {first second : String} {query query' child : Query}
  {factor : Float}

theorem boost_ne_neg (positive : ∀ child, query ≠ neg child) : boost factor query ≠ neg child := by
  unfold boost
  split
  · exact positive child
  · cases query with
    | neg child => exact (positive child rfl).elim
    | _ => simp [scale]

/-- A text that is read as a query and that may be put in parentheses: it leaves room for one more
pair of them, and does not escape what follows it. -/
structure Groupable (analyzer : Analyzer) (text : String) (query : Query) : Prop where
  parsed : parse analyzer text = .ok query
  shallow : ∀ tokens, Token.ofQuery text = .ok tokens → NestsWithin 63 0 tokens
  unescaped : Even (Token.backslashes text.toList)

theorem groupable_of_derived {text : String} {tokens : List Token}
    (read : Token.ofQuery text = .ok tokens) (shallow : NestsWithin 63 0 tokens)
    (unescaped : Even (Token.backslashes text.toList))
    (derived : Disjunction analyzer tokens (some query))
    (positive : ∀ child, query ≠ neg child) : Groupable analyzer text query where
  parsed := parse_of_derived read (fun part isPart => (shallow part isPart).trans (by decide))
    derived positive
  shallow found isFound := Except.ok.inj (read.symm.trans isFound) ▸ shallow
  unescaped := unescaped

namespace Groupable

variable (groupable : Groupable analyzer first query)
  (groupable' : Groupable analyzer second query')

include groupable

theorem denotes : Denotes (Disjunction analyzer) 63 first.toList query :=
  (denotes_of_parse groupable.parsed groupable.shallow groupable.unescaped).1

theorem positive (child : Query) : query ≠ neg child :=
  (denotes_of_parse groupable.parsed groupable.shallow groupable.unescaped).2 child

/-- The text in parentheses is an operand. -/
theorem operand : Denotes (Operand analyzer) maxDepth ('(' :: (first.toList ++ [')'])) query :=
  groupable.denotes.group

theorem parse_group : parse analyzer ("(" ++ first ++ ")") = .ok query := by
  refine Denotes.parse ?_ groupable.positive
  simpa using groupable.operand.disjunction

theorem parse_negated_twice : parse analyzer ("NOT NOT (" ++ first ++ ")") = .ok query := by
  have negated := groupable.operand.negation.negation
  rw [negate_negate fun ⟨_, double⟩ => groupable.positive _ double] at negated
  refine Denotes.parse ?_ groupable.positive
  simpa using negated.disjunction

theorem parse_boosted {number : String} (isBoost : IsBoost number factor) :
    parse analyzer ("(" ++ first ++ ")^" ++ number) = .ok (boost factor query) := by
  refine Denotes.parse ?_ fun child => boost_ne_neg groupable.positive
  simpa [maxDepth] using (groupable.denotes.boostedGroup isBoost).disjunction

include groupable'

theorem parse_and :
    parse analyzer ("(" ++ first ++ ") AND (" ++ second ++ ")") = .ok (conj [query, query']) := by
  have both := denotes_conj (.cons groupable.operand (.cons groupable'.operand .nil)) le_rfl
  refine Denotes.parse ?_ (by simp)
  simpa using both.imp Conjunction.disjunction

theorem parse_or :
    parse analyzer ("(" ++ first ++ ") OR (" ++ second ++ ")") = .ok (disj [query, query']) := by
  have both := denotes_disj (.cons groupable.operand (.cons groupable'.operand .nil)) le_rfl
  refine Denotes.parse ?_ (by simp)
  simpa using both

theorem parse_adjacent :
    parse analyzer ("(" ++ first ++ ") (" ++ second ++ ")") = .ok (disj [query, query']) := by
  have both := groupable.operand.adjacent groupable'.operand
  refine Denotes.parse ?_ (by simp)
  simpa using both

theorem parse_and_not : parse analyzer ("(" ++ first ++ ") AND NOT (" ++ second ++ ")") =
    .ok (conj [query, neg query']) := by
  have negated := groupable'.operand.negation
  rw [negate_of_ne_neg groupable'.positive] at negated
  have both := denotes_conj (.cons groupable.operand (.cons negated .nil)) le_rfl
  refine Denotes.parse ?_ (by simp)
  simpa using both.imp Conjunction.disjunction

end Groupable

/-- Queries in parentheses are read as they are read alone, so what is put together from them is
read as the combination of their trees, and a query negated twice matches and scores every document
as the query itself does. -/
theorem parse_combinations (groupable : Groupable analyzer first query)
    (groupable' : Groupable analyzer second query') :
    parse analyzer ("(" ++ first ++ ")") = .ok query ∧
    parse analyzer ("NOT NOT (" ++ first ++ ")") = .ok query ∧
    parse analyzer ("(" ++ first ++ ") AND (" ++ second ++ ")") = .ok (conj [query, query']) ∧
    parse analyzer ("(" ++ first ++ ") OR (" ++ second ++ ")") = .ok (disj [query, query']) ∧
    parse analyzer ("(" ++ first ++ ") (" ++ second ++ ")") = .ok (disj [query, query']) ∧
    parse analyzer ("(" ++ first ++ ") AND NOT (" ++ second ++ ")") =
      .ok (conj [query, neg query']) ∧
    (∀ number factor, IsBoost number factor →
      parse analyzer ("(" ++ first ++ ")^" ++ number) = .ok (boost factor query)) ∧
    ∀ document,
      rank analyzer document ("NOT NOT (" ++ first ++ ")") = rank analyzer document first ∧
      explain analyzer document ("NOT NOT (" ++ first ++ ")") =
        explain analyzer document first := by
  have twice := groupable.parse_negated_twice
  refine ⟨groupable.parse_group, twice, groupable.parse_and groupable',
    groupable.parse_or groupable', groupable.parse_adjacent groupable',
    groupable.parse_and_not groupable', fun number factor => groupable.parse_boosted,
    fun document => ⟨?_, ?_⟩⟩
  · rw [rank, rank, twice, groupable.parsed]
  · rw [explain, explain, twice, groupable.parsed]

/-- An escaped parenthesis, one in a phrase and a boost, each at the end of a group. -/
theorem parse_combinations_escaped :
    parse .html "(fox\\) \"(a\") AND NOT (cat^2)" =
      .ok (conj [disj [ofTerm "fox", ofTerm "a"], neg (boost 2.0 (ofTerm "cat"))]) ∧
    parse .html "(fox\\) \"(a\")^2" = .ok (boost 2.0 (disj [ofTerm "fox", ofTerm "a"])) := by
  have fox : Analyzer.html.termsOf "fox)" = ["fox"] := by cbv
  have phrase : Analyzer.html.termsOf "(a" = ["a"] := by cbv
  have cat : Analyzer.html.termsOf "cat" = ["cat"] := by cbv
  have isBoost : IsBoost "2" 2.0 := ⟨rfl, rfl, by decide⟩
  have either : Groupable .html "fox\\) \"(a\"" (disj [ofTerm "fox", ofTerm "a"]) := by
    have read : Token.ofQuery "fox\\) \"(a\"" = .ok [.word "fox)", .phrase "(a"] := by cbv
    have left : Operand .html [.word "fox)"] (some (ofTerm "fox")) :=
      .primary (.word (by rw [fox]; exact .absent))
    have right : Operand .html [.phrase "(a"] (some (ofTerm "a")) :=
      .primary (.phrase (by rw [phrase]; exact .absent))
    exact groupable_of_derived read (by simp [nestsWithin_cons, nestsWithin_nil, Token.rise])
      (by decide) (.operands left.conjunction (.adjacent right.conjunction .nil)) (by simp)
  have boosted : Groupable .html "cat^2" (boost 2.0 (ofTerm "cat")) := by
    have read : Token.ofQuery "cat^2" = .ok [.word "cat", .boost "2"] := by cbv
    have derived : Operand .html [.word "cat", .boost "2"] (some (boost 2.0 (ofTerm "cat"))) :=
      .primary (.word (by rw [cat]; exact .present isBoost))
    exact groupable_of_derived read (by simp [nestsWithin_cons, nestsWithin_nil, Token.rise])
      (by decide) derived.conjunction.disjunction fun child => boost_ne_neg (by simp [ofTerm])
  obtain ⟨-, -, -, -, -, difference, boosts, -⟩ := parse_combinations either boosted
  exact ⟨difference, boosts "2" 2.0 isBoost⟩

end Relevance.Query
