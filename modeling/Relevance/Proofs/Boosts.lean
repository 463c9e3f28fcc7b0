import Relevance.Proofs.Denotation
import Relevance.Proofs.Leaves

/-! Which boosts reach a leaf of a query, seen on the tokens, and what stays the same without them.

A boost takes no part in how a query is grouped, so the tokens without their boosts are read as the
same tree. A leaf is boosted by what stands directly after it, and then by the boosts of the groups
around it, from the innermost to the outermost.
-/

set_option autoImplicit false

namespace Relevance.Query

open Analysis Grammar

namespace Token

def isBoost : Token → Bool
  | boost _ => true
  | _ => false

end Token

def withoutBoosts (tokens : List Token) : List Token :=
  tokens.filter (!·.isBoost)

def leadingBoost : List Token → List Float
  | .boost text :: _ => (boostOfText? text).toList
  | _ => []

/-- The boosts of the groups that are closed in a token list and were opened before it, with that of
the innermost group first; `depth` counts the groups that were opened in the meantime. -/
def groupBoosts (depth : Nat) : List Token → List Float
  | [] => []
  | .leftParen :: rest => groupBoosts (depth + 1) rest
  | .rightParen :: rest =>
    match depth with
    | 0 => leadingBoost rest ++ groupBoosts 0 rest
    | depth + 1 => groupBoosts depth rest
  | _ :: rest => groupBoosts depth rest

def multiplyAll (factors : List Float) (query : Query) : Query :=
  query.mapBoosts (factors.foldl multiply)

def boostedLeaf? (analyzer : Analyzer) (token : Token) (after : List Token) : Option Query :=
  (token.leafText?.bind (leaf? analyzer)).map
    (multiplyAll (leadingBoost after ++ groupBoosts 0 after))

def boostedLeaves (analyzer : Analyzer) (after : List Token) : List Token → List Query
  | [] => []
  | token :: rest =>
    (boostedLeaf? analyzer token (rest ++ after)).toList ++ boostedLeaves analyzer after rest

variable {analyzer : Analyzer} {token : Token} {tokens rest suffix after : List Token}
  {node value : Option Query} {query : Query}

/-! ### Reading without boosts -/

theorem checkGrouping_withoutBoosts (depth : Nat) (tokens : List Token) :
    checkGrouping depth (withoutBoosts tokens) = checkGrouping depth tokens := by
  unfold withoutBoosts
  fun_induction checkGrouping depth tokens with
  | case1 | case2 => simp_all [checkGrouping]
  | case3 | case4 | case5 | case6 => simp_all [checkGrouping, Token.isBoost]
  | case7 depth token rest left right ih =>
    cases token <;> simp_all [checkGrouping, Token.isBoost]

theorem any_isLeaf_withoutBoosts (tokens : List Token) :
    (withoutBoosts tokens).any Token.isLeaf = tokens.any Token.isLeaf := by
  induction tokens with
  | nil => rfl
  | cons token rest ih =>
    unfold withoutBoosts at *
    cases token <;> simp_all [Token.isBoost, Token.isLeaf]

theorem boostsPlaced_withoutBoosts (previous : Option Token) (tokens : List Token) :
    BoostsPlaced previous (withoutBoosts tokens) := by
  induction tokens generalizing previous with
  | nil => trivial
  | cons token rest ih =>
    cases token with
    | boost text => exact ih previous
    | _ => exact ⟨nofun, ih _⟩

theorem withoutBoosts_cons (kept : token.isBoost = false) :
    withoutBoosts (token :: rest) = token :: withoutBoosts rest := by
  simp [withoutBoosts, kept]

theorem withoutBoosts_append (front rest : List Token) :
    withoutBoosts (front ++ rest) = withoutBoosts front ++ withoutBoosts rest :=
  List.filter_append _ _

namespace Grammar

theorem Boosted.withoutBoosts (boosted : Boosted node suffix value) :
    withoutBoosts suffix = [] ∧ value.map unboosted = node.map unboosted := by
  cases boosted with
  | absent => exact ⟨rfl, rfl⟩
  | present => exact ⟨rfl, by simp [Function.comp_def, unboosted_boost]⟩

theorem Boosted.withoutBoosts_leaf {terms : List String}
    (boosted : Boosted (ofTerms? terms) suffix value) :
    Boosted (ofTerms? terms) (Query.withoutBoosts suffix) (value.map unboosted) := by
  obtain ⟨none, same⟩ := boosted.withoutBoosts
  rw [none, same, unboosted_ofTerms?]
  exact .absent

-- Every rule is kept, with the tokens of each part and the value of each part unboosted.
mutual

theorem Primary.withoutBoosts {tokens : List Token} {value : Option Query} :
    Primary analyzer tokens value →
    Primary analyzer (withoutBoosts tokens) (value.map unboosted)
  | .word boosted => .word boosted.withoutBoosts_leaf
  | .phrase boosted => .phrase boosted.withoutBoosts_leaf
  | .group inner boosted => by
    obtain ⟨none, same⟩ := boosted.withoutBoosts
    have group := Primary.group inner.withoutBoosts .absent
    rwa [withoutBoosts_cons rfl, withoutBoosts_append, withoutBoosts_cons rfl, none, same]
  | .emptyGroup boosted => by
    obtain ⟨none, same⟩ := boosted.withoutBoosts
    rw [withoutBoosts_cons rfl, withoutBoosts_cons rfl, none, same]
    exact .emptyGroup .absent
termination_by structural derived => derived

theorem Operand.withoutBoosts {tokens : List Token} {value : Option Query} :
    Operand analyzer tokens value →
    Operand analyzer (withoutBoosts tokens) (value.map unboosted)
  | .not operand => by
    have negated := Operand.not operand.withoutBoosts
    rw [withoutBoosts_cons rfl]
    simpa [Function.comp_def, unboosted_negate] using negated
  | .primary primary => .primary primary.withoutBoosts
termination_by structural derived => derived

theorem Conjuncts.withoutBoosts {tokens : List Token} {values : List (Option Query)} :
    Conjuncts analyzer tokens values →
    Conjuncts analyzer (withoutBoosts tokens) (values.map (Option.map unboosted))
  | .nil => .nil
  | .and first others => by
    have joined := Conjuncts.and first.withoutBoosts others.withoutBoosts
    rwa [← withoutBoosts_append] at joined
termination_by structural derived => derived

theorem Conjunction.withoutBoosts {tokens : List Token} {value : Option Query} :
    Conjunction analyzer tokens value →
    Conjunction analyzer (withoutBoosts tokens) (value.map unboosted)
  | .operands first others => by
    have joined := Conjunction.operands first.withoutBoosts others.withoutBoosts
    rw [← List.map_cons, List.reduceOption_map, ← withoutBoosts_append] at joined
    exact mapBoosts_conjunction? _ ▸ joined
termination_by structural derived => derived

theorem Disjuncts.withoutBoosts {tokens : List Token} {values : List (Option Query)} :
    Disjuncts analyzer tokens values →
    Disjuncts analyzer (withoutBoosts tokens) (values.map (Option.map unboosted))
  | .nil => .nil
  | .or first others => by
    have joined := Disjuncts.or first.withoutBoosts others.withoutBoosts
    rwa [← withoutBoosts_append] at joined
  | .adjacent first others => by
    have joined := Disjuncts.adjacent first.withoutBoosts others.withoutBoosts
    rwa [← withoutBoosts_append] at joined
termination_by structural derived => derived

theorem Disjunction.withoutBoosts {tokens : List Token} {value : Option Query} :
    Disjunction analyzer tokens value →
    Disjunction analyzer (withoutBoosts tokens) (value.map unboosted)
  | .operands first others => by
    have joined := Disjunction.operands first.withoutBoosts others.withoutBoosts
    rw [← List.map_cons, List.reduceOption_map, ← withoutBoosts_append] at joined
    exact mapBoosts_disjunction? _ ▸ joined
termination_by structural derived => derived

end

end Grammar

/-! ### Factors of leaves -/

theorem multiplyAll_nil : multiplyAll [] = id := by
  funext query
  exact mapBoosts_id query

theorem multiplyAll_append (factors factors' : List Float) (query : Query) :
    multiplyAll (factors ++ factors') query = multiplyAll factors' (multiplyAll factors query) := by
  rw [multiplyAll, multiplyAll, multiplyAll, mapBoosts_mapBoosts]
  simp only [List.foldl_append]

theorem boost_eq_multiplyAll (factor : Float) (query : Query) :
    query.boost factor = multiplyAll [factor] query :=
  boost_eq_mapBoosts factor query

theorem reduceOption_cons_eq_append (value : Option Query) (values : List (Option Query)) :
    (value :: values).reduceOption = value.toList ++ values.reduceOption := by
  cases value <;> rfl

theorem leadingBoost_of_noBoost (noBoost : NoBoost after) : leadingBoost after = [] := by
  match after with
  | .boost text :: _ => exact absurd rfl (noBoost text)
  | [] | .word _ :: _ | .phrase _ :: _ | .leftParen :: _ | .rightParen :: _ | .and :: _ | .or :: _
  | .not :: _ => rfl

theorem allLeaves_map_negate (value : Option Query) :
    (value.map negate).toList.flatMap allLeaves = value.toList.flatMap allLeaves := by
  cases value <;> simp [allLeaves_negate]

theorem boostedLeaves_append (analyzer : Analyzer) (after front rest : List Token) :
    boostedLeaves analyzer after (front ++ rest) =
      boostedLeaves analyzer (rest ++ after) front ++ boostedLeaves analyzer after rest := by
  induction front with
  | nil => rfl
  | cons token front ih =>
    rw [List.cons_append, boostedLeaves, boostedLeaves, ih, List.append_assoc, List.append_assoc]

theorem boostedLeaves_cons (noText : token.leafText? = none) :
    boostedLeaves analyzer after (token :: rest) = boostedLeaves analyzer after rest := by
  simp [boostedLeaves, boostedLeaf?, noText]

namespace Grammar

/-- An expression closes the groups that it opens, so the boosts behind it are those of groups
around it. -/
theorem Expression.groupBoosts (expression : Expression tokens) (depth : Nat) :
    groupBoosts depth (tokens ++ rest) = groupBoosts depth rest := by
  induction expression generalizing depth rest with
  | @leaf token leaf => cases token <;> first | rfl | contradiction
  | emptyGroup => rfl
  | group _ ih =>
    rw [List.cons_append, Query.groupBoosts, List.append_assoc, ih]
    rfl
  | boosted _ _ ih =>
    rw [List.append_assoc, ih]
    rfl
  | not _ ih => exact ih depth
  | operator operator _ _ first others =>
    rw [List.append_assoc, first]
    rcases operator with rfl | rfl <;> exact others depth
  | adjacent _ _ first others => rw [List.append_assoc, first, others]

theorem groupBoosts_of_extends
    (extends' : ∀ {front}, Expression front → Expression (front ++ rest)) (depth : Nat) :
    Query.groupBoosts depth (rest ++ after) = Query.groupBoosts depth after :=
  (extends' (show Expression [.word ""] from .leaf rfl)).groupBoosts depth

theorem Boosted.groupBoosts (boosted : Boosted node suffix value) (depth : Nat) :
    Query.groupBoosts depth (suffix ++ after) = Query.groupBoosts depth after := by
  cases boosted <;> rfl

theorem Boosted.noLeaves (boosted : Boosted node suffix value) :
    boostedLeaves analyzer after suffix = [] := by
  cases boosted <;> rfl

theorem Boosted.allLeaves (boosted : Boosted node suffix value) (noBoost : NoBoost after) :
    value.toList.flatMap allLeaves = (node.toList.flatMap allLeaves).map
      (multiplyAll (leadingBoost (suffix ++ after))) := by
  cases boosted with
  | absent => simp [leadingBoost_of_noBoost noBoost, multiplyAll_nil]
  | present isBoost =>
    have factors : leadingBoost (.boost _ :: after) = [_] :=
      congrArg Option.toList (boostOfText?_eq_some.mpr isBoost)
    rw [List.singleton_append, factors]
    cases node <;> simp [boost_eq_multiplyAll, multiplyAll, allLeaves_mapBoosts]

theorem boostedLeaves_leaf {text : String} (isText : token.leafText? = some text)
    (boosted : Boosted (ofTerms? (analyzer.termsOf text)) suffix value) (noBoost : NoBoost after) :
    boostedLeaves analyzer after (token :: suffix) =
      (value.toList.flatMap Query.allLeaves).map (multiplyAll (Query.groupBoosts 0 after)) := by
  have leaf : boostedLeaf? analyzer token (suffix ++ after) =
      (ofTerms? (analyzer.termsOf text)).map
        (multiplyAll (leadingBoost (suffix ++ after) ++ Query.groupBoosts 0 after)) := by
    rw [boostedLeaf?, isText, boosted.groupBoosts]
    rfl
  rw [boostedLeaves, leaf, boosted.noLeaves, boosted.allLeaves noBoost, allLeaves_ofTerms?]
  cases ofTerms? (analyzer.termsOf text) <;> simp [multiplyAll_append]

/-- The leaves of an operand and of the operands behind it. -/
theorem boostedLeaves_joined {values : List (Option Query)} {front : List Token}
    (extends' : ∀ {tokens}, Expression tokens → Expression (tokens ++ rest))
    (first : boostedLeaves analyzer (rest ++ after) front =
      (value.toList.flatMap Query.allLeaves).map
        (multiplyAll (Query.groupBoosts 0 (rest ++ after))))
    (others : boostedLeaves analyzer after rest =
      (values.reduceOption.flatMap Query.allLeaves).map
        (multiplyAll (Query.groupBoosts 0 after))) :
    boostedLeaves analyzer after (front ++ rest) =
      ((value :: values).reduceOption.flatMap Query.allLeaves).map
        (multiplyAll (Query.groupBoosts 0 after)) := by
  rw [boostedLeaves_append, first, others, groupBoosts_of_extends extends',
    reduceOption_cons_eq_append, List.flatMap_append, List.map_append]

-- The tokens behind a part tell by which groups around it its leaves are boosted.
mutual

theorem Primary.allLeaves {tokens : List Token} {value : Option Query} :
    Primary analyzer tokens value → ∀ {after : List Token}, NoBoost after →
      boostedLeaves analyzer after tokens =
        (value.toList.flatMap allLeaves).map (multiplyAll (groupBoosts 0 after))
  | .word boosted, _, noBoost => boostedLeaves_leaf rfl boosted noBoost
  | .phrase boosted, _, noBoost => boostedLeaves_leaf rfl boosted noBoost
  | .group inner boosted, after, noBoost => by
    rw [boostedLeaves_cons rfl, boostedLeaves_append, boostedLeaves_cons rfl, boosted.noLeaves,
      List.append_nil, List.cons_append, inner.allLeaves (endsDisjunction_rightParen _),
      boosted.allLeaves noBoost, Query.groupBoosts, boosted.groupBoosts]
    simp [multiplyAll_append]
  | .emptyGroup boosted, _, noBoost => by
    rw [boostedLeaves_cons rfl, boostedLeaves_cons rfl, boosted.noLeaves,
      boosted.allLeaves noBoost]
    rfl
termination_by structural derived => derived

theorem Operand.allLeaves {tokens : List Token} {value : Option Query} :
    Operand analyzer tokens value → ∀ {after : List Token}, NoBoost after →
      boostedLeaves analyzer after tokens =
        (value.toList.flatMap allLeaves).map (multiplyAll (groupBoosts 0 after))
  | .not operand, _, noBoost => by
    rw [boostedLeaves_cons rfl, operand.allLeaves noBoost, allLeaves_map_negate]
  | .primary primary, _, noBoost => primary.allLeaves noBoost
termination_by structural derived => derived

theorem Conjuncts.allLeaves {tokens : List Token} {values : List (Option Query)} :
    Conjuncts analyzer tokens values → ∀ {after : List Token}, EndsConjunction after →
      boostedLeaves analyzer after tokens =
        (values.reduceOption.flatMap allLeaves).map (multiplyAll (groupBoosts 0 after))
  | .nil, _, _ => rfl
  | .and first others, _, ends => by
    rw [boostedLeaves_cons rfl]
    exact boostedLeaves_joined others.extends (first.allLeaves (others.noBoost ends))
      (others.allLeaves ends)
termination_by structural derived => derived

theorem Conjunction.allLeaves {tokens : List Token} {value : Option Query} :
    Conjunction analyzer tokens value → ∀ {after : List Token}, EndsConjunction after →
      boostedLeaves analyzer after tokens =
        (value.toList.flatMap allLeaves).map (multiplyAll (groupBoosts 0 after))
  | .operands first others, _, ends => by
    rw [allLeaves_conjunction?]
    exact boostedLeaves_joined others.extends (first.allLeaves (others.noBoost ends))
      (others.allLeaves ends)
termination_by structural derived => derived

theorem Disjuncts.allLeaves {tokens : List Token} {values : List (Option Query)} :
    Disjuncts analyzer tokens values → ∀ {after : List Token}, EndsDisjunction after →
      boostedLeaves analyzer after tokens =
        (values.reduceOption.flatMap allLeaves).map (multiplyAll (groupBoosts 0 after))
  | .nil, _, _ => rfl
  | .or first others, _, ends => by
    rw [boostedLeaves_cons rfl]
    exact boostedLeaves_joined others.extends (first.allLeaves (others.endsConjunction ends))
      (others.allLeaves ends)
  | .adjacent first others, _, ends =>
    boostedLeaves_joined others.extends (first.allLeaves (others.endsConjunction ends))
      (others.allLeaves ends)
termination_by structural derived => derived

theorem Disjunction.allLeaves {tokens : List Token} {value : Option Query} :
    Disjunction analyzer tokens value → ∀ {after : List Token}, EndsDisjunction after →
      boostedLeaves analyzer after tokens =
        (value.toList.flatMap allLeaves).map (multiplyAll (groupBoosts 0 after))
  | .operands first others, _, ends => by
    rw [allLeaves_disjunction?]
    exact boostedLeaves_joined others.extends (first.allLeaves (others.endsConjunction ends))
      (others.allLeaves ends)
termination_by structural derived => derived

end

end Grammar

theorem ofTokens_withoutBoosts (placed : BoostsPlaced none tokens)
    (found : ofTokens analyzer tokens = .ok query) :
    ofTokens analyzer (withoutBoosts tokens) = .ok query.unboosted := by
  obtain ⟨paired, derived, positive⟩ := derived_of_ofTokens placed found
  have place : Place 0 none (withoutBoosts tokens) :=
    ⟨Nat.zero_le _, (checkGrouping_withoutBoosts 0 tokens).trans paired,
      boostsPlaced_withoutBoosts none tokens⟩
  have leaf : (withoutBoosts tokens).any Token.isLeaf = true :=
    (any_isLeaf_withoutBoosts tokens).trans (any_isLeaf_of_derived derived)
  rw [ofTokens_of_derived place leaf derived.withoutBoosts]
  exact answer_eq_ok_iff.mpr ⟨rfl, mapBoosts_ne_neg positive⟩

theorem allLeaves_ofTokens (placed : BoostsPlaced none tokens)
    (found : ofTokens analyzer tokens = .ok query) :
    query.allLeaves = boostedLeaves analyzer [] tokens := by
  obtain ⟨-, derived, -⟩ := derived_of_ofTokens placed found
  simpa [groupBoosts, multiplyAll_nil] using (derived.allLeaves endsDisjunction_nil).symm

/-- The leaves of a query are those of its words and phrases, each boosted by what stands directly
after it and then by the boosts of the groups around it. Without its boosts the query is read as the
same tree, with a boost of one on each leaf; it holds of the same documents, the same of its leaves
are found as often as before, and the same leaves count for the score in the same order. -/
theorem boosts_reach_leaves {text : String} (read : Token.ofQuery text = .ok tokens)
    (found : ofTokens analyzer tokens = .ok query) :
    query.allLeaves = boostedLeaves analyzer [] tokens ∧
    ofTokens analyzer (withoutBoosts tokens) = .ok query.unboosted ∧
    ∀ index, query.unboosted.holds index = query.holds index ∧
      query.unboosted.allLeaves.map (leafFrequency? index) =
        query.allLeaves.map (leafFrequency? index) ∧
      Score.leaves index query.unboosted =
        (Score.leaves index query).map (Score.Leaf.mapBoosts fun _ => 1.0) ∧
      (Score.leaves index query.unboosted).countP (0 < ·.frequency) =
        (Score.leaves index query).countP (0 < ·.frequency) := by
  have placed := Token.boostsPlaced_ofQuery read
  refine ⟨allLeaves_ofTokens placed found, ofTokens_withoutBoosts placed found,
    fun index => ⟨holds_mapBoosts query, ?_, Score.leaves_mapBoosts index _ query, ?_⟩⟩
  · rw [unboosted, allLeaves_mapBoosts, List.map_map]
    exact List.map_congr_left fun leaf _ => leafFrequency?_mapBoosts leaf
  · rw [unboosted, Score.leaves_mapBoosts, List.countP_map]
    rfl

/-- A boost of its own and that of a group for a leaf, and the latter for a negated one. -/
theorem boosts_reach_leaves_cat_dog :
    (disj [disj [term "cat" 6.0, neg (term "dog" 3.0)], term "fox" 1.0]).allLeaves =
      boostedLeaves .html [] [.leftParen, .word "cat", .boost "2", .not, .word "dog", .rightParen,
        .boost "3", .word "fox"] ∧
    ofTokens .html [.leftParen, .word "cat", .not, .word "dog", .rightParen, .word "fox"] =
      .ok (disj [disj [term "cat" 1.0, neg (term "dog" 1.0)], term "fox" 1.0]) := by
  have read : Token.ofQuery "(cat^2 NOT dog)^3 fox" = .ok [.leftParen, .word "cat", .boost "2",
    .not, .word "dog", .rightParen, .boost "3", .word "fox"] := by cbv
  have leaf : ∀ word ∈ ["cat", "dog", "fox"], ∀ suffix value,
      Boosted (some (ofTerm word)) suffix value → Operand .html (.word word :: suffix) value := by
    intro word isWord suffix value boosted
    have terms : Analyzer.html.termsOf word = [word] := by
      simp only [List.mem_cons, List.not_mem_nil, or_false] at isWord
      rcases isWord with rfl | rfl | rfl <;> cbv
    exact .primary (.word (by rw [terms]; exact boosted))
  have two : IsBoost "2" 2.0 := ⟨rfl, rfl, by decide⟩
  have three : IsBoost "3" 3.0 := ⟨rfl, rfl, by decide⟩
  have inner := Disjunction.operands (leaf "cat" (by simp) _ _ (.present two)).conjunction
    (.adjacent (Operand.not (leaf "dog" (by simp) _ _ .absent)).conjunction .nil)
  have derived := Disjunction.operands
    (Operand.primary (.group inner (.present three))).conjunction
    (.adjacent (leaf "fox" (by simp) _ _ .absent).conjunction .nil)
  have found : ofTokens .html [.leftParen, .word "cat", .boost "2", .not, .word "dog", .rightParen,
      .boost "3", .word "fox"] =
        .ok (disj [disj [term "cat" 6.0, neg (term "dog" 3.0)], term "fox" 1.0]) := by
    have cat : multiply (multiply 1.0 2.0) 3.0 = 6.0 := by decide +kernel
    have dog : multiply 1.0 3.0 = 3.0 := by decide +kernel
    rw [ofTokens_of_derived (place_of_query read rfl) rfl derived]
    simp [List.reduceOption, disjunction?, negate, ofTerm, boost_eq_mapBoosts, mapBoosts, cat, dog,
      answer]
  obtain ⟨leaves, without, -⟩ := boosts_reach_leaves read found
  refine ⟨leaves, without.trans ?_⟩
  simp [unboosted, mapBoosts]

end Relevance.Query
