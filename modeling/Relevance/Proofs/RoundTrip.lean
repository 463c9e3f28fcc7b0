import Relevance.Proofs.Denotation
import Relevance.Proofs.PlainWords
import Relevance.Query.Basic

/-! Queries written out are read back as themselves.

Every combination is written as a group and every leaf as one word or phrase with its boost, so the
text of a query is an operand wherever it stands, and no rule merges it with what stands around it.
-/

set_option autoImplicit false

namespace Relevance.Query

open Analysis Grammar

variable {analyzer : Analyzer} {room : Nat} {text : List Char} {texts : List (List Char)}
  {query : Query} {boost : Float}

/-- The text of a boost is read as the boost, and multiplying one by it changes nothing. -/
structure ReadsBack (boost : Float) : Prop where
  isBoost : IsBoost (boostText boost) boost
  kept : 1.0 * boost = boost

/-- Queries whose terms analysis keeps as they are and whose combinations combine something. The
number bounds how many combinations there are on any way to a leaf. -/
inductive Printable : Nat → Query → Prop where
  | term {room : Nat} {text : String} {boost : Float} : PlainWord text.toList →
      (boost ≠ 1.0 → ReadsBack boost) → Printable room (term text boost)
  | phrase {room : Nat} {terms : List String} {boost : Float} : 2 ≤ terms.length →
      (∀ text ∈ terms, PlainWord text.toList) → (boost ≠ 1.0 → ReadsBack boost) →
      Printable room (phrase terms boost)
  | conj {room : Nat} {children : List Query} : 2 ≤ children.length →
      (∀ child ∈ children, Printable room child) → Printable (room + 1) (conj children)
  | disj {room : Nat} {children : List Query} : 2 ≤ children.length →
      (∀ child ∈ children, Printable room child) → Printable (room + 1) (disj children)
  | neg {room : Nat} {child : Query} : (∀ inner, child ≠ neg inner) → Printable room child →
      Printable room (neg child)

theorem beq_one_iff : (boost == 1.0) = true ↔ boost = 1.0 := by
  constructor
  · intro same
    obtain ⟨-, -, equal | ⟨-, zero⟩ | ⟨-, zero⟩⟩ := Float.beq_iff_ne_nan_and_eq.mp same
    · exact equal
    · exact absurd zero (by decide)
    · exact absurd zero (by decide)
  · rintro rfl
    rfl

/-- A leaf that is boosted after it was made has the boost that it is boosted by. -/
theorem boost_leaf {leaf : Float → Query}
    (scales : ∀ before factor, scale factor (leaf before) = leaf (before * factor))
    (readsBack : boost ≠ 1.0 → ReadsBack boost) : Query.boost boost (leaf 1.0) = leaf boost := by
  unfold Query.boost
  split
  · next same => rw [beq_one_iff.mp same]
  · next other => rw [scales, (readsBack (mt beq_one_iff.mpr other)).kept]

theorem denotes_leaf {leaf : Float → Query} {token : Token}
    (tight : Token.SpellsTightly text [token]) (accepts : token.acceptsBoost = true)
    (flat : token.rise = 0)
    (derived : ∀ {suffix value}, Boosted (some (leaf 1.0)) suffix value →
      Primary analyzer (token :: suffix) value)
    (scales : ∀ before factor, scale factor (leaf before) = leaf (before * factor))
    (readsBack : boost ≠ 1.0 → ReadsBack boost) :
    Denotes (Operand analyzer) room (text ++ (boostSuffix boost).toList) (leaf boost) := by
  rw [← boost_leaf scales readsBack]
  unfold boostSuffix
  split
  · next same =>
    refine ⟨[token], by simpa using tight.spells, (paired_nil room).cons flat, ?_⟩
    rw [Query.boost, if_pos same]
    exact .primary (derived .absent)
  · next other =>
    have isBoost := (readsBack (mt beq_one_iff.mpr other)).isBoost
    have boosted : Token.SpellsTightly _ ([] ++ [token, .boost (boostText boost)]) :=
      Token.SpellsTightly.boosted tight accepts isBoost
    refine ⟨[token, .boost (boostText boost)], ?_, ((paired_nil room).cons rfl).cons flat,
      .primary (derived (.present isBoost))⟩
    simpa using boosted.spells

-- The three words that are operators are written in capitals.
theorem ofWord_plainWord {word : String} (plain : PlainWord word.toList) :
    Token.ofWord false word = .word word := by
  have noOperator : ∀ operator : String, operator.toList.all isPlain = false → word ≠ operator := by
    rintro _ notPlain rfl
    rw [List.all_eq_true.mpr plain.plain] at notPlain
    contradiction
  simp [Token.ofWord, noOperator "AND" rfl, noOperator "OR" rfl, noOperator "NOT" rfl]

theorem spellsTightly_plainWord {word : String} (plain : PlainWord word.toList) :
    Token.SpellsTightly word.toList [.word word] := by
  obtain ⟨c, rest, same⟩ := List.exists_cons_of_ne_nil plain.nonempty
  have alphanumeric : (c :: rest).all Char.isAlphanum = true := by
    rw [← same, List.all_eq_true]
    exact fun c isChar => isAlphanum_of_isPlain (plain.plain c isChar)
  have tight := Token.spellsTightly_alphanumeric alphanumeric
  rwa [← same, String.ofList_toList, ofWord_plainWord plain] at tight

theorem denotes_term {word : String} (plain : PlainWord word.toList)
    (readsBack : boost ≠ 1.0 → ReadsBack boost) :
    Denotes (Operand .html) room (term word boost).display.toList (term word boost) := by
  have terms : Analyzer.html.termsOf word = [word] := by
    simpa using termsOf_intercalate (List.forall_mem_singleton.mpr plain) (List.cons_ne_nil _ _)
  rw [display, String.toList_append]
  refine denotes_leaf (spellsTightly_plainWord plain) rfl rfl (fun boosted => .word ?_)
    (fun _ _ => by rw [scale]) readsBack
  rw [terms]
  exact boosted

theorem denotes_phrase {terms : List String} (several : 2 ≤ terms.length)
    (plain : ∀ word ∈ terms, PlainWord word.toList)
    (readsBack : boost ≠ 1.0 → ReadsBack boost) :
    Denotes (Operand .html) room (phrase terms boost).display.toList (phrase terms boost) := by
  have nonempty : terms ≠ [] := List.ne_nil_of_length_pos (Nat.lt_of_succ_lt several)
  have written : Token.Written (· == '"') false (" ".intercalate terms).toList
      (" ".intercalate terms).toList := by
    apply Token.written_plain
    rw [String.toList_intercalate]
    intro c isChar
    rcases isPlain_or_space (List.forall_mem_map.mpr plain) isChar with isPlain | rfl
    · exact ⟨by simpa using ne_of_isPlain isPlain (by decide), ne_of_isPlain isPlain (by decide)⟩
    · decide
  have tight := Token.spellsTightly_phrase written
  rw [String.ofList_toList] at tight
  have leaf : ofTerms? terms = some (phrase terms 1.0) := by
    match terms, several with
    | _ :: _ :: _, _ => rfl
  have shown : (phrase terms boost).display.toList =
      '"' :: ((" ".intercalate terms).toList ++ ['"']) ++ (boostSuffix boost).toList := by
    simp [display]
  rw [shown]
  refine denotes_leaf tight rfl rfl (fun boosted => .phrase ?_) (fun _ _ => by rw [scale]) readsBack
  rw [termsOf_intercalate plain nonempty, leaf]
  exact boosted

theorem denotes_children {children : List Query}
    (each : ∀ child ∈ children, Denotes (Operand .html) room child.display.toList child) :
    List.Forall₂ (Denotes (Operand .html) room)
      (children.map fun child => child.display.toList) children :=
  List.forall₂_map_left_iff.mpr (List.forall₂_same.mpr each)

-- The number in the hypothesis is also that of the parentheses which the text opens at once: one
-- for each combination.
theorem Printable.denotes (printable : Printable room query) :
    Denotes (Operand .html) room query.display.toList query := by
  induction printable with
  | term plain readsBack => exact denotes_term plain readsBack
  | phrase several plain readsBack => exact denotes_phrase several plain readsBack
  | conj several _ ih =>
    have inside := (denotes_conj (denotes_children ih) several).imp Conjunction.disjunction
    simpa [display, String.toList_intercalate, Function.comp_def] using inside.group
  | disj several _ ih =>
    have inside := denotes_disj (denotes_children ih) several
    simpa [display, String.toList_intercalate, Function.comp_def] using inside.group
  | neg positive _ ih =>
    have negated := ih.negation
    rw [negate_of_ne_neg positive] at negated
    simpa [display] using negated

/-- A query that is no negation is read back from its text as the same tree, if its terms are words
of lower-case letters and digits, its boosts are read back, and its combinations combine at least
two queries each and nest no deeper than parentheses may. -/
theorem parse_display (printable : Printable 64 query) (positive : ∀ child, query ≠ neg child) :
    parse .html query.display = .ok query :=
  printable.denotes.disjunction.parse positive

/-- A disjunction within a disjunction is not merged into it. -/
theorem parse_display_either_or :
    parse .html "((\"a b\"^2.5 OR cat1) OR NOT fox)" =
      .ok (disj [disj [phrase ["a", "b"] 2.5, term "cat1" 1.0], neg (term "fox" 1.0)]) := by
  have written : boostText 2.5 = "2.5" := by decide +kernel
  have readsBack : ReadsBack 2.5 := ⟨by rw [written]; exact ⟨rfl, rfl, by decide⟩, rfl⟩
  have plain : ∀ word : String, word ∈ ["a", "b", "cat1", "fox"] → PlainWord word.toList := by
    intro word isWord
    simp only [List.mem_cons, List.not_mem_nil, or_false] at isWord
    rcases isWord with rfl | rfl | rfl | rfl <;> exact ⟨nofun, List.all_eq_true.mp rfl⟩
  have unboosted : (1.0 : Float) ≠ 1.0 → ReadsBack 1.0 := fun differs => (differs rfl).elim
  have pair : Printable 62 (phrase ["a", "b"] 2.5) :=
    .phrase le_rfl (fun word isWord => plain word (List.mem_append_left ["cat1", "fox"] isWord))
      fun _ => readsBack
  have cat : Printable 62 (term "cat1" 1.0) := .term (plain _ (by simp)) unboosted
  have fox : Printable 63 (neg (term "fox" 1.0)) :=
    .neg (by simp) (.term (plain _ (by simp)) unboosted)
  have inner : Printable 63 (disj [phrase ["a", "b"] 2.5, term "cat1" 1.0]) :=
    .disj le_rfl (List.forall_mem_cons.mpr ⟨pair, List.forall_mem_singleton.mpr cat⟩)
  have read := parse_display
    (.disj le_rfl (List.forall_mem_cons.mpr ⟨inner, List.forall_mem_singleton.mpr fox⟩)) (by simp)
  have other : ((2.5 : Float) == 1.0) = false := rfl
  have same : ((1.0 : Float) == 1.0) = true := rfl
  simpa [display, boostSuffix, other, same, written] using read

end Relevance.Query
