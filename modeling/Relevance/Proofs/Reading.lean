import Relevance.Proofs.Ambiguity
import Relevance.Proofs.Calls

/-! What reading a query answers: the value that the grammar gives to its tokens, or what is wrong
with it. -/

set_option autoImplicit false

namespace Relevance.Query

open Analysis Grammar

variable {analyzer : Analyzer} {tokens : List Token} {value : Option Query}

def answer : Option Query → Except ParseError Query
  | none => .error .emptyQuery
  | some (neg _) => .error .danglingNot
  | some query => .ok query

/-- The two ways in which reading the tokens of a query can go. -/
theorem parseDisjunction_cases (analyzer : Analyzer) (place : Place 0 none tokens)
    (nonempty : tokens ≠ []) :
    (∃ error, parseDisjunction analyzer 0 tokens = .error error ∧
      firstFault? none tokens = some error) ∨
    ∃ value shorter, parseDisjunction analyzer 0 tokens = .ok (value, ⟨[], shorter⟩) ∧
      Disjunction analyzer tokens value ∧ firstFault? none tokens = none := by
  have reads := reads_parseDisjunction analyzer place (place.start nonempty)
  cases found : parseDisjunction analyzer 0 tokens with
  | error error =>
    rw [found] at reads
    exact .inl ⟨error, rfl, reads⟩
  | ok result =>
    obtain ⟨value, after, shorter⟩ := result
    rw [found] at reads
    obtain ⟨used, last, same, derived, ends, -, behind, clean⟩ :=
      reads.followed place fun _ _ disjunction => disjunction.expression
    cases after with
    | nil =>
      obtain rfl : tokens = used := same.trans (List.append_nil used)
      exact .inr ⟨value, shorter, rfl, derived, clean⟩
    | cons token after =>
      -- Only a closing parenthesis could be left, and with no group open it has no partner.
      obtain rfl := ends token rfl
      have paired := behind.paired
      contradiction

theorem parseDisjunction_of_fault {error : ParseError} (place : Place 0 none tokens)
    (nonempty : tokens ≠ []) (fault : firstFault? none tokens = some error) :
    parseDisjunction analyzer 0 tokens = .error error := by
  rcases parseDisjunction_cases analyzer place nonempty with
    ⟨error', found, isFault⟩ | ⟨value, shorter, -, -, sound⟩
  · rw [found, Option.some.inj (isFault.symm.trans fault)]
  · rw [sound] at fault
    contradiction

theorem exists_derived (analyzer : Analyzer) (place : Place 0 none tokens) (nonempty : tokens ≠ [])
    (sound : firstFault? none tokens = none) : ∃ value, Disjunction analyzer tokens value := by
  rcases parseDisjunction_cases analyzer place nonempty with
    ⟨error, -, fault⟩ | ⟨value, shorter, -, derived, -⟩
  · rw [sound] at fault
    contradiction
  · exact ⟨value, derived⟩

theorem parseDisjunction_of_derived (place : Place 0 none tokens)
    (derived : Disjunction analyzer tokens value) :
    ∃ shorter, parseDisjunction analyzer 0 tokens = .ok (value, ⟨[], shorter⟩) := by
  rcases parseDisjunction_cases analyzer place derived.ne_nil with
    ⟨error, -, fault⟩ | ⟨value', shorter, found, derived', -⟩
  · obtain ⟨last, -, -, clean⟩ := derived.expression.firstFault?
    have sound := clean none []
    rw [List.append_nil, fault] at sound
    contradiction
  · obtain ⟨-, rfl⟩ := derived.unique derived' rfl endsDisjunction_nil endsDisjunction_nil
    exact ⟨shorter, found⟩

theorem ne_nil_of_leaf (leaf : tokens.any Token.isLeaf = true) : tokens ≠ [] := by
  intro empty
  subst empty
  contradiction

theorem ofTokens_eq (paired : checkGrouping 0 tokens = .ok ())
    (leaf : tokens.any Token.isLeaf = true) :
    ofTokens analyzer tokens =
      match parseDisjunction analyzer 0 tokens with
      | .error error => .error error
      | .ok (_, ⟨_ :: _, _⟩) => .error .unbalancedGrouping
      | .ok (value, _) => answer value := by
  rw [ofTokens, if_neg (by simpa using ne_nil_of_leaf leaf), paired]
  simp only [leaf, if_true]
  split <;> simp_all [answer]

theorem ofTokens_of_derived (place : Place 0 none tokens)
    (leaf : tokens.any Token.isLeaf = true) (derived : Disjunction analyzer tokens value) :
    ofTokens analyzer tokens = answer value := by
  obtain ⟨shorter, found⟩ := parseDisjunction_of_derived place derived
  rw [ofTokens_eq place.paired leaf, found]

theorem ofTokens_of_fault {error : ParseError} (place : Place 0 none tokens)
    (leaf : tokens.any Token.isLeaf = true) (fault : firstFault? none tokens = some error) :
    ofTokens analyzer tokens = .error error := by
  rw [ofTokens_eq place.paired leaf, parseDisjunction_of_fault place (ne_nil_of_leaf leaf) fault]

theorem ofTokens_of_ungrouped (analyzer : Analyzer) {error : ParseError}
    (failed : checkGrouping 0 tokens = .error error) :
    ofTokens analyzer tokens = .error error := by
  have nonempty : tokens ≠ [] := by
    rintro rfl
    contradiction
  rw [ofTokens, if_neg (by simpa using nonempty), failed]

theorem ofTokens_of_leafless (paired : checkGrouping 0 tokens = .ok ())
    (leafless : tokens.any Token.isLeaf = false) :
    ofTokens analyzer tokens = .error .emptyQuery := by
  rw [ofTokens, paired]
  simp [leafless]

theorem any_isLeaf_of_derived {query : Query} (derived : Disjunction analyzer tokens (some query)) :
    tokens.any Token.isLeaf = true := by
  by_contra leafless
  refine nomatch derived.eq_none_iff.mpr ?_
  intro text isText
  obtain ⟨token, isToken, found⟩ := List.mem_filterMap.mp isText
  refine absurd (List.any_eq_true.mpr ⟨token, isToken, ?_⟩) leafless
  unfold Token.leafText? at found
  split at found <;> first | rfl | contradiction

theorem place_of_query {text : String} (read : Token.ofQuery text = .ok tokens)
    (paired : checkGrouping 0 tokens = .ok ()) : Place 0 none tokens :=
  ⟨Nat.zero_le _, paired, Token.boostsPlaced_ofQuery read⟩

theorem parse_of_ofQuery {text : String} (read : Token.ofQuery text = .ok tokens) :
    parse analyzer text = ofTokens analyzer tokens := by
  rw [parse, read]

theorem answer_eq_ok_iff {query : Query} :
    answer value = .ok query ↔ value = some query ∧ ∀ child, query ≠ neg child := by
  match value with
  | none => simp [answer]
  | some (neg child) =>
    simp only [answer, reduceCtorEq, Option.some.injEq, false_iff, not_and]
    rintro rfl
    exact fun positive => positive child rfl
  | some (term ..) | some (phrase ..) | some (conj _) | some (disj _) =>
    simp only [answer, Except.ok.injEq, Option.some.injEq, iff_self_and]
    rintro rfl
    exact nofun

theorem derived_of_ofTokens {query : Query} (placed : BoostsPlaced none tokens)
    (read : ofTokens analyzer tokens = .ok query) :
    checkGrouping 0 tokens = .ok () ∧ Disjunction analyzer tokens (some query) ∧
      ∀ child, query ≠ neg child := by
  have nonempty : tokens ≠ [] := by
    rintro rfl
    contradiction
  cases paired : checkGrouping 0 tokens with
  | error error => exact nomatch (ofTokens_of_ungrouped analyzer paired).symm.trans read
  | ok passed =>
    cases leaf : tokens.any Token.isLeaf with
    | false => exact nomatch (ofTokens_of_leafless paired leaf).symm.trans read
    | true =>
      have place : Place 0 none tokens := ⟨Nat.zero_le _, paired, placed⟩
      cases fault : firstFault? none tokens with
      | some error => exact nomatch (ofTokens_of_fault place leaf fault).symm.trans read
      | none =>
        obtain ⟨value, derived⟩ := exists_derived analyzer place nonempty fault
        rw [ofTokens_of_derived place leaf derived] at read
        obtain ⟨rfl, positive⟩ := answer_eq_ok_iff.mp read
        exact ⟨rfl, derived, positive⟩

/-- A query is read exactly if the grammar derives its tokens, and the answer is the value of the
derivation. That value is unique, and a run of negations may be read by its parity. -/
theorem parse_eq_ok_iff_derived (analyzer : Analyzer) :
    (∀ (text : String) (query : Query), parse analyzer text = .ok query ↔
      ∃ tokens, Token.ofQuery text = .ok tokens ∧ NestsWithin 64 0 tokens ∧
        Disjunction analyzer tokens (some query) ∧ ∀ child, query ≠ neg child) ∧
    (∀ (tokens : List Token) (value value' : Option Query), Disjunction analyzer tokens value →
      Disjunction analyzer tokens value' → value = value') ∧
    ∀ (tokens : List Token) (value : Option Query) (count : Nat), Primary analyzer tokens value →
      ∀ value', Operand analyzer (List.replicate count .not ++ tokens) value' ↔
        value' = if count % 2 = 1 then value.map negate else value := by
  refine ⟨fun text query => ⟨fun read => ?_, ?_⟩, ?_, ?_⟩
  · cases found : Token.ofQuery text with
    | error error => rw [parse, found] at read; contradiction
    | ok tokens =>
      rw [parse_of_ofQuery found] at read
      obtain ⟨paired, derived, positive⟩ :=
        derived_of_ofTokens (Token.boostsPlaced_ofQuery found) read
      exact ⟨tokens, rfl, nestsWithin_of_checkGrouping (Nat.zero_le _) paired, derived, positive⟩
  · rintro ⟨tokens, read, within, derived, positive⟩
    have paired : checkGrouping 0 tokens = .ok () := by
      have scan := derived.expression.checkGrouping within []
      rwa [List.append_nil] at scan
    rw [parse_of_ofQuery read, ofTokens_of_derived (place_of_query read paired)
      (any_isLeaf_of_derived derived) derived]
    exact answer_eq_ok_iff.mpr ⟨rfl, positive⟩
  · intro tokens value value' derived derived'
    exact (derived.unique derived' rfl endsDisjunction_nil endsDisjunction_nil).2
  · intro tokens value count derived value'
    have operand := derived.negations count
    constructor
    · intro operand'
      have ends := endsDisjunction_nil.endsConjunction.noBoost
      exact (operand'.unique operand rfl ends ends).2
    · rintro rfl
      exact operand

/-- Three negations of a group are read as one. -/
theorem parse_cat_without_fox :
    parse .html "cat AND NOT NOT NOT (Fox)" =
      .ok (conj [ofTerm "cat", neg (ofTerm "fox")]) := by
  have cat : Analyzer.html.termsOf "cat" = ["cat"] := by cbv
  have fox : Analyzer.html.termsOf "Fox" = ["fox"] := by cbv
  have word : Primary .html [.word "cat"] (some (ofTerm "cat")) :=
    .word (by rw [cat]; exact .absent)
  have inner : Primary .html [.word "Fox"] (some (ofTerm "fox")) :=
    .word (by rw [fox]; exact .absent)
  have group : Primary .html [.leftParen, .word "Fox", .rightParen] (some (ofTerm "fox")) :=
    .group (.operands (.operands (.primary inner) .nil) .nil) .absent
  obtain ⟨accepts, -, negations⟩ := parse_eq_ok_iff_derived .html
  have negated := (negations _ _ 3 group _).mpr rfl
  refine (accepts _ _).mpr ⟨[.word "cat", .and, .not, .not, .not, .leftParen, .word "Fox",
    .rightParen], by cbv, ?_, ?_, fun child => by simp⟩
  · exact nestsWithin_of_checkGrouping (Nat.zero_le 64) rfl
  · exact .operands (.operands (.primary word) (.and negated .nil)) .nil

/-- What reading a query answers, by the first thing that is wrong with it: its tokens, its
grouping, the lack of words and phrases, the first token at fault, or the value of what it says.
Where the grouping is right, the functions that read parts of a query find no fault with it again,
and they find no boost where a primary should be. -/
theorem parse_eq_of_first_fault (analyzer : Analyzer) (text : String) :
    (∀ error, Token.ofQuery text = .error error → parse analyzer text = .error error) ∧
    ∀ tokens, Token.ofQuery text = .ok tokens →
      (NestsTooDeep 0 tokens → parse analyzer text = .error .nestingTooDeep) ∧
      (¬NestsTooDeep 0 tokens → Unbalanced 0 tokens →
        parse analyzer text = .error .unbalancedGrouping) ∧
      (¬NestsTooDeep 0 tokens → ¬Unbalanced 0 tokens →
        (tokens.any Token.isLeaf = false → parse analyzer text = .error .emptyQuery) ∧
        (tokens.any Token.isLeaf = true →
          (∀ error, firstFault? none tokens = some error → parse analyzer text = .error error) ∧
          (firstFault? none tokens = none → ∃ value, Disjunction analyzer tokens value ∧
            (value = none ↔ AllDropped analyzer tokens) ∧ parse analyzer text = answer value) ∧
          (∀ value rest, parseDisjunction analyzer 0 tokens = .ok (value, rest) → rest.1 = []) ∧
          ∀ depth token rest, Calls analyzer tokens .primary depth (token :: rest) →
            token ≠ .rightParen ∧ (∀ body, token ≠ .boost body) ∧
            (token = .leftParen → depth < maxDepth ∧
              (rest.head? ≠ some .rightParen → ∀ node after,
                parseDisjunction analyzer (depth + 1) rest = .ok (node, after) →
                after.1.head? = some .rightParen)))) := by
  refine ⟨fun error failed => by rw [parse, failed], fun tokens read => ?_⟩
  rw [parse_of_ofQuery read]
  have grouping := grouping_checkGrouping (Nat.zero_le maxDepth) tokens
  cases paired : checkGrouping 0 tokens with
  | error error =>
    rw [paired] at grouping
    have failed := ofTokens_of_ungrouped analyzer paired
    cases grouping with
    | tooDeep deep =>
      exact ⟨fun _ => failed, fun flat => absurd deep flat, fun flat => absurd deep flat⟩
    | unbalanced flat unbalanced =>
      exact ⟨fun deep => absurd deep flat, fun _ _ => failed,
        fun _ balanced => absurd unbalanced balanced⟩
  | ok passed =>
    rw [paired] at grouping
    cases grouping with
    | paired flat balanced =>
      refine ⟨fun deep => absurd deep flat, fun _ unbalanced => absurd unbalanced balanced,
        fun _ _ => ⟨ofTokens_of_leafless paired, fun leaf => ?_⟩⟩
      have place := place_of_query read paired
      have nonempty := ne_nil_of_leaf leaf
      refine ⟨fun error => ofTokens_of_fault place leaf, ?_, ?_, ?_⟩
      · intro sound
        obtain ⟨value, derived⟩ := exists_derived analyzer place nonempty sound
        exact ⟨value, derived, derived.eq_none_iff, ofTokens_of_derived place leaf derived⟩
      · intro value rest found
        rcases parseDisjunction_cases analyzer place nonempty with
          ⟨error, failed, -⟩ | ⟨value', shorter, found', -⟩
        · rw [failed] at found
          contradiction
        · obtain ⟨-, rfl⟩ := Prod.mk.inj (Except.ok.inj (found.symm.trans found'))
          rfl
      · intro depth token rest called
        obtain ⟨noParen, noBoost⟩ := called.head_of_primary place nonempty
        refine ⟨noParen, noBoost, ?_⟩
        rintro rfl
        exact ⟨called.room place nonempty, fun inside node after found =>
          called.closes place nonempty inside found⟩

/-- Of three things that are wrong with a query, the first one is reported. -/
theorem parse_and_before_parenthesis :
    parse .html "(fox AND) OR ^2 NOT" = .error .invalidBoost ∧
      parse .html "(fox AND) OR NOT" = .error .missingOperand := by
  obtain ⟨lexical, -⟩ := parse_eq_of_first_fault .html "(fox AND) OR ^2 NOT"
  obtain ⟨-, read⟩ := parse_eq_of_first_fault .html "(fox AND) OR NOT"
  obtain ⟨-, -, grouped⟩ := read [.leftParen, .word "fox", .and, .rightParen, .or, .not] (by cbv)
  have grouping := grouping_checkGrouping (Nat.zero_le maxDepth)
    [.leftParen, .word "fox", .and, .rightParen, .or, .not]
  refine ⟨lexical _ (by cbv), ?_⟩
  cases grouping with
  | paired flat balanced => exact ((grouped flat balanced).2 rfl).1 _ rfl

end Relevance.Query
