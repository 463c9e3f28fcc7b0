import Relevance.Proofs.Denotation
import Relevance.Proofs.Numbering
import Relevance.Ranking

/-! A text that is quoted in a query, with every character escaped, is found in the documents that
hold its terms in a row. -/

set_option autoImplicit false

namespace Relevance

open Analysis

variable {analyzer : Analyzer} {document words : String} {terms block : List String}

theorem exists_prefix_drop : (∃ start, block <+: terms.drop start) ↔ block <:+: terms := by
  constructor
  · rintro ⟨start, isPrefix⟩
    exact isPrefix.isInfix.trans (List.drop_suffix start terms).isInfix
  · rintro ⟨front, back, rfl⟩
    exact ⟨front.length, by simp⟩

namespace Index

/-- A single term is a phrase. -/
theorem phraseFrequency_singleton (index : Index) (term : String) :
    index.phraseFrequency [term] = index.frequency term := by
  rw [phraseFrequency, frequency]
  cases found : index.posting? term with
  | none => simp [positions, found]
  | some posting => simp [positions, found, continues, Posting.frequency]

theorem ofText_eq (analyzer : Analyzer) (document : String) :
    ofText analyzer document = ofTokens (numbered (analyzer.termsOf document)) := by
  rw [ofText, analyze_eq_numbered]

section

variable (few : (analyzer.termsOf document).length < 2 ^ 32)

include few

theorem toNat_phraseFrequency_eq_occurs (block : List String) :
    ((ofText analyzer document).phraseFrequency block).toNat =
      {start | Occurs (numbered (analyzer.termsOf document)) block start}.ncard := by
  rw [ofText_eq]
  exact toNat_phraseFrequency (increasing_numbered few) (by rwa [length_numbered]) block

theorem toNat_phraseFrequency_ofText (nonempty : block ≠ []) :
    ((ofText analyzer document).phraseFrequency block).toNat =
      {start | block <+: (analyzer.termsOf document).drop start}.ncard := by
  rw [toNat_phraseFrequency_eq_occurs few]
  simp only [occurs_numbered few, ne_eq, nonempty, not_false_eq_true, true_and]

theorem phraseFrequency_pos_iff (nonempty : block ≠ []) :
    0 < (ofText analyzer document).phraseFrequency block ↔
      block <:+: analyzer.termsOf document := by
  rw [UInt32.lt_iff_toNat_lt, toNat_phraseFrequency_eq_occurs few, ← exists_prefix_drop]
  refine (Set.ncard_pos (finite_occurs _ block)).trans ?_
  simp only [occurs_numbered few, nonempty, ne_eq, not_false_eq_true, true_and]
  rfl

end

end Index

namespace Query

open Grammar

theorem leafFrequency?_of_ofTerms? {leaf : Query} (index : Index)
    (found : ofTerms? terms = some leaf) :
    leaf.leafFrequency? index = some (index.phraseFrequency terms) := by
  match terms with
  | [] => contradiction
  | [text] =>
    obtain rfl := Option.some.inj found
    rw [ofTerm, leafFrequency?, index.phraseFrequency_singleton]
  | _ :: _ :: _ =>
    obtain rfl := Option.some.inj found
    rfl

/-- A leaf holds where it occurs. -/
theorem holds_iff_of_leafFrequency? {leaf : Query} {index : Index} {count : UInt32}
    (found : leaf.leafFrequency? index = some count) : leaf.holds index = true ↔ 0 < count := by
  cases leaf with
  | term text boost | phrase terms boost =>
    obtain rfl := Option.some.inj found
    rw [holds, decide_eq_true_eq]
  | conj children | disj children | neg child => contradiction

theorem answer_ofTerms? {leaf : Query} (found : ofTerms? terms = some leaf) :
    answer (ofTerms? terms) = .ok leaf := by
  match terms with
  | [] => contradiction
  | [_] | _ :: _ :: _ =>
    obtain rfl := Option.some.inj found
    rfl

def escaped (words : String) : String :=
  String.ofList (Token.escape words.toList)

def quoted (words : String) : String :=
  "\"" ++ escaped words ++ "\""

theorem parse_of_leaf {text : String} {token : Token} {value : Option Query}
    (tight : Token.SpellsTightly text.toList [token]) (isLeaf : token.isLeaf = true)
    (derived : Primary analyzer [token] value) : parse analyzer text = answer value := by
  have flat : token.rise = 0 := by
    cases token <;> first | rfl | contradiction
  exact parse_eq_answer tight.spells.ofQuery ((paired_nil maxDepth).cons flat).within
    (by simpa using isLeaf) (Operand.primary derived).conjunction.disjunction

theorem parse_quoted (analyzer : Analyzer) (words : String) :
    parse analyzer (quoted words) = answer (ofTerms? (analyzer.termsOf words)) := by
  have tight := Token.spellsTightly_escape_phrase words.toList
  rw [String.ofList_toList] at tight
  exact parse_of_leaf (by simpa [quoted, escaped] using tight) rfl (.phrase .absent)

theorem parse_escaped (analyzer : Analyzer) (nonempty : words ≠ "") :
    parse analyzer (escaped words) = answer (ofTerms? (analyzer.termsOf words)) := by
  have tight : Token.SpellsTightly (Token.escape words.toList) _ :=
    Token.spellsTightly_escape_word (by simpa using nonempty)
  rw [String.ofList_toList] at tight
  exact parse_of_leaf (by simpa [escaped] using tight) rfl (.word .absent)

/-- A quoted text is read as the phrase of its terms, and there must be one. The phrase is found in
a document exactly if the terms of the document hold it in one piece, as often as there are places
where it begins, and so it is found in the text itself. Without quotation marks an escaped text is
read in the same way. -/
theorem search_quoted (analyzer : Analyzer) (document words : String)
    (fewInDocument : (analyzer.analyze document).length < 2 ^ 32)
    (fewWords : (analyzer.analyze words).length < 2 ^ 32) :
    (analyzer.termsOf words = [] → parse analyzer (quoted words) = .error .emptyQuery) ∧
    (analyzer.termsOf words ≠ [] → ∃ leaf, ofTerms? (analyzer.termsOf words) = some leaf ∧
      parse analyzer (quoted words) = .ok leaf ∧
      (leaf.holds (Index.ofText analyzer document) = true ↔
        analyzer.termsOf words <:+: analyzer.termsOf document) ∧
      (∃ count, leaf.leafFrequency? (Index.ofText analyzer document) = some count ∧
        count.toNat =
          {start | analyzer.termsOf words <+: (analyzer.termsOf document).drop start}.ncard) ∧
      leaf.holds (Index.ofText analyzer words) = true) ∧
    (words ≠ "" → parse analyzer (escaped words) = parse analyzer (quoted words)) := by
  rw [← length_termsOf] at fewInDocument fewWords
  refine ⟨fun empty => ?_, fun nonempty => ?_, fun nonempty => ?_⟩
  · rw [parse_quoted, empty]
    rfl
  · obtain ⟨leaf, found⟩ := Option.ne_none_iff_exists'.mp (mt ofTerms?_eq_none.mp nonempty)
    have inDocument := leafFrequency?_of_ofTerms? (Index.ofText analyzer document) found
    have inWords := leafFrequency?_of_ofTerms? (Index.ofText analyzer words) found
    refine ⟨leaf, found, ?_, ?_, ⟨_, inDocument, ?_⟩, ?_⟩
    · rw [parse_quoted, answer_ofTerms? found]
    · exact (holds_iff_of_leafFrequency? inDocument).trans
        (Index.phraseFrequency_pos_iff fewInDocument nonempty)
    · exact Index.toNat_phraseFrequency_ofText fewInDocument nonempty
    · exact (holds_iff_of_leafFrequency? inWords).mpr
        ((Index.phraseFrequency_pos_iff fewWords nonempty).mpr (List.infix_refl _))
  · rw [parse_escaped analyzer nonempty, parse_quoted]

/-- A text with a tag and a quotation mark in it, of which two places in a document overlap. -/
theorem search_quoted_na_na :
    parse .html (quoted "Na<i>\"na") = .ok (phrase ["na", "na"] 1.0) ∧
    ∃ count, (phrase ["na", "na"] 1.0).leafFrequency? (Index.ofText .html "<b>na</b> NA na!") =
      some count ∧ count.toNat = 2 := by
  have terms : Analyzer.html.termsOf "Na<i>\"na" = ["na", "na"] := by cbv
  have document : Analyzer.html.termsOf "<b>na</b> NA na!" = ["na", "na", "na"] := by cbv
  obtain ⟨-, found, -⟩ := search_quoted .html "<b>na</b> NA na!" "Na<i>\"na"
    (by rw [← length_termsOf, document]; decide) (by rw [← length_termsOf, terms]; decide)
  obtain ⟨leaf, isLeaf, read, -, ⟨count, frequency, same⟩, -⟩ := found (by rw [terms]; simp)
  rw [terms] at isLeaf
  obtain rfl := Option.some.inj isLeaf
  refine ⟨read, count, frequency, same.trans ?_⟩
  have places : {start | ["na", "na"] <+: ["na", "na", "na"].drop start} = {0, 1} := by
    ext start
    rcases start with _ | _ | _ | start <;> simp
  rw [terms, document, places, Set.ncard_pair (by decide)]

end Query

end Relevance
