import Relevance.Proofs.Agreement
import Relevance.Proofs.PlainScan
import Relevance.Proofs.PlainWords

/-! Documents in other letter case.

Analysis lower-cases a document at its end, but nothing that it does before depends on the case of
letters of ASCII: each step, applied to a lower-cased text, gives what it gives of the text itself,
lower-cased. Only the names of references tell the cases apart.
-/

set_option autoImplicit false

namespace Relevance

open Unicode

/-- What is the same for both cases of each letter does not depend on case. -/
theorem apply_toLower {Value : Type} (f : Char → Value)
    (ascii : ∀ code < 128, f (Char.ofNat code).toLower = f (Char.ofNat code)) (c : Char) :
    f c.toLower = f c := by
  by_cases small : c.toNat < 128
  · have same := ascii c.toNat small
    rwa [Char.ofNat_toNat] at same
  · have noLetter : c.isUpper = false := by
      refine eq_false_of_ne_true fun upper => small (toNat_lt_of_isAlphanum ?_)
      rw [Char.isAlphanum, Char.isAlpha, upper, Bool.true_or, Bool.true_or]
    rw [Char.toLower_eq_of_not_isUpper (ne_true_of_eq_false noLetter)]

theorem toLower_comp_toLower : Char.toLower ∘ Char.toLower = Char.toLower :=
  funext Char.toLower_toLower_eq_toLower

theorem isAlphanum_toLower (c : Char) : c.toLower.isAlphanum = c.isAlphanum :=
  apply_toLower Char.isAlphanum (by decide +kernel) c

theorem ofChar_toLower (c : Char) : WordBreak.ofChar c.toLower = WordBreak.ofChar c :=
  apply_toLower WordBreak.ofChar (by decide +kernel) c

theorem isPictographic_toLower (c : Char) : isPictographic c.toLower = isPictographic c :=
  apply_toLower isPictographic (by decide +kernel) c

theorem isAlphanumeric_toLower (c : Char) :
    Unicode.isAlphanumeric c.toLower = Unicode.isAlphanumeric c :=
  apply_toLower Unicode.isAlphanumeric (by decide +kernel) c

theorem isCased_toLower (c : Char) : isCased c.toLower = isCased c :=
  apply_toLower isCased (by decide +kernel) c

theorem isCaseIgnorable_toLower (c : Char) : isCaseIgnorable c.toLower = isCaseIgnorable c :=
  apply_toLower isCaseIgnorable (by decide +kernel) c

theorem lowercase_toLower (c : Char) : Unicode.lowercase c.toLower = Unicode.lowercase c :=
  apply_toLower Unicode.lowercase (by decide +kernel) c

namespace Html

variable {before inside text tag : List Char} {ignoreQuotes : Bool} {element : RawElement}

theorem toLower_beq {mark : Char} (noLetter : mark.isAlpha = false) (c : Char) :
    (c.toLower == mark) = (c == mark) := by
  rw [Bool.eq_iff_iff, beq_iff_eq, beq_iff_eq, toLower_eq_iff noLetter]

def lowerBoth : List Char × List Char → List Char × List Char :=
  Prod.map (List.map Char.toLower) (List.map Char.toLower)

theorem splitBefore?_map_toLower {p : List Char → Bool}
    (same : ∀ text, p (text.map Char.toLower) = p text) :
    splitBefore? p (before.map Char.toLower) (text.map Char.toLower) =
      (splitBefore? p before text).map lowerBoth := by
  induction text generalizing before with
  | nil => rfl
  | cons c text ih =>
    rw [List.map_cons, splitBefore?, splitBefore?, ← List.map_cons, same]
    split
    · simp [lowerBoth]
    · exact @ih (c :: before)

theorem splitClose?_map_toLower :
    splitClose? (inside.map Char.toLower) (text.map Char.toLower) =
      (splitClose? inside text).map lowerBoth := by
  induction text generalizing inside with
  | nil => rfl
  | cons c text ih =>
    have isClose : c.toLower = '>' ↔ c = '>' := toLower_eq_iff rfl
    simp only [List.map_cons, splitClose?, isClose]
    split
    · simp [lowerBoth]
    · exact @ih (c :: inside)

theorem noLetter_of_quote {c mark : Char}
    (opened : mark ∈ if c = '"' || c = '\x27' then some c else none) : mark.isAlpha = false := by
  split at opened
  · next isQuote =>
    obtain rfl := Option.some.inj opened
    rw [Bool.or_eq_true, decide_eq_true_eq, decide_eq_true_eq] at isQuote
    obtain rfl | rfl := isQuote <;> rfl
  · contradiction

theorem quote_toLower (c : Char) :
    (if c.toLower = '"' || c.toLower = '\x27' then some c.toLower else none) =
      if c = '"' || c = '\x27' then some c else none := by
  have isDouble : c.toLower = '"' ↔ c = '"' := toLower_eq_iff rfl
  have isSingle : c.toLower = '\x27' ↔ c = '\x27' := toLower_eq_iff rfl
  simp only [isDouble, isSingle]
  split
  · next isQuote => rw [toLower_of_noLetter (noLetter_of_quote (if_pos isQuote))]
  · rfl

-- The mark that closes a quotation is none of the letters, so it is the same in both texts.
theorem splitQuotedClose?_map_toLower {quote : Option Char}
    (noLetter : ∀ mark ∈ quote, mark.isAlpha = false) :
    splitQuotedClose? quote (inside.map Char.toLower) (text.map Char.toLower) =
      (splitQuotedClose? quote inside text).map lowerBoth := by
  induction text generalizing quote inside with
  | nil => cases quote <;> rfl
  | cons c text ih =>
    cases quote with
    | some mark =>
      simp only [List.map_cons, splitQuotedClose?, toLower_eq_iff (noLetter mark rfl)]
      refine @ih (c :: inside) _ ?_
      split
      · simp
      · exact noLetter
    | none =>
      have isClose : c.toLower = '>' ↔ c = '>' := toLower_eq_iff rfl
      simp only [List.map_cons, splitQuotedClose?, isClose, quote_toLower]
      split
      · simp [lowerBoth]
      · exact @ih (c :: inside) _ fun mark opened => noLetter_of_quote opened

theorem isPrefixOf_map_toLower {marks : List Char} (noLetters : marks.any Char.isAlpha = false)
    (text : List Char) : marks.isPrefixOf (text.map Char.toLower) = marks.isPrefixOf text := by
  induction marks generalizing text with
  | nil => rfl
  | cons mark marks ih =>
    rw [List.any_cons, Bool.or_eq_false_iff] at noLetters
    cases text with
    | nil => rfl
    | cons c text =>
      rw [List.map_cons, List.isPrefixOf_cons_cons, List.isPrefixOf_cons_cons, ih noLetters.2,
        BEq.comm, toLower_beq noLetters.1, BEq.comm]

namespace RawElement

theorem opened?_map_toLower : opened? (tag.map Char.toLower) = opened? tag := by
  have slash : (tag.map Char.toLower).getLast? = some '/' ↔ tag.getLast? = some '/' := by
    have isSlash : ∀ c : Char, c.toLower = '/' ↔ c = '/' := fun c => toLower_eq_iff rfl
    simp [List.getLast?_map, isSlash]
  have name : ((tag.map Char.toLower).takeWhile Char.isAlphanum).map Char.toLower =
      (tag.takeWhile Char.isAlphanum).map Char.toLower := by
    have kept : Char.isAlphanum ∘ Char.toLower = Char.isAlphanum := funext isAlphanum_toLower
    rw [List.takeWhile_map, List.map_map, toLower_comp_toLower, kept]
  rw [opened?, opened?, name]
  simp only [slash]

theorem closes_map_toLower : element.closes (text.map Char.toLower) = element.closes text := by
  rw [closes, ← List.map_take, List.map_map, toLower_comp_toLower, closes]

end RawElement

namespace Plain

def Removal.toLower (removal : Removal) : Removal where
  output := removal.output.map Char.toLower
  rest := removal.rest.map Char.toLower
  ignoreQuotes := removal.ignoreQuotes

theorem splitTag?_map_toLower : splitTag? ignoreQuotes (text.map Char.toLower) =
    ((splitTag? ignoreQuotes text).1.map lowerBoth, (splitTag? ignoreQuotes text).2) := by
  have quoted := @splitQuotedClose?_map_toLower [] text none (by simp)
  have close := @splitClose?_map_toLower [] text
  rw [List.map_nil] at quoted close
  unfold splitTag?
  rw [quoted, close]
  split
  · rfl
  · cases splitQuotedClose? none [] text <;> rfl

variable (ignoreQuotes text)

theorem removeComment_map_toLower : removeComment ignoreQuotes (text.map Char.toLower) =
    (removeComment ignoreQuotes text).toLower := by
  have marks := @isPrefixOf_map_toLower ['-', '-', '>'] rfl
  have split := @splitBefore?_map_toLower [] text _ marks
  rw [List.map_nil] at split
  rw [removeComment, removeComment, split]
  cases splitBefore? (['-', '-', '>'].isPrefixOf ·) [] text with
  | none => rfl
  | some parts => simp [lowerBoth, Removal.toLower]

theorem removeContents_map_toLower (element : RawElement) :
    removeContents ignoreQuotes element (text.map Char.toLower) =
      (removeContents ignoreQuotes element text).toLower := by
  have split := @splitBefore?_map_toLower [] text element.closes
    fun _ => RawElement.closes_map_toLower
  rw [List.map_nil] at split
  rw [removeContents, removeContents, split]
  cases splitBefore? element.closes [] text with
  | none => rfl
  | some parts =>
    simp only [Option.map_some, lowerBoth, Prod.map_snd, ← List.map_drop, splitTag?_map_toLower]
    rcases splitTag? ignoreQuotes (parts.2.drop 1) with ⟨_ | parts, ignoreQuotes⟩ <;> rfl

theorem beginsTag_map_toLower :
    Scanner.beginsTag (text.map Char.toLower) = Scanner.beginsTag text := by
  cases text with
  | nil => rfl
  | cons c text =>
    rw [List.map_cons, Scanner.beginsTag, Char.isAlpha_toLower_eq_isAlpha, toLower_beq rfl,
      toLower_beq rfl, toLower_beq rfl, ← Scanner.beginsTag]

theorem removeTag_map_toLower : removeTag ignoreQuotes (text.map Char.toLower) =
    (removeTag ignoreQuotes text).toLower := by
  rw [removeTag, removeTag, beginsTag_map_toLower, splitTag?_map_toLower]
  split
  · rcases splitTag? ignoreQuotes text with ⟨_ | ⟨tag, rest⟩, ignoreQuotes⟩
    · rfl
    · simp only [Option.map_some, lowerBoth, Prod.map_apply, RawElement.opened?_map_toLower]
      cases RawElement.opened? tag with
      | none => rfl
      | some element => exact removeContents_map_toLower ..
  · rfl

theorem removeMarkup_map_toLower : removeMarkup ignoreQuotes (text.map Char.toLower) =
    (removeMarkup ignoreQuotes text).toLower := by
  rw [removeMarkup, removeMarkup, @isPrefixOf_map_toLower ['!', '-', '-'] rfl]
  split
  · rw [← List.map_drop, removeComment_map_toLower]
  · exact removeTag_map_toLower ..

theorem stripFrom_map_toLower (noReference : '&' ∉ text) :
    stripFrom ignoreQuotes (text.map Char.toLower) =
      (stripFrom ignoreQuotes text).map Char.toLower := by
  fun_induction stripFrom ignoreQuotes text with
  | case1 => simp [stripFrom]
  | case2 ignoreQuotes rest removal ih =>
    have behind : '&' ∉ removal.rest := fun inside =>
      noReference (List.mem_cons_of_mem _ ((suffix_removeMarkup ..).subset inside))
    have isMarkup : ('<').toLower = '<' := rfl
    rw [List.map_cons, stripFrom, if_pos isMarkup, removeMarkup_map_toLower, List.map_append,
      ← ih behind]
    rfl
  | case3 ignoreQuotes rest => simp at noReference
  | case4 ignoreQuotes rest => simp at noReference
  | case5 ignoreQuotes c rest noTag noReference' ih =>
    rw [List.mem_cons, not_or] at noReference
    rw [List.map_cons, stripFrom, if_neg (mt (toLower_eq_iff rfl).mp noTag),
      if_neg (mt (toLower_eq_iff rfl).mp noReference'), ih noReference.2, List.map_cons]

end Plain

theorem toList_strip_lowered {document : String} (noReference : '&' ∉ document.toList) :
    (strip (String.ofList (document.toList.map Char.toLower))).toList =
      (strip document).toList.map Char.toLower := by
  rw [strip_eq_plain, strip_eq_plain, Plain.strip, Plain.strip, String.toList_ofList,
    String.toList_ofList, String.toList_ofList, Plain.stripFrom_map_toLower _ _ noReference]

end Html

namespace Text

variable {text segment run : List Char} {done : List (List Char)} {before : Boundary}

namespace Boundary

theorem start_toLower (c : Char) : start c.toLower = start c := by
  rw [start, ofChar_toLower, start]

theorem joinsPictograph_toLower (c : Char) :
    before.joinsPictograph c.toLower = before.joinsPictograph c := by
  rw [joinsPictograph, isPictographic_toLower, joinsPictograph]

theorem push_toLower (c : Char) : before.push c.toLower = before.push c := by
  rw [push, classAfter, joinsPictograph_toLower, ofChar_toLower, ← classAfter, push]

theorem following_map_toLower (text : List Char) :
    following (text.map Char.toLower) = following text := by
  have same : WordBreak.ofChar ∘ Char.toLower = WordBreak.ofChar := funext ofChar_toLower
  rw [following, List.find?_map, Option.map_map, same, following]
  simp only [Function.comp_def, ofChar_toLower]

theorem joins_map_toLower (c : Char) (text : List Char) :
    before.joins c.toLower (text.map Char.toLower) = before.joins c text := by
  simp only [joins, joinsBase, ofChar_toLower, joinsPictograph_toLower, following_map_toLower]

end Boundary

theorem segmentsFrom_map_toLower :
    segmentsFrom before (segment.map Char.toLower) (done.map (List.map Char.toLower))
        (text.map Char.toLower) =
      (segmentsFrom before segment done text).map (List.map Char.toLower) := by
  induction text generalizing before segment done with
  | nil => simp [segmentsFrom]
  | cons c text ih =>
    rw [List.map_cons, segmentsFrom, segmentsFrom, Boundary.joins_map_toLower,
      Boundary.push_toLower]
    split
    · exact @ih (c :: segment) _ _
    · rw [← ih]
      simp

theorem segments_map_toLower (text : List Char) :
    segments (text.map Char.toLower) = (segments text).map (List.map Char.toLower) := by
  cases text with
  | nil => rfl
  | cons c text =>
    rw [List.map_cons, segments, Boundary.start_toLower]
    exact @segmentsFrom_map_toLower text [c] [] _

theorem endRun_map_toLower :
    endRun (run.map Char.toLower) (done.map (List.map Char.toLower)) =
      (endRun run done).map (List.map Char.toLower) := by
  rw [endRun, endRun, List.isEmpty_map]
  split <;> simp

theorem runsFrom_map_toLower {p : Char → Bool} (same : ∀ c, p c.toLower = p c) :
    runsFrom p (run.map Char.toLower) (done.map (List.map Char.toLower)) (text.map Char.toLower) =
      (runsFrom p run done text).map (List.map Char.toLower) := by
  induction text generalizing run done with
  | nil => rw [List.map_nil, runsFrom, runsFrom, endRun_map_toLower, List.map_reverse]
  | cons c text ih =>
    rw [List.map_cons, runsFrom, runsFrom, same]
    split
    · exact @ih (c :: run) _
    · rw [endRun_map_toLower]
      exact @ih [] _

theorem runs_map_toLower (text : List Char) :
    runs Unicode.isAlphanumeric (text.map Char.toLower) =
      (runs Unicode.isAlphanumeric text).map (List.map Char.toLower) :=
  @runsFrom_map_toLower text [] [] _ isAlphanumeric_toLower

theorem meetsCased_map_toLower (text : List Char) :
    meetsCased (text.map Char.toLower) = meetsCased text := by
  rw [meetsCased, List.find?_map, Option.any_map, meetsCased]
  simp only [Function.comp_def, isCased_toLower, isCaseIgnorable_toLower]

theorem lowercaseFrom_map_toLower {before done text : List Char} :
    lowercaseFrom (before.map Char.toLower) done (text.map Char.toLower) =
      lowercaseFrom before done text := by
  induction text generalizing before done with
  | nil => rfl
  | cons c text ih =>
    have isSigma : c.toLower = 'Σ' ↔ c = 'Σ' := Html.toLower_eq_iff rfl
    simp only [List.map_cons, lowercaseFrom, isSigma, lowercaseSigma, meetsCased_map_toLower,
      lowercase_toLower]
    exact @ih (c :: before) _

theorem lowercase_ofList_map_toLower (text : List Char) :
    lowercase (String.ofList (text.map Char.toLower)) = lowercase (String.ofList text) := by
  rw [lowercase, lowercase, String.toList_ofList, String.toList_ofList]
  exact congrArg String.ofList (@lowercaseFrom_map_toLower [] [] text)

end Text

def SameUpToCase (text text' : String) : Prop :=
  List.Forall₂ (fun c c' => c' = c ∨ c' = c.toLower ∨ c' = c.toUpper) text.toList text'.toList

namespace SameUpToCase

variable {document document' : String}

theorem map_toLower (same : SameUpToCase document document') :
    document'.toList.map Char.toLower = document.toList.map Char.toLower := by
  rw [eq_comm, ← List.forall₂_eq_eq_eq, List.forall₂_map_left_iff, List.forall₂_map_right_iff]
  refine same.imp fun c c' cased => ?_
  obtain rfl | rfl | rfl := cased
  · rfl
  · rw [Char.toLower_toLower_eq_toLower]
  · rw [Char.toLower_toUpper_eq_toLower]

theorem mem_iff (same : SameUpToCase document document') {mark : Char}
    (noLetter : mark.isAlpha = false) : mark ∈ document'.toList ↔ mark ∈ document.toList := by
  have lowered : ∀ text : List Char, mark ∈ text.map Char.toLower ↔ mark ∈ text := by
    simp [Html.toLower_eq_iff noLetter]
  rw [← lowered, same.map_toLower, lowered]

end SameUpToCase

namespace Analysis

variable {document document' : String}

theorem termsOf_html_lowered (noReference : '&' ∉ document.toList) :
    Analyzer.html.termsOf (String.ofList (document.toList.map Char.toLower)) =
      Analyzer.html.termsOf document := by
  rw [termsOf_html, termsOf_html, terms, terms,
    Html.toList_strip_lowered noReference, Text.segments_map_toLower]
  simp [List.flatMap_map, List.map_flatMap, Text.runs_map_toLower,
    Text.lowercase_ofList_map_toLower, Function.comp_def]

theorem analyze_eq_of_sameUpToCase (noReference : '&' ∉ document.toList)
    (same : SameUpToCase document document') :
    Analyzer.html.analyze document' = Analyzer.html.analyze document := by
  have noReference' : '&' ∉ document'.toList := mt (same.mem_iff rfl).mp noReference
  rw [analyze_eq_numbered, analyze_eq_numbered, ← termsOf_html_lowered noReference',
    same.map_toLower, termsOf_html_lowered noReference]

/-- Texts that differ in the case of letters of ASCII, in words or in markup, have the same tokens,
so no query tells them apart. References are left out: the case of their names matters. -/
theorem results_ignore_letter_case {document document' : String}
    (noReference : '&' ∉ document.toList) (same : SameUpToCase document document') :
    Analyzer.html.analyze document' = Analyzer.html.analyze document ∧
    ∀ query, rank .html document' query = rank .html document query ∧
      explain .html document' query = explain .html document query := by
  have tokens := analyze_eq_of_sameUpToCase noReference same
  have index : Index.ofText .html document' = Index.ofText .html document :=
    congrArg Index.ofTokens tokens
  refine ⟨tokens, fun query => ⟨?_, ?_⟩⟩
  · rw [rank_eq_map_parse, rank_eq_map_parse, index]
  · rw [explain_eq_map_parse, explain_eq_map_parse, index]

/-- An element that is named in either case, and capital sigmas next to letters of either case. -/
theorem results_ignore_letter_case_script :
    let document := "<SCRIPT>A>b</script>Straße AΣ bΣc"
    let document' := "<Script>a>B</SCRIPT>STRAßE aΣ BΣC"
    '&' ∉ document.toList ∧ SameUpToCase document document' ∧
    Analyzer.html.termsOf document = ["straße", "aς", "bσc"] ∧
    Analyzer.html.analyze document' = Analyzer.html.analyze document ∧
    ∀ query, rank .html document' query = rank .html document query ∧
      explain .html document' query = explain .html document query := by
  intro document document'
  have noReference : '&' ∉ document.toList := by decide +kernel
  have same : SameUpToCase document document' := by simp [SameUpToCase, document, document']
  have terms : Analyzer.html.termsOf document = ["straße", "aς", "bσc"] := by decide +kernel
  exact ⟨noReference, same, terms, results_ignore_letter_case noReference same⟩

end Analysis

end Relevance
