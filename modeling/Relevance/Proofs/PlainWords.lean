import Relevance.Proofs.Numbering
import Relevance.Proofs.Numerals

/-! Words that analysis keeps as they are: those of lower-case letters and digits of ASCII. -/

set_option autoImplicit false

namespace Relevance.Analysis

open Unicode Text

def isPlain (c : Char) : Bool :=
  c.isLower || c.isDigit

structure PlainWord (word : List Char) : Prop where
  nonempty : word ≠ []
  plain : ∀ c ∈ word, isPlain c = true

variable {c : Char} {word text segment rest : List Char} {words done : List (List Char)}
  {before : Boundary}

/-- All that analysis asks about a plain character. -/
structure Plain (c : Char) : Prop where
  kept : Unicode.isAlphanumeric c = true
  lower : Unicode.lowercase c = [c]
  joined : WordBreak.ofChar c = .aLetter ∨ WordBreak.ofChar c = .numeric
  noPictograph : isPictographic c = false

theorem isAlphanum_of_isPlain (plain : isPlain c = true) : c.isAlphanum = true := by
  simp only [isPlain, Char.isAlphanum, Char.isAlpha, Bool.or_eq_true] at plain ⊢
  tauto

theorem plain_of_isPlain (plain : isPlain c = true) : Plain c := by
  have known := of_isAlphanum (P := fun c => isPlain c = true → Unicode.isAlphanumeric c = true ∧
    Unicode.lowercase c = [c] ∧ (WordBreak.ofChar c = .aLetter ∨ WordBreak.ofChar c = .numeric) ∧
    isPictographic c = false) (by decide +kernel) (isAlphanum_of_isPlain plain)
  obtain ⟨kept, lower, joined, noPictograph⟩ := known plain
  exact ⟨kept, lower, joined, noPictograph⟩

theorem ne_of_isPlain {other : Char} (plain : isPlain c = true) (notPlain : isPlain other = false) :
    c ≠ other := by
  rintro rfl
  rw [plain] at notPlain
  contradiction

def InWord (before : Boundary) : Prop :=
  before.last = before.base ∧ (before.base = .aLetter ∨ before.base = .numeric)

def AfterSpace (before : Boundary) : Prop :=
  before.last = .wSegSpace ∧ before.base = .wSegSpace

theorem inWord_start (plain : Plain c) : InWord (Boundary.start c) :=
  ⟨rfl, plain.joined⟩

theorem Plain.classAfter (plain : Plain c) (before : Boundary) :
    before.classAfter c = WordBreak.ofChar c := by
  simp [Boundary.classAfter, Boundary.joinsPictograph, plain.noPictograph]

theorem inWord_push (plain : Plain c) (before : Boundary) : InWord (before.push c) := by
  have noted : before.push c = ⟨WordBreak.ofChar c, WordBreak.ofChar c, before.base,
      WordBreak.ofChar c == .regionalIndicator && !before.oddIndicators⟩ := by
    rw [Boundary.push, plain.classAfter]
    rcases plain.joined with letter | digit
    · simp [letter, WordBreak.isIgnored]
    · simp [digit, WordBreak.isIgnored]
  rw [noted]
  exact ⟨rfl, plain.joined⟩

theorem InWord.joins (inWord : InWord before) (plain : Plain c) (rest : List Char) :
    before.joins c rest = true := by
  obtain ⟨same, base | base⟩ := inWord <;> rcases plain.joined with next | next <;>
    simp [Boundary.joins, Boundary.joinsPictograph, Boundary.joinsBase, same, base, next,
      WordBreak.isLineEnd, WordBreak.isLetter, plain.noPictograph]

theorem ofChar_space : WordBreak.ofChar ' ' = .wSegSpace := rfl

theorem InWord.not_joins_space (inWord : InWord before) (rest : List Char) :
    before.joins ' ' rest = false := by
  obtain ⟨same, base | base⟩ := inWord <;>
    simp [Boundary.joins, Boundary.joinsPictograph, Boundary.joinsBase, same, base, ofChar_space,
      WordBreak.isLineEnd, WordBreak.isLetter, WordBreak.isIgnored, WordBreak.isBetweenLetters,
      WordBreak.isBetweenDigits, WordBreak.isConnected]

theorem InWord.push_space (inWord : InWord before) : AfterSpace (before.push ' ') := by
  obtain ⟨same, base | base⟩ := inWord <;>
    simp [AfterSpace, Boundary.push, Boundary.classAfter, Boundary.joinsPictograph, same, base,
      ofChar_space, WordBreak.isIgnored]

theorem AfterSpace.not_joins (afterSpace : AfterSpace before) (plain : Plain c) (rest : List Char) :
    before.joins c rest = false := by
  obtain ⟨last, base⟩ := afterSpace
  rcases plain.joined with next | next <;>
    simp [Boundary.joins, Boundary.joinsPictograph, Boundary.joinsBase, last, base, next,
      WordBreak.isLineEnd, WordBreak.isLetter, WordBreak.isIgnored, WordBreak.isBetweenLetters,
      WordBreak.isBetweenDigits, WordBreak.isConnected]

theorem segmentsFrom_word (plain : ∀ c ∈ word, isPlain c = true) (inWord : InWord before) :
    ∃ behind, InWord behind ∧ ∀ segment done rest, segmentsFrom before segment done (word ++ rest) =
      segmentsFrom behind (word.reverse ++ segment) done rest := by
  induction word generalizing before with
  | nil => exact ⟨before, inWord, fun _ _ _ => rfl⟩
  | cons c word ih =>
    rw [List.forall_mem_cons] at plain
    have isPlain := plain_of_isPlain plain.1
    obtain ⟨behind, inWord', read⟩ := ih plain.2 (inWord_push isPlain before)
    refine ⟨behind, inWord', fun segment done rest => ?_⟩
    rw [List.cons_append, segmentsFrom, if_pos (inWord.joins isPlain _), read]
    simp

-- There is a boundary on either side of a space, so words and spaces are segments in turn.
theorem segmentsFrom_words (plain : ∀ word ∈ words, PlainWord word) (inWord : InWord before) :
    segmentsFrom before segment done (words.flatMap (' ' :: ·)) =
      done.reverse ++ segment.reverse :: words.flatMap fun word => [[' '], word] := by
  induction words generalizing before segment done with
  | nil => simp [segmentsFrom]
  | cons word words ih =>
    rw [List.forall_mem_cons] at plain
    obtain ⟨⟨nonempty, isPlain⟩, plain⟩ := plain
    obtain ⟨c, word, rfl⟩ := List.exists_cons_of_ne_nil nonempty
    rw [List.forall_mem_cons] at isPlain
    have first := plain_of_isPlain isPlain.1
    obtain ⟨behind, inWord', read⟩ :=
      segmentsFrom_word isPlain.2 (inWord_push first (before.push ' '))
    rw [List.flatMap_cons, List.cons_append, List.cons_append, segmentsFrom,
      if_neg (ne_true_of_eq_false (inWord.not_joins_space _)), segmentsFrom,
      if_neg (ne_true_of_eq_false (inWord.push_space.not_joins first _)), read, ih plain inWord']
    simp

theorem intercalate_space (word : List Char) (words : List (List Char)) :
    [' '].intercalate (word :: words) = word ++ words.flatMap (' ' :: ·) := by
  induction words generalizing word with
  | nil => simp
  | cons next words ih => simp [List.intercalate_cons_cons, ih]

theorem segments_words (plain : PlainWord word) (others : ∀ word ∈ words, PlainWord word) :
    segments ([' '].intercalate (word :: words)) =
      word :: words.flatMap fun word => [[' '], word] := by
  obtain ⟨nonempty, isPlain⟩ := plain
  obtain ⟨c, word, rfl⟩ := List.exists_cons_of_ne_nil nonempty
  rw [List.forall_mem_cons] at isPlain
  obtain ⟨behind, inWord, read⟩ :=
    segmentsFrom_word isPlain.2 (inWord_start (plain_of_isPlain isPlain.1))
  rw [intercalate_space, List.cons_append, segments, read, segmentsFrom_words others inWord]
  simp

theorem runsFrom_word (p : Char → Bool) {run : List Char} (all : ∀ c ∈ word, p c = true) :
    runsFrom p run done word = (endRun (word.reverse ++ run) done).reverse := by
  induction word generalizing run with
  | nil => rfl
  | cons c word ih =>
    rw [List.forall_mem_cons] at all
    rw [runsFrom, if_pos all.1, ih all.2]
    simp

theorem PlainWord.runs (plain : PlainWord word) : runs Unicode.isAlphanumeric word = [word] := by
  rw [Text.runs, runsFrom_word _ fun c isChar => (plain_of_isPlain (plain.plain c isChar)).kept]
  simp [endRun, plain.nonempty]

theorem terms_words (plain : ∀ word ∈ words, PlainWord word) (nonempty : words ≠ []) :
    terms (String.ofList ([' '].intercalate words)) = words.map String.ofList := by
  obtain ⟨word, words, rfl⟩ := List.exists_cons_of_ne_nil nonempty
  rw [List.forall_mem_cons] at plain
  have space : runs Unicode.isAlphanumeric [' '] = [] := by decide
  have others : (words.flatMap fun word => [[' '], word]).flatMap (runs Unicode.isAlphanumeric) =
      words := by
    rw [List.flatMap_assoc]
    have each : ∀ word ∈ words, [[' '], word].flatMap (runs Unicode.isAlphanumeric) = [word] :=
      fun word isWord => by simp [space, (plain.2 word isWord).runs]
    rw [List.flatMap_congr each]
    simp
  rw [terms, String.toList_ofList, segments_words plain.1 plain.2, List.flatMap_cons, plain.1.runs,
    others, List.singleton_append]

theorem lowercaseFrom_plain {output : List Char} (plain : ∀ c ∈ word, isPlain c = true) :
    lowercaseFrom text output word = output.reverse ++ word := by
  induction word generalizing text output with
  | nil => simp [lowercaseFrom]
  | cons c word ih =>
    rw [List.forall_mem_cons] at plain
    rw [lowercaseFrom, if_neg (ne_of_isPlain plain.1 (by decide)),
      (plain_of_isPlain plain.1).lower, ih plain.2]
    simp

theorem PlainWord.lowercase (plain : PlainWord word) :
    Text.lowercase (String.ofList word) = String.ofList word := by
  rw [Text.lowercase, String.toList_ofList, lowercaseFrom_plain plain.plain, List.reverse_nil,
    List.nil_append]

theorem strip_of_noMarkup {text : String} (noMarkup : ∀ c ∈ text.toList, c ≠ '<' ∧ c ≠ '&') :
    Html.strip text = text := by
  have absent : Html.hasMarkup text = false := by
    simpa [Html.hasMarkup, not_or] using noMarkup
  rw [Html.strip, if_neg (ne_true_of_eq_false absent)]

theorem termsOf_html (text : String) :
    Analyzer.html.termsOf text = (terms (Html.strip text)).map Text.lowercase := by
  have lowered : Analyzer.html.analyze text =
      numbered ((terms (Html.strip text)).map Text.lowercase) := by
    rw [numbered_map, Analyzer.analyze]
    simp only [Analyzer.html, List.foldl_cons, List.foldl_nil, CharFilter.apply, tokenize]
    exact List.map_congr_left fun token _ => rfl
  rw [Analyzer.termsOf, lowered, map_term_numbered]

theorem isPlain_or_space (plain : ∀ word ∈ words, PlainWord word)
    (isChar : c ∈ [' '].intercalate words) : isPlain c = true ∨ c = ' ' := by
  cases words with
  | nil => contradiction
  | cons word words =>
    rw [List.forall_mem_cons] at plain
    simp only [intercalate_space, List.mem_append, List.mem_flatMap, List.mem_cons] at isChar
    rcases isChar with isChar | ⟨other, isWord, rfl | isChar⟩
    · exact .inl (plain.1.plain c isChar)
    · exact .inr rfl
    · exact .inl ((plain.2 other isWord).plain c isChar)

theorem termsOf_words (plain : ∀ word ∈ words, PlainWord word) (nonempty : words ≠ []) :
    Analyzer.html.termsOf (String.ofList ([' '].intercalate words)) = words.map String.ofList := by
  have noMarkup : ∀ c ∈ (String.ofList ([' '].intercalate words)).toList, c ≠ '<' ∧ c ≠ '&' := by
    rw [String.toList_ofList]
    intro c isChar
    rcases isPlain_or_space plain isChar with isPlain | rfl
    · exact ⟨ne_of_isPlain isPlain rfl, ne_of_isPlain isPlain rfl⟩
    · decide
  rw [termsOf_html, strip_of_noMarkup noMarkup, terms_words plain nonempty, List.map_map]
  exact List.map_congr_left fun word isWord => (plain word isWord).lowercase

/-- Words of lower-case letters and digits, joined by spaces, are their own terms. -/
theorem termsOf_intercalate {terms : List String} (plain : ∀ word ∈ terms, PlainWord word.toList)
    (nonempty : terms ≠ []) : Analyzer.html.termsOf (" ".intercalate terms) = terms := by
  have joined : " ".intercalate terms =
      String.ofList ([' '].intercalate (terms.map String.toList)) := by
    apply String.toList_inj.mp
    simp [String.toList_intercalate]
  rw [joined, termsOf_words (List.forall_mem_map.mpr plain) (by simpa using nonempty), List.map_map]
  simp

end Relevance.Analysis
