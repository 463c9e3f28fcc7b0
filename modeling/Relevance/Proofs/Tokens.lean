import Mathlib.Data.List.TakeWhile
import Relevance.Proofs.Runs
import Relevance.Proofs.Terms

/-! Tokens, and the text that they are taken from.

A tokenizer can stop behind any token and go on from there: it keeps what is left of the current
word and counts on. Its tokens are the maximal runs of alphanumeric characters within the segments
of the text, so together they hold every such character of the text once.
-/

set_option autoImplicit false

namespace Relevance.Analysis

open Text Unicode

structure Tokenizer where
  rest : List Char
  words : List (List Char)
  count : UInt32

namespace Tokenizer

def start (text : String) : Tokenizer :=
  ⟨[], (segments text.toList).filter (·.any isAlphanumeric), 0⟩

/-- The first run of alphanumeric characters in what is left of a word, or else in the words behind
it, and the tokenizer as this token leaves it. -/
def nextFrom (count : UInt32) (rest : List Char) (words : List (List Char)) :
    Option (Token × Tokenizer) :=
  match rest.dropWhile (!isAlphanumeric ·) with
  | c :: rest =>
    let run := (c :: rest).takeWhile isAlphanumeric
    let rest := (c :: rest).dropWhile isAlphanumeric
    some (⟨String.ofList run, count⟩, ⟨rest, words, count + 1⟩)
  | [] =>
    match words with
    | [] => none
    | word :: words => nextFrom count word words

def next? (tokenizer : Tokenizer) : Option (Token × Tokenizer) :=
  nextFrom tokenizer.count tokenizer.rest tokenizer.words

inductive Yields : Tokenizer → List Token → Prop where
  | done {tokenizer : Tokenizer} : tokenizer.next? = none → Yields tokenizer []
  | token {tokenizer after : Tokenizer} {token : Token} {tokens : List Token} :
      tokenizer.next? = some (token, after) → Yields after tokens →
      Yields tokenizer (token :: tokens)

def Pending (tokenizer : Tokenizer) (runs : List (List Char)) : Prop :=
  ∃ current, Cut isAlphanumeric tokenizer.rest current ∧
    runs = current ++ alphanumericRuns tokenizer.words

variable {tokenizer : Tokenizer} {tokens tokens' : List Token} {count : UInt32}
  {gap run rest : List Char} {words current runs : List (List Char)}

theorem Yields.unique (yields : tokenizer.Yields tokens) (yields' : tokenizer.Yields tokens') :
    tokens = tokens' := by
  induction yields generalizing tokens' with
  | done ends =>
    cases yields' with
    | done => rfl
    | token gives => rw [ends] at gives; contradiction
  | token gives _ ih =>
    cases yields' with
    | done ends => rw [ends] at gives; contradiction
    | token gives' yields' =>
      rw [gives] at gives'
      obtain ⟨rfl, rfl⟩ := Prod.mk.inj (Option.some.inj gives')
      rw [ih yields']

theorem nextFrom_gap (others : ∀ c ∈ gap, isAlphanumeric c = false) (words : List (List Char)) :
    nextFrom count gap words =
      match words with
      | [] => none
      | word :: words => nextFrom count word words := by
  have dropped : gap.dropWhile (!isAlphanumeric ·) = [] :=
    List.dropWhile_eq_nil_iff.mpr (by simpa using others)
  rw [nextFrom.eq_def, dropped]

theorem nextFrom_run (others : ∀ c ∈ gap, isAlphanumeric c = false) (nonempty : run ≠ [])
    (kind : ∀ c ∈ run, isAlphanumeric c = true)
    (ends : ∀ c, rest.head? = some c → isAlphanumeric c = false) :
    nextFrom count (gap ++ (run ++ rest)) words =
      some (⟨String.ofList run, count⟩, ⟨rest, words, count + 1⟩) := by
  obtain ⟨c, run, rfl⟩ := List.exists_cons_of_ne_nil nonempty
  have dropped : (gap ++ (c :: run ++ rest)).dropWhile (!isAlphanumeric ·) =
      c :: (run ++ rest) := by
    rw [List.dropWhile_append_of_pos (by simpa using others), List.cons_append,
      List.dropWhile_cons_of_neg]
    simp [kind c List.mem_cons_self]
  have stops : rest.takeWhile isAlphanumeric = [] ∧ rest.dropWhile isAlphanumeric = rest := by
    cases rest with
    | nil => exact ⟨rfl, rfl⟩
    | cons first rest =>
      have other := ne_true_of_eq_false (ends first rfl)
      exact ⟨List.takeWhile_cons_of_neg other, List.dropWhile_cons_of_neg other⟩
  rw [nextFrom.eq_def, dropped]
  simp only [← List.cons_append]
  rw [List.takeWhile_append_of_pos kind, List.dropWhile_append_of_pos kind, stops.1, stops.2,
    List.append_nil]

-- The induction is on the words behind the current one, of which the first is taken up when nothing
-- of the current one is left.
theorem nextFrom_none (count : UInt32) (cut : Cut isAlphanumeric rest current)
    (done : current ++ alphanumericRuns words = []) : nextFrom count rest words = none := by
  induction words generalizing rest current with
  | nil =>
    cases cut with
    | gap others => exact nextFrom_gap others []
    | run => contradiction
  | cons word words ih =>
    cases cut with
    | gap others =>
      rw [nextFrom_gap others]
      rw [alphanumericRuns_cons] at done
      exact ih (cut_runs isAlphanumeric word) done
    | run => contradiction

theorem nextFrom_some (count : UInt32) (cut : Cut isAlphanumeric rest current)
    (next : current ++ alphanumericRuns words = run :: runs) :
    ∃ after, nextFrom count rest words = some (⟨String.ofList run, count⟩, after) ∧
      after.count = count + 1 ∧ after.Pending runs := by
  induction words generalizing rest current with
  | nil =>
    cases cut with
    | gap => contradiction
    | run others nonempty kind ends cut =>
      obtain ⟨rfl, rfl⟩ := List.cons.inj next
      exact ⟨_, nextFrom_run others nonempty kind ends, rfl, _, cut, rfl⟩
  | cons word words ih =>
    cases cut with
    | gap others =>
      rw [nextFrom_gap others]
      rw [alphanumericRuns_cons] at next
      exact ih (cut_runs isAlphanumeric word) next
    | run others nonempty kind ends cut =>
      obtain ⟨rfl, rfl⟩ := List.cons.inj next
      exact ⟨_, nextFrom_run others nonempty kind ends, rfl, _, cut, rfl⟩

/-- A tokenizer gives the runs that it has still to give, and counts on. -/
theorem Pending.yields {place : Nat} (pending : tokenizer.Pending runs)
    (counted : tokenizer.count = UInt32.ofNat place) :
    tokenizer.Yields (((runs.map String.ofList).zipIdx place).map
      fun (term, place) => ⟨term, UInt32.ofNat place⟩) := by
  induction runs generalizing tokenizer place with
  | nil =>
    obtain ⟨current, cut, done⟩ := pending
    exact .done (nextFrom_none _ cut done.symm)
  | cons run runs ih =>
    obtain ⟨current, cut, next⟩ := pending
    obtain ⟨after, gives, counts, pending⟩ := nextFrom_some tokenizer.count cut next.symm
    have given : tokenizer.next? = some (⟨String.ofList run, UInt32.ofNat place⟩, after) := by
      rw [next?, gives, counted]
    have counted' : after.count = UInt32.ofNat (place + 1) := by
      rw [counts, counted, UInt32.ofNat_add]
      rfl
    exact .token given (ih pending counted')

/-- A tokenizer gives all tokens of a text. -/
theorem yields_tokenize (text : String) : (start text).Yields (tokenize text) := by
  have pending : (start text).Pending (alphanumericRuns (segments text.toList)) :=
    ⟨[], .gap (List.forall_mem_nil _), (alphanumericRuns_filter_any _).symm⟩
  exact pending.yields rfl

end Tokenizer

theorem map_numbered_eq_zipIdx {terms : List String} (few : terms.length < 2 ^ 32) :
    (numbered terms).map (fun token => (token.term, token.position.toNat)) = terms.zipIdx := by
  have same : ∀ entry ∈ terms.zipIdx, (entry.1, (UInt32.ofNat entry.2).toNat) = entry := by
    intro (term, place) isEntry
    exact congrArg (term, ·) (toNat_position few (List.snd_lt_of_mem_zipIdx isEntry))
  rw [numbered, List.map_map]
  exact (List.map_congr_left same).trans (List.map_id _)

theorem map_position_numbered {terms : List String} (few : terms.length < 2 ^ 32) :
    (numbered terms).map (·.position.toNat) = List.range terms.length := by
  rw [List.range_eq_range', ← List.zipIdx_map_snd 0 terms, ← map_numbered_eq_zipIdx few,
    List.map_map]
  rfl

theorem map_position_analyze {analyzer : Analyzer} {text : String}
    (few : (analyzer.analyze text).length < 2 ^ 32) :
    (analyzer.analyze text).map (·.position.toNat) = List.range (analyzer.analyze text).length := by
  rw [← length_termsOf] at few ⊢
  rw [analyze_eq_numbered, map_position_numbered few]

theorem maximal_of_mem_terms {text term : String} (isTerm : term ∈ terms text) :
    ∃ segment ∈ segments text.toList, Maximal isAlphanumeric segment term.toList := by
  obtain ⟨run, isRun, rfl⟩ := List.mem_map.mp isTerm
  obtain ⟨segment, isSegment, isRun⟩ := List.mem_flatMap.mp isRun
  rw [String.toList_ofList]
  exact ⟨segment, isSegment, (cut_runs isAlphanumeric segment).maximal isRun⟩

theorem flatMap_terms (text : String) :
    (terms text).flatMap String.toList = text.toList.filter isAlphanumeric := by
  have parts : ∀ segment ∈ segments text.toList,
      (Text.runs isAlphanumeric segment).flatMap id = segment.filter isAlphanumeric := by
    intro segment _
    rw [List.flatMap_id, (cut_runs isAlphanumeric segment).flatten]
  have chars : ∀ run ∈ (segments text.toList).flatMap (Text.runs isAlphanumeric),
      (String.ofList run).toList = id run := fun run _ => String.toList_ofList
  rw [terms, List.flatMap_map, List.flatMap_congr chars, List.flatMap_assoc,
    List.flatMap_congr parts, List.flatMap_def, ← List.filter_flatten, flatten_segments]

/-- The tokens that a tokenizer gives for a text are numbered from zero on. Each is a run of
alphanumeric characters in a segment of the text which cannot be continued there, and together they
hold all these characters, once and in order. Whatever the filters of an analyzer, what it leaves is
numbered from zero on and not empty. -/
theorem tokenize_covers :
    (∀ text : String,
      (∀ tokens, (Tokenizer.start text).Yields tokens ↔ tokens = tokenize text) ∧
      (segments text.toList).flatten = text.toList ∧
      (∀ token ∈ tokenize text, ∃ segment ∈ segments text.toList,
        Maximal isAlphanumeric segment token.term.toList) ∧
      (tokenize text).flatMap (·.term.toList) = text.toList.filter isAlphanumeric ∧
      ((tokenize text).length < 2 ^ 32 →
        (tokenize text).map (·.position.toNat) = List.range (tokenize text).length)) ∧
    ∀ (analyzer : Analyzer) (text : String),
      (∀ token ∈ analyzer.analyze text, token.term ≠ "") ∧
      ((analyzer.analyze text).length < 2 ^ 32 → (analyzer.analyze text).map (·.position.toNat) =
        List.range (analyzer.analyze text).length) := by
  constructor
  · intro text
    have isTerm : ∀ token ∈ tokenize text, token.term ∈ terms text := by
      intro token isToken
      rw [← map_term_numbered (terms text)]
      exact List.mem_map_of_mem isToken
    refine ⟨fun tokens => ⟨fun yields => ?_, ?_⟩, flatten_segments text.toList,
      fun token isToken => ?_, ?_, fun few => ?_⟩
    · exact yields.unique (Tokenizer.yields_tokenize text)
    · rintro rfl
      exact Tokenizer.yields_tokenize text
    · exact maximal_of_mem_terms (isTerm token isToken)
    · rw [← flatMap_terms, ← map_term_numbered (terms text), List.flatMap_map]
      rfl
    · rw [tokenize, length_numbered] at few ⊢
      exact map_position_numbered few
  · intro analyzer text
    exact ⟨fun token isToken => ne_empty_of_mem_termsOf (List.mem_map_of_mem isToken),
      map_position_analyze⟩

/-- The marks after two letters cut a word, as the apostrophe does. -/
theorem tokenize_covers_words :
    (Tokenizer.start "L'e\u0301te\u0301: 3.14").Yields
      [⟨"L", 0⟩, ⟨"e", 1⟩, ⟨"te", 2⟩, ⟨"3", 3⟩, ⟨"14", 4⟩] ∧
    (∃ segment ∈ segments "L'e\u0301te\u0301: 3.14".toList,
      Maximal isAlphanumeric segment "te".toList) ∧
    (tokenize "L'e\u0301te\u0301: 3.14").flatMap (·.term.toList) = "Lete314".toList ∧
    (tokenize "L'e\u0301te\u0301: 3.14").map (·.position.toNat) = [0, 1, 2, 3, 4] ∧
    (Analyzer.html.analyze "<b>L'<b>e\u0301te\u0301: 3.14").map (·.position.toNat) =
      [0, 1, 2, 3, 4] := by
  have tokens : tokenize "L'e\u0301te\u0301: 3.14" =
      [⟨"L", 0⟩, ⟨"e", 1⟩, ⟨"te", 2⟩, ⟨"3", 3⟩, ⟨"14", 4⟩] := by decide +kernel
  have analyzed : Analyzer.html.analyze "<b>L'<b>e\u0301te\u0301: 3.14" =
      [⟨"l", 0⟩, ⟨"e", 1⟩, ⟨"te", 2⟩, ⟨"3", 3⟩, ⟨"14", 4⟩] := by decide +kernel
  obtain ⟨text, analysis⟩ := tokenize_covers
  obtain ⟨yields, -, stands, kept, numbered⟩ := text "L'e\u0301te\u0301: 3.14"
  obtain ⟨-, numbered'⟩ := analysis .html "<b>L'<b>e\u0301te\u0301: 3.14"
  refine ⟨(yields _).mpr tokens.symm, stands ⟨"te", 2⟩ (by rw [tokens]; decide), ?_, ?_, ?_⟩
  · rw [kept]
    decide +kernel
  · rw [numbered (by rw [tokens]; decide), tokens]
    rfl
  · rw [numbered' (by rw [analyzed]; decide), analyzed]
    rfl

end Relevance.Analysis
