import Relevance.Proofs.Agreement
import Relevance.Proofs.Denotation
import Relevance.Proofs.Forms
import Relevance.Proofs.Locations

/-! What the pages that score answer, in terms of the names and values that a request carries. -/

set_option autoImplicit false

namespace Relevance.Service

section

variable {pairs : List (String × String)} {name value : String}

def LastValue (pairs : List (String × String)) (name value : String) : Prop :=
  ∃ before after, pairs = before ++ (name, value) :: after ∧ ∀ pair ∈ after, pair.1 ≠ name

def Given (pairs : List (String × String)) (name value : String) : Prop :=
  LastValue pairs name value ∧ ∃ c ∈ value.toList, Unicode.isWhitespace c = false

theorem not_lastValue_nil : ¬ LastValue [] name value := by
  rintro ⟨before, after, none, -⟩
  cases before <;> contradiction

theorem lastValue_cons {pair : String × String} :
    LastValue (pair :: pairs) name value ↔
      LastValue pairs name value ∨ pair = (name, value) ∧ ∀ other ∈ pairs, other.1 ≠ name := by
  constructor
  · rintro ⟨before, after, same, gone⟩
    cases before with
    | nil =>
      obtain ⟨rfl, rfl⟩ := List.cons.inj same
      exact .inr ⟨rfl, gone⟩
    | cons first before =>
      obtain ⟨-, rfl⟩ := List.cons.inj same
      exact .inl ⟨before, after, rfl, gone⟩
  · rintro (⟨before, after, rfl, gone⟩ | ⟨rfl, gone⟩)
    · exact ⟨pair :: before, after, rfl, gone⟩
    · exact ⟨[], pairs, rfl, gone⟩

theorem LastValue.mem (last : LastValue pairs name value) : (name, value) ∈ pairs := by
  obtain ⟨before, after, rfl, -⟩ := last
  exact List.mem_append_right before List.mem_cons_self

/-- Values of names in a list replace those from before. -/
theorem getElem?_addAll (parameters : Parameters) :
    (parameters.addAll pairs)[name]? = some value ↔
      LastValue pairs name value ∨
        parameters[name]? = some value ∧ ∀ pair ∈ pairs, pair.1 ≠ name := by
  induction pairs generalizing parameters with
  | nil => simp [Parameters.addAll, not_lastValue_nil]
  | cons pair pairs ih =>
    have step : parameters.addAll (pair :: pairs) =
        Parameters.addAll (parameters.insert pair.1 pair.2) pairs := rfl
    obtain ⟨first, old⟩ := pair
    rw [step, ih, lastValue_cons, Std.ExtTreeMap.getElem?_insert, List.forall_mem_cons, or_assoc]
    by_cases same : first = name
    · subst same
      simp
    · simp [same]

theorem addAll_append (parameters : Parameters) (first second : List (String × String)) :
    (parameters.addAll first).addAll second = parameters.addAll (first ++ second) :=
  List.foldl_append.symm

def Parameters.Holds (parameters : Parameters) (pairs : List (String × String)) : Prop :=
  ∀ name value, parameters[name]? = some value ↔ LastValue pairs name value

theorem holds_addAll (pairs : List (String × String)) :
    (Parameters.addAll {} pairs).Holds pairs := by
  intro name value
  rw [getElem?_addAll]
  simp

end

def carried (url : Url) (body : String) : List (String × String) :=
  Form.pairs (String.ofList (url.query.getD [])).toUTF8.toList ++ Form.pairs body.toUTF8.toList

section

variable {method : Method} {url : Url} {body : ByteArray} {text : String}

theorem readParameters_of_not_text (notText : String.fromUTF8? body = none) :
    readParameters ⟨method, url, body⟩ = .error .bodyNotText := by
  rw [readParameters, notText]
  rfl

theorem readParameters_of_text (isText : String.fromUTF8? body = some text) :
    readParameters ⟨method, url, body⟩ = .ok (Parameters.addAll {} (carried url text)) := by
  rw [readParameters, isText, carried, ← addAll_append]
  rfl

variable {parameters : Parameters} {pairs : List (String × String)} {document phrase : String}

theorem nonBlank?_eq_some_iff (holds : parameters.Holds pairs) {name value : String} :
    nonBlank? parameters name = some value ↔ Given pairs name value := by
  rw [nonBlank?, Option.filter_eq_some_iff, holds, Given]
  simp

theorem work?_eq_some_iff (holds : parameters.Holds pairs) :
    work? parameters = some (document, phrase) ↔
      Given pairs "html" document ∧ Given pairs "keyPhrase" phrase := by
  rw [← nonBlank?_eq_some_iff holds, ← nonBlank?_eq_some_iff holds, work?]
  cases nonBlank? parameters "html" <;> cases nonBlank? parameters "keyPhrase" <;> simp

theorem work?_eq_none_iff (holds : parameters.Holds pairs) :
    work? parameters = none ↔
      (∀ document, ¬ Given pairs "html" document) ∨ ∀ phrase, ¬ Given pairs "keyPhrase" phrase := by
  simp only [← nonBlank?_eq_some_iff holds]
  rw [work?]
  cases nonBlank? parameters "html" <;> cases nonBlank? parameters "keyPhrase" <;> simp

theorem rankPage_of_not_text (notText : String.fromUTF8? body = none) :
    rankPage ⟨method, url, body⟩ = .error .bodyNotText := by
  rw [rankPage, readParameters_of_not_text notText]
  rfl

theorem explainPage_of_not_text (notText : String.fromUTF8? body = none) :
    explainPage ⟨method, url, body⟩ = .error .bodyNotText := by
  rw [explainPage, readParameters_of_not_text notText]
  rfl

variable (isText : String.fromUTF8? body = some text)
include isText

section

variable (missing : (∀ document, ¬ Given (carried url text) "html" document) ∨
  ∀ phrase, ¬ Given (carried url text) "keyPhrase" phrase)
include missing

theorem rankPage_of_missing : rankPage ⟨method, url, body⟩ = .ok (htmlResponse .ok greeting) := by
  have noWork := (work?_eq_none_iff (holds_addAll _)).mpr missing
  simp only [rankPage, readParameters_of_text isText, bind, Except.bind, noWork]
  rfl

theorem explainPage_of_missing :
    explainPage ⟨method, url, body⟩ = .ok (jsonResponse .badRequest missingParameter) := by
  have noWork := (work?_eq_none_iff (holds_addAll _)).mpr missing
  simp only [explainPage, readParameters_of_text isText, bind, Except.bind, noWork]
  rfl

end

section

variable (givenDocument : Given (carried url text) "html" document)
  (givenPhrase : Given (carried url text) "keyPhrase" phrase)
include givenDocument givenPhrase

theorem rankPage_of_given :
    rankPage ⟨method, url, body⟩ =
      .ok (match rank .html document phrase with
        | .ok score => htmlResponse .ok (formatScore score ++ "\n")
        | .error error => queryErrorResponse error) := by
  have work := (work?_eq_some_iff (holds_addAll _)).mpr ⟨givenDocument, givenPhrase⟩
  simp only [rankPage, readParameters_of_text isText, bind, Except.bind, work]
  cases rank .html document phrase <;> rfl

theorem explainPage_of_given :
    explainPage ⟨method, url, body⟩ =
      .ok (match explain .html document phrase with
        | .ok explanation => jsonResponse .ok (Json.ofExplanation explanation).text
        | .error error => queryErrorResponse error) := by
  have work := (work?_eq_some_iff (holds_addAll _)).mpr ⟨givenDocument, givenPhrase⟩
  simp only [explainPage, readParameters_of_text isText, bind, Except.bind, work]
  cases explain .html document phrase <;> rfl

end

end

/-- What the two pages answer a request with the same query and the same body. The body is checked
first, then whether both parameters are given, then the key phrase. -/
structure AnswersAgree (url : Url) (body : ByteArray) (ranked explained : Except Failure Response) :
    Prop where
  notText : String.fromUTF8? body = none →
    ∃ failure, ranked = .error failure ∧ explained = .error failure ∧
      failure.status.code = 400 ∧ failure.body = "Couldn't read request body"
  missing : ∀ text, String.fromUTF8? body = some text →
    (∀ document, ¬ Given (carried url text) "html" document) ∨
      (∀ phrase, ¬ Given (carried url text) "keyPhrase" phrase) →
    ranked = .ok (htmlResponse .ok greeting) ∧
      explained = .ok (jsonResponse .badRequest missingParameter)
  refused : ∀ text, String.fromUTF8? body = some text → ∀ document phrase,
    Given (carried url text) "html" document → Given (carried url text) "keyPhrase" phrase →
    ∀ error, Query.parse .html phrase = .error error →
      ∃ response, ranked = .ok response ∧ explained = .ok response ∧
        response = jsonResponse .badRequest (Json.object
          [("error", .string error.message), ("message", .string "Query error")]).text
  scored : ∀ text, String.fromUTF8? body = some text → ∀ document phrase,
    Given (carried url text) "html" document → Given (carried url text) "keyPhrase" phrase →
    ∀ query, Query.parse .html phrase = .ok query →
      ∃ explanation, explain .html document phrase = .ok explanation ∧
        ranked = .ok (htmlResponse .ok (formatScore explanation.score ++ "\n")) ∧
        explained = .ok (jsonResponse .ok (Json.ofExplanation explanation).text)

theorem answersAgree (origin : String) (query : Option String) (body : ByteArray) :
    AnswersAgree (.toRank origin query) body (rankPage ⟨.get, .toRank origin query, body⟩)
      (explainPage ⟨.get, .toExplain origin query, body⟩) where
  notText notText :=
    ⟨.bodyNotText, rankPage_of_not_text notText, explainPage_of_not_text notText, rfl, rfl⟩
  missing text isText missing :=
    ⟨rankPage_of_missing isText missing, explainPage_of_missing isText missing⟩
  refused text isText document phrase givenDocument givenPhrase error refused := by
    have explained : explainPage ⟨.get, .toExplain origin query, body⟩ = _ :=
      explainPage_of_given isText givenDocument givenPhrase
    rw [rankPage_of_given isText givenDocument givenPhrase, explained, rank_eq_map_parse,
      explain_eq_map_parse, refused]
    exact ⟨_, rfl, rfl, rfl⟩
  scored text isText document phrase givenDocument givenPhrase tree isTree := by
    have explained : explainPage ⟨.get, .toExplain origin query, body⟩ = _ :=
      explainPage_of_given isText givenDocument givenPhrase
    rw [rankPage_of_given isText givenDocument givenPhrase, explained, rank_eq_map_parse,
      explain_eq_map_parse, isTree]
    refine ⟨Score.explain (Index.ofText .html document) tree, rfl, ?_, rfl⟩
    rw [Score.explain_score_eq]
    rfl

/-- Both pages are found behind every query, answer GET as they answer POST, and agree: they fail
alike, and one shows the score of what the other explains. -/
theorem pages_agree (origin : String) (query : Option String) (body : ByteArray) :
    ∃ rankUrl explainUrl : Url,
      Url.ofTarget? origin (target "/" query) = some rankUrl ∧
      Url.ofTarget? origin (target "/_explain" query) = some explainUrl ∧
      rankUrl.query = explainUrl.query ∧
      ∃ ranked explained,
        (∀ method ∈ [Method.get, .post], respond ⟨method, rankUrl, body⟩ = ranked ∧
          respond ⟨method, explainUrl, body⟩ = explained) ∧
        AnswersAgree rankUrl body ranked explained :=
  ⟨.toRank origin query, .toExplain origin query, ofTarget?_rank origin query,
    ofTarget?_explain origin query, rfl, _, _, fun _ isRead =>
      ⟨respond_rank origin query isRead body, respond_explain origin query isRead body⟩,
    answersAgree origin query body⟩

theorem pages_agree_a_cat :
    ∃ rankUrl explainUrl : Url,
      Url.ofTarget? "http://localhost" "/?html=a+cat" = some rankUrl ∧
      Url.ofTarget? "http://localhost" "/_explain?html=a+cat" = some explainUrl ∧
      (∃ failure, respond ⟨.post, rankUrl, ⟨#[0xFF]⟩⟩ = .error failure ∧
        respond ⟨.post, explainUrl, ⟨#[0xFF]⟩⟩ = .error failure ∧
        failure.body = "Couldn't read request body") ∧
      (respond ⟨.post, rankUrl, "keyPhrase=+".toUTF8⟩ = .ok (htmlResponse .ok greeting) ∧
        respond ⟨.post, explainUrl, "keyPhrase=+".toUTF8⟩ =
          .ok (jsonResponse .badRequest missingParameter)) ∧
      (∃ response, respond ⟨.post, rankUrl, "keyPhrase=(".toUTF8⟩ = .ok response ∧
        respond ⟨.post, explainUrl, "keyPhrase=(".toUTF8⟩ = .ok response ∧
        response.status = .badRequest) ∧
      ∃ explanation, explain .html "a cat" "cat" = .ok explanation ∧
        respond ⟨.post, rankUrl, "keyPhrase=cat".toUTF8⟩ =
          .ok (htmlResponse .ok (formatScore explanation.score ++ "\n")) ∧
        respond ⟨.post, explainUrl, "keyPhrase=cat".toUTF8⟩ =
          .ok (jsonResponse .ok (Json.ofExplanation explanation).text) := by
  let url : List Char → Url := fun segment =>
    ⟨"http://localhost", [segment], some "html=a+cat".toList, none⟩
  have agree : ∀ body, AnswersAgree (url []) body (respond ⟨.post, url [], body⟩)
      (respond ⟨.post, url "_explain".toList, body⟩) := by
    intro body
    obtain ⟨rankUrl, explainUrl, isRank, isExplain, -, ranked, explained, answers, agree⟩ :=
      pages_agree "http://localhost" (some "html=a+cat") body
    obtain rfl : url [] = rankUrl := Option.some.inj isRank
    obtain rfl : url "_explain".toList = explainUrl := Option.some.inj isExplain
    obtain ⟨rfl, rfl⟩ := answers .post (by simp)
    exact agree
  have given : ∀ text phrase, carried (url []) text = [("html", "a cat"), ("keyPhrase", phrase)] →
      (∃ c ∈ phrase.toList, Unicode.isWhitespace c = false) →
      Given (carried (url []) text) "html" "a cat" ∧
        Given (carried (url []) text) "keyPhrase" phrase := by
    intro text phrase carries visible
    rw [carries]
    exact ⟨⟨⟨[], _, rfl, by simp⟩, 'a', by decide, rfl⟩, ⟨[_], [], rfl, by simp⟩, visible⟩
  refine ⟨url [], url "_explain".toList, rfl, rfl, ?_, ?_, ?_, ?_⟩
  · obtain ⟨failure, ranked, explained, -, body⟩ := (agree ⟨#[0xFF]⟩).notText (by decide +kernel)
    exact ⟨failure, ranked, explained, body⟩
  · refine (agree _).missing _ (Text.fromUTF8?_toUTF8 _) (.inr ?_)
    rintro phrase ⟨last, c, isChar, visible⟩
    have carries : carried (url []) "keyPhrase=+" = [("html", "a cat"), ("keyPhrase", " ")] := by
      decide +kernel
    have member := last.mem
    rw [carries] at member
    obtain rfl : phrase = " " := by simpa using member
    obtain rfl : c = ' ' := by simpa using isChar
    exact absurd visible (by decide)
  · obtain ⟨givenDocument, givenPhrase⟩ := given "keyPhrase=(" "(" (by decide +kernel)
      ⟨'(', by decide, rfl⟩
    obtain ⟨response, ranked, explained, rfl⟩ := (agree _).refused _ (Text.fromUTF8?_toUTF8 _) _ _
      givenDocument givenPhrase .unbalancedGrouping (by cbv)
    exact ⟨_, ranked, explained, rfl⟩
  · obtain ⟨givenDocument, givenPhrase⟩ := given "keyPhrase=cat" "cat" (by decide +kernel)
      ⟨'c', by decide, rfl⟩
    have leaf : Query.Grammar.Operand .html [.word "cat"] (some (Query.ofTerm "cat")) := by
      have terms : Analysis.Analyzer.html.termsOf "cat" = ["cat"] := by cbv
      exact .primary (.word (by rw [terms]; exact .absent))
    have read : Query.parse .html "cat" = .ok (Query.ofTerm "cat") :=
      Query.parse_of_derived (by cbv) (Query.nestsWithin_of_checkGrouping (Nat.zero_le _) rfl)
        leaf.conjunction.disjunction (by simp [Query.ofTerm])
    exact (agree _).scored _ (Text.fromUTF8?_toUTF8 _) _ _ givenDocument givenPhrase _ read

/-! ### Forms sent to the pages -/

theorem query_ofName_encode (origin : String) (segment : List Char)
    (query : Option (List (String × String))) :
    (Url.ofName origin segment (query.map Form.encode)).query =
      query.map fun pairs => (Form.encode pairs).toList := by
  cases query with
  | none => rfl
  | some pairs =>
    have safe : ∀ c ∈ (Form.encode pairs).toList,
        ' ' < c ∧ c ≠ '#' ∧ Url.encodeChar Url.isSpecialInQuery c = [c] :=
      fun c written => Form.of_isWritten (Form.isWritten_of_mem_encode written)
    have trimmed := Url.significant_of_visible fun c written => (safe c written).1
    have whole : (Form.encode pairs).toList.takeWhile (· ≠ '#') = (Form.encode pairs).toList :=
      List.takeWhile_eq_self_iff.mpr fun c written => decide_eq_true (safe c written).2.1
    have kept := List.flatMap_congr fun c written => (safe c written).2.2
    rw [String.ofList_toList] at trimmed
    simp only [Option.map_some, Url.ofName, Url.afterPath, Url.readQuery, trimmed, whole, kept,
      List.flatMap_singleton']

theorem carried_encode {url : Url} {query : Option (List (String × String))}
    (isQuery : url.query = query.map fun pairs => (Form.encode pairs).toList)
    (body : List (String × String)) :
    carried url (Form.encode body) = query.getD [] ++ body := by
  rw [carried, isQuery, Form.pairs_encode]
  cases query with
  | none => exact congrArg (· ++ body) (Form.pairs_encode [])
  | some pairs =>
    rw [Option.map_some, Option.getD_some, String.ofList_toList, Form.pairs_encode,
      Option.getD_some]

/-- What is sent as a form arrives: every name has its last value, where the body comes after the
query, and no other name has any. So it makes no difference to the page that scores how the
document and the key phrase are sent. -/
theorem respond_of_forms (origin : String) (query : Option (List (String × String)))
    (body : List (String × String)) :
    (∀ request : Request,
      request.url.query = (query.map fun pairs => (Form.encode pairs).toList) →
      request.body = (Form.encode body).toUTF8 →
      ∃ parameters, readParameters request = .ok parameters ∧
        ∀ name value, parameters[name]? = some value ↔
          LastValue (query.getD [] ++ body) name value) ∧
    ∃ url, Url.ofTarget? origin (target "/" (query.map Form.encode)) = some url ∧
      url.query = (query.map fun pairs => (Form.encode pairs).toList) ∧
      ∀ document phrase,
        Given (query.getD [] ++ body) "html" document →
        Given (query.getD [] ++ body) "keyPhrase" phrase →
        ∀ method ∈ [Method.get, .post],
          respond ⟨method, url, (Form.encode body).toUTF8⟩ =
            .ok (match rank .html document phrase with
              | .ok score => htmlResponse .ok (formatScore score ++ "\n")
              | .error error => queryErrorResponse error) := by
  constructor
  · rintro ⟨method, url, _⟩ isQuery rfl
    refine ⟨_, readParameters_of_text (Text.fromUTF8?_toUTF8 _), ?_⟩
    rw [carried_encode isQuery]
    exact holds_addAll _
  · have isQuery := query_ofName_encode origin [] query
    refine ⟨_, ofTarget?_rank origin _, isQuery, ?_⟩
    intro document phrase givenDocument givenPhrase method isRead
    rw [respond_rank origin _ isRead]
    rw [← carried_encode isQuery] at givenDocument givenPhrase
    exact rankPage_of_given (Text.fromUTF8?_toUTF8 _) givenDocument givenPhrase

theorem respond_of_forms_summer :
    ∃ url, Url.ofTarget? "http://localhost" "/?html=a+dog&keyPhrase=%C3%A9t%C3%A9" = some url ∧
      (∃ parameters,
        readParameters ⟨.get, url, "html=1%2B1+%C3%A9t%C3%A9".toUTF8⟩ = .ok parameters ∧
        parameters["html"]? = some "1+1 été") ∧
      respond ⟨.post, url, "html=1%2B1+%C3%A9t%C3%A9".toUTF8⟩ =
        .ok (match rank .html "1+1 été" "été" with
          | .ok score => htmlResponse .ok (formatScore score ++ "\n")
          | .error error => queryErrorResponse error) := by
  let query := [("html", "a dog"), ("keyPhrase", "été")]
  have isTarget : Form.encode query = "html=a+dog&keyPhrase=%C3%A9t%C3%A9" := by decide +kernel
  have isBody : Form.encode [("html", "1+1 été")] = "html=1%2B1+%C3%A9t%C3%A9" := by
    decide +kernel
  have document : LastValue (query ++ [("html", "1+1 été")]) "html" "1+1 été" :=
    ⟨query, [], rfl, by simp⟩
  have phrase : LastValue (query ++ [("html", "1+1 été")]) "keyPhrase" "été" :=
    ⟨[_], [_], rfl, by simp⟩
  obtain ⟨read, url, isUrl, isQuery, answers⟩ :=
    respond_of_forms "http://localhost" (some query) [("html", "1+1 été")]
  obtain ⟨parameters, isRead, holds⟩ := read ⟨.get, url, _⟩ isQuery rfl
  have answer := answers _ _ ⟨document, '1', by decide, rfl⟩ ⟨phrase, 't', by decide, rfl⟩ .post
    (by simp)
  rw [Option.map_some, isTarget] at isUrl
  rw [isBody] at isRead answer
  exact ⟨url, isUrl, ⟨parameters, isRead, (holds _ _).mpr document⟩, answer⟩

end Relevance.Service
