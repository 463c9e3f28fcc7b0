import Relevance.Options
import Relevance.Ranking
import Relevance.Service.Form
import Relevance.Service.Json
import Relevance.Service.Url
import Relevance.Unicode.Properties

/-! The pages of the service: the score of a document, its explanation, and the state of the
service. -/

set_option autoImplicit false

namespace Relevance.Service

inductive Method where
  | get
  | post
  | head
  | options
  | other (name : String)
  deriving DecidableEq, Repr

namespace Method

def ofName : String → Method
  | "GET" => get
  | "POST" => post
  | "HEAD" => head
  | "OPTIONS" => options
  | name => other name

def name : Method → String
  | get => "GET"
  | post => "POST"
  | head => "HEAD"
  | options => "OPTIONS"
  | other name => name

end Method

structure Request where
  method : Method
  url : Url
  body : ByteArray

inductive Status where
  | ok
  | movedPermanently
  | badRequest
  | notFound
  deriving DecidableEq, Repr

def Status.code : Status → Nat
  | ok => 200
  | movedPermanently => 301
  | badRequest => 400
  | notFound => 404

inductive ContentType where
  | json
  | html
  deriving DecidableEq, Repr

def ContentType.text : ContentType → String
  | json => "application/json"
  | html => "text/html;charset=utf-8"

structure Response where
  status : Status
  body : String
  contentType : Option ContentType := none
  allow : Option (List Method) := none
  deriving DecidableEq, Repr

inductive Failure where
  | noRoute
  /-- The location exists with a slash more or less. -/
  | trailingSlash (location : Url)
  | bodyNotText
  deriving DecidableEq, Repr

namespace Failure

def status : Failure → Status
  | noRoute => .notFound
  | trailingSlash _ => .movedPermanently
  | bodyNotText => .badRequest

def body : Failure → String
  | noRoute | trailingSlash _ => ""
  | bodyNotText => "Couldn't read request body"

def message : Failure → String
  | noRoute => "No matching route found."
  | trailingSlash _ => "The request had a trailing slash."
  | bodyNotText => "stream did not contain valid UTF-8"

def location? : Failure → Option Url
  | trailingSlash location => some location
  | _ => none

end Failure

def greeting : String := "<h1>Ranker2 - please give me some work to do</h1>\n"

def missingParameter : String :=
  "\x7b\"message\": \"Missing html or keyPhrase parameter\"\x7d"

def jsonResponse (status : Status) (body : String) : Response :=
  { status, body, contentType := some .json }

def htmlResponse (status : Status) (body : String) : Response :=
  { status, body, contentType := some .html }

def queryErrorResponse (error : Query.ParseError) : Response :=
  jsonResponse .badRequest (Json.object
    [("error", .string error.message), ("message", .string "Query error")]).text

def readParameters (request : Request) : Except Failure Parameters := do
  let some body := String.fromUTF8? request.body | throw .bodyNotText
  let query := String.ofList (request.url.query.getD [])
  return (Parameters.addAll {} (Form.pairs query.toUTF8.toList)).addAll
    (Form.pairs body.toUTF8.toList)

def nonBlank? (parameters : Parameters) (name : String) : Option String :=
  parameters[name]?.filter fun value => !value.toList.all Unicode.isWhitespace

def work? (parameters : Parameters) : Option (String × String) :=
  match nonBlank? parameters "html", nonBlank? parameters "keyPhrase" with
  | some document, some query => some (document, query)
  | _, _ => none

def rankPage (request : Request) : Except Failure Response := do
  match work? (← readParameters request) with
  | none => return htmlResponse .ok greeting
  | some (document, query) =>
    match rank .html document query with
    | .ok score => return htmlResponse .ok (formatScore score ++ "\n")
    | .error error => return queryErrorResponse error

def explainPage (request : Request) : Except Failure Response := do
  match work? (← readParameters request) with
  | none => return jsonResponse .badRequest missingParameter
  | some (document, query) =>
    match explain .html document query with
    | .ok explanation => return jsonResponse .ok (Json.ofExplanation explanation).text
    | .error error => return queryErrorResponse error

def statusPage : Response :=
  jsonResponse .ok (Json.object
    [("name", .string "ranker"), ("version", .object [("number", .string version)])]).text

inductive Page where
  | rank
  | explain
  | status
  deriving DecidableEq, Repr

def Page.answer : Page → Request → Except Failure Response
  | rank, request => rankPage request
  | explain, request => explainPage request
  | status, _ => .ok statusPage

end Relevance.Service
