import Relevance.Service.Endpoint

/-! Which page answers a request. -/

set_option autoImplicit false

namespace Relevance.Service

def routes : List (Method × String × Page) :=
  [(.get, "", .rank), (.post, "", .rank),
    (.get, "_explain", .explain), (.post, "_explain", .explain),
    (.get, "_status", .status)]

def dropSlash (path : String) : String :=
  match path.toList with
  | '/' :: rest => String.ofList rest
  | _ => path

def page? (method : Method) (path : String) : Option Page :=
  (routes.find? fun (m, p, _) => m == method && p == dropSlash path).map fun (_, _, page) => page

def toggleSlash (url : Url) : Url :=
  match url.segments.reverse with
  | [] :: path => { url with segments := path.reverse }
  | _ => { url with segments := url.segments ++ [[]] }

/-- Answers a request as one of the given method, if a page is there with or without a slash at the
end. -/
def answer? (request : Request) (method : Method) : Option (Except Failure Response) :=
  match page? method request.url.path with
  | some page => some (page.answer request)
  | none =>
    let other := toggleSlash request.url
    if (page? method other.path).isSome then some (.error (.trailingSlash other)) else none

/-- The methods that a path answers; what answers GET answers HEAD. -/
def allowed (path : String) : List Method :=
  let methods := [Method.get, Method.post].filter fun method => (page? method path).isSome
  if methods.contains .get then methods ++ [.head] else methods

def respond (request : Request) : Except Failure Response :=
  match answer? request request.method with
  | some answer => answer
  | none =>
    match request.method with
    | .options => .ok { status := .ok, body := "", allow := some (allowed request.url.path) }
    | .head => (answer? request .get).getD (.error .noRoute)
    | _ => .error .noRoute

end Relevance.Service
