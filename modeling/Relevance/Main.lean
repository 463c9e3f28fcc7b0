import Relevance.Options
import Relevance.Service.Routing

/-! The program: reads its options, and answers the requests on its standard input one by one. -/

set_option autoImplicit false

namespace Relevance

namespace Service

def splitSpace (text : List Char) : List Char × List Char :=
  (text.takeWhile (· ≠ ' '), (text.dropWhile (· ≠ ' ')).drop 1)

def Request.ofLine? (origin line : String) : Option Request :=
  let (method, rest) := splitSpace line.toList
  let (target, body) := splitSpace rest
  (Url.ofTarget? origin (String.ofList target)).map fun url =>
    ⟨Method.ofName (String.ofList method), url, (String.ofList body).toUTF8⟩

def showAnswer : Except Failure Response → String
  | .ok response => toString response.status.code ++ " " ++ response.body
  | .error failure => toString failure.status.code ++ " " ++ failure.message

end Service

partial def serve (origin : String) (input output : IO.FS.Stream) : IO Unit := do
  let line ← input.getLine
  unless line.isEmpty do
    match Service.Request.ofLine? origin (line.takeWhile (· ≠ '\n')).toString with
    | some request => output.putStrLn (Service.showAnswer (Service.respond request))
    | none => output.putStrLn "no request"
    output.flush
    serve origin input output

def run (arguments : List String) : IO UInt32 := do
  match Options.ofArguments arguments (← IO.getEnv Options.bindVariable) with
  | .ok options =>
    IO.println ("ranker (" ++ version ++ ")\n")
    serve ("http://" ++ options.bind) (← IO.getStdin) (← IO.getStdout)
    return 0
  | .error refusal =>
    if refusal.isRequest then
      IO.println refusal.message
      return 0
    else
      IO.eprintln refusal.message
      return 2

end Relevance

def main (arguments : List String) : IO UInt32 :=
  Relevance.run arguments
