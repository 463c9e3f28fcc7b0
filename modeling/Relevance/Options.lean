import Relevance.Text.Numeral
import Relevance.Unicode.Printable

/-! The options of the program: the address to listen on, from the command line or the
environment.

Arguments are read in order. A value that stands in an argument of its own is examined only when
the next known option is read or the arguments end; an argument that is not understood is reported
before that.
-/

set_option autoImplicit false

namespace Relevance

namespace Text.Quoted

def escapeCode (c : Char) : List Char :=
  ['\\', 'u', '\x7b'] ++ Nat.toDigits 16 c.toNat ++ ['\x7d']

def escape (c : Char) : List Char :=
  match c with
  | '\x00' => ['\\', '0']
  | '\t' => ['\\', 't']
  | '\n' => ['\\', 'n']
  | '\r' => ['\\', 'r']
  | '"' => ['\\', '"']
  | '\\' => ['\\', '\\']
  | c => if Unicode.isPrintable c then [c] else escapeCode c

def encode (text : String) : String :=
  String.ofList ('"' :: text.toList.flatMap escape ++ ['"'])

end Text.Quoted

def version : String := "0.0.1"

structure Options where
  bind : String := "0.0.0.0:8080"
  deriving DecidableEq, Repr

namespace Options

def bindVariable : String := "RANKER_BIND"

inductive Refusal where
  | missingValue
  | unknownArgument
  | repeatedOption
  /-- A value is attached to an option that takes none. -/
  | unneededValue
  | invalidAddress (value : String)
  | helpWanted
  | versionWanted
  deriving DecidableEq, Repr

/-- Whether a text is a non-empty host, a colon and the number of a port. The last colon counts. -/
def isAddress (text : String) : Bool :=
  let reversed := text.toList.reverse
  let port := (reversed.takeWhile (· ≠ ':')).reverse
  match reversed.dropWhile (· ≠ ':') with
  | ':' :: _ :: _ => (Text.Numeral.read? 10 port).any (· < 65536)
  | _ => false

def address (text : String) : Except Refusal String :=
  if isAddress text then .ok text else .error (.invalidAddress text)

namespace Refusal

def message : Refusal → String
  | missingValue => "a value is required for --bind"
  | unknownArgument => "unexpected argument"
  | repeatedOption => "--bind cannot be used twice"
  | unneededValue => "unexpected value for an option that takes none"
  | invalidAddress value =>
    "invalid bind address " ++ Text.Quoted.encode value ++ ", expected host:port"
  | helpWanted =>
    "Scores how well a key phrase matches an HTML document\n\n" ++
    "Usage: ranker [--bind HOST:PORT]"
  | versionWanted => "ranker " ++ version

def isRequest : Refusal → Bool
  | helpWanted | versionWanted => true
  | _ => false

end Refusal

inductive Argument where
  /-- Two hyphens alone: nothing after them is an option. -/
  | separator
  | long (name : String) (value : Option String)
  /-- One hyphen and letters, of which the first is given. -/
  | short (letter : Char)
  | plain (text : String)
  deriving DecidableEq, Repr

def Argument.ofText (text : String) : Argument :=
  match text.toList with
  | ['-', '-'] => .separator
  | '-' :: '-' :: rest =>
    let name := String.ofList (rest.takeWhile (· ≠ '='))
    match rest.dropWhile (· ≠ '=') with
    | [] => .long name none
    | _ :: value => .long name (some (String.ofList value))
  | '-' :: letter :: _ => .short letter
  -- a hyphen alone is plain text
  | _ => .plain text

/-- A `--bind` whose value is an argument of its own and is not examined yet. -/
inductive Pending where
  | nothing
  | awaited
  | given (value : String)
  deriving DecidableEq, Repr

structure Progress where
  bind : Option String := none
  pending : Pending := .nothing
  deriving DecidableEq, Repr

namespace Progress

def accept (progress : Progress) (value : String) : Except Refusal Progress :=
  if progress.bind.isSome then .error .repeatedOption
  else (address value).map fun value => ⟨some value, .nothing⟩

def settle (progress : Progress) : Except Refusal Progress :=
  match progress.pending with
  | .nothing => .ok progress
  | .awaited => .error .missingValue
  | .given value => accept progress value

def step (progress : Progress) : Argument → Except Refusal Progress
  | .long "bind" (some value) => do (← progress.settle).accept value
  | .long "bind" none => do return { ← progress.settle with pending := .awaited }
  | .long "help" none | .short 'h' => do
    let _ ← progress.settle
    throw .helpWanted
  | .long "version" none | .short 'V' => do
    let _ ← progress.settle
    throw .versionWanted
  | .long "help" (some _) | .long "version" (some _) => .error .unneededValue
  | .plain text =>
    if progress.pending = .awaited then .ok { progress with pending := .given text }
    else .error .unknownArgument
  | _ => .error .unknownArgument

def read (progress : Progress) : List String → Except Refusal Progress
  | [] => progress.settle
  | text :: rest =>
    match Argument.ofText text with
    -- nothing may stand after the separator
    | .separator => if rest.isEmpty then progress.settle else .error .unknownArgument
    | argument => do read (← progress.step argument) rest

end Progress

def ofArguments (arguments : List String) (environment : Option String) :
    Except Refusal Options := do
  match (← Progress.read {} arguments).bind, environment with
  | some value, _ => return ⟨value⟩
  | none, some value => return ⟨← address value⟩
  | none, none => return {}

end Options

end Relevance
