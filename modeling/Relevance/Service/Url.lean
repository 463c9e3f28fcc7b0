/-! The locations of requests.

A target is read as browsers do: dots are resolved, a backslash is a slash, tabs and line ends are
left out, and what may not stand in a location is percent-encoded byte by byte.
-/

set_option autoImplicit false

namespace Relevance.Service

/-- A location below the root of a server. All parts are percent-encoded. -/
structure Url where
  origin : String
  /-- The path between its slashes, without the first slash. -/
  segments : List (List Char)
  query : Option (List Char)
  fragment : Option (List Char)
  deriving DecidableEq, Repr

namespace Url

def hexDigit (n : Nat) : Char :=
  (Nat.digitChar n).toUpper

def percentByte (byte : UInt8) : List Char :=
  ['%', hexDigit (byte.toNat / 16), hexDigit (byte.toNat % 16)]

def encodeChar (isSpecial : Char → Bool) (c : Char) : List Char :=
  if c < ' ' || '~' < c || isSpecial c then (String.utf8EncodeChar c).flatMap percentByte else [c]

def isSpecialInQuery (c : Char) : Bool :=
  c == ' ' || c == '"' || c == '#' || c == '<' || c == '>'

def isSpecialInPath (c : Char) : Bool :=
  isSpecialInQuery c || c == '\x60' || c == '?' || c == '\x7b' || c == '\x7d'

abbrev Path : Type := List (List Char)

def dots : List (List Char) := [['.'], ['%', '2', 'e'], ['%', '2', 'E']]

def isParent (segment : List Char) : Bool :=
  dots.any fun first => dots.any fun second => segment = first ++ second

def addDirectory (path : Path) (segment : List Char) : Path :=
  if isParent segment then path.drop 1
  else if dots.contains segment then path
  else segment :: path

def close (path : Path) (segment : List Char) : List (List Char) :=
  let path := addDirectory path segment
  -- a path that ends in dots ends in a slash
  let last := if isParent segment || dots.contains segment then [[]] else []
  path.reverse ++ last

/-- Reads the rest of a path. The segment that the rest continues is given with its last character
first. Also returns the text after the path. -/
def readPath (path : Path) (segment : List Char) : List Char → List (List Char) × List Char
  | [] => (close path segment.reverse, [])
  | c :: rest =>
    if c = '/' || c = '\\' then readPath (addDirectory path segment.reverse) [] rest
    else if c = '?' || c = '#' then (close path segment.reverse, c :: rest)
    else readPath path ((encodeChar isSpecialInPath c).reverse ++ segment) rest

def readFragment : List Char → Option (List Char)
  | [] => none
  | _ :: text => some ((text.filter (· ≠ '\x00')).flatMap (encodeChar fun _ => false))

def readQuery : List Char → Option (List Char) × Option (List Char)
  | '?' :: text =>
    (some ((text.takeWhile (· ≠ '#')).flatMap (encodeChar isSpecialInQuery)),
      readFragment (text.dropWhile (· ≠ '#')))
  | text => (none, readFragment text)

/-- The characters of a target that count: spaces and controls at its end do not, nor do tabs and
line ends anywhere. -/
def significant (target : String) : List Char :=
  let trimmed := (target.toList.reverse.dropWhile (· ≤ ' ')).reverse
  trimmed.filter fun c => c ≠ '\t' && c ≠ '\n' && c ≠ '\r'

/-- The location that a target denotes below an origin; none if the target would change the
origin. -/
def ofTarget? (origin target : String) : Option Url :=
  let build (text : List Char) : Option Url :=
    let (segments, text) := readPath [] [] text
    let (query, fragment) := readQuery text
    some ⟨origin, segments, query, fragment⟩
  match significant target with
  | [] => build []
  | c :: rest =>
    if c = '/' || c = '\\' then build rest
    else if c = '?' || c = '#' then build (c :: rest)
    else none

def joinSegments (segments : List (List Char)) : String :=
  "/".intercalate (segments.map String.ofList)

def path (url : Url) : String :=
  joinSegments url.segments

def text (url : Url) : String :=
  let part (mark : String) (content : Option (List Char)) : String :=
    match content with
    | some content => mark ++ String.ofList content
    | none => ""
  url.origin ++ "/" ++ url.path ++ part "?" url.query ++ part "#" url.fragment

end Url

end Relevance.Service
