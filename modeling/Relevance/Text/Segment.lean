import Relevance.Unicode.WordBreak

/-! Texts cut into pieces: segments between word boundaries, by the default rules of Unicode text
segmentation, and maximal runs of one kind of character.

Whether a boundary lies before a character depends on a bounded summary of the text before it, on
the character, and on the first character after it that the rules do not pass over. One rule is
narrower than the default: a pictograph after a joiner is part of a picture, so nothing but marks
and further joined pictographs follows it in its segment, even if it is a letter as well.
-/

set_option autoImplicit false

namespace Relevance.Unicode.WordBreak

def isLineEnd : WordBreak → Bool
  | .cr | .lf | .newline => true
  | _ => false

/-- Marks and controls that belong to the character before them and are passed over by the rules. -/
def isIgnored : WordBreak → Bool
  | .extend | .format | .zwj => true
  | _ => false

def isLetter : WordBreak → Bool
  | .aLetter | .hebrewLetter => true
  | _ => false

def isBetweenLetters : WordBreak → Bool
  | .midLetter | .midNumLet | .singleQuote => true
  | _ => false

def isBetweenDigits : WordBreak → Bool
  | .midNum | .midNumLet | .singleQuote => true
  | _ => false

def isConnected : WordBreak → Bool
  | .aLetter | .hebrewLetter | .numeric | .katakana => true
  | _ => false

end Relevance.Unicode.WordBreak

namespace Relevance.Text

open Unicode

structure Boundary where
  last : WordBreak
  /-- The class of the last character that is not ignored. -/
  base : WordBreak
  /-- The class of the character before that one which is not ignored. -/
  previous : WordBreak
  oddIndicators : Bool
  deriving DecidableEq, Repr

namespace Boundary

def start (c : Char) : Boundary :=
  let next := WordBreak.ofChar c
  ⟨next, next, .other, next == .regionalIndicator⟩

def joinsPictograph (before : Boundary) (c : Char) : Bool :=
  before.last == .zwj && isPictographic c

/-- The class that a character has after a text; a joined pictograph counts as no letter. -/
def classAfter (before : Boundary) (c : Char) : WordBreak :=
  if before.joinsPictograph c then .other else WordBreak.ofChar c

def push (before : Boundary) (c : Char) : Boundary :=
  let next := before.classAfter c
  -- a mark after a line end has nothing to belong to and stands for itself
  if next.isIgnored && !before.last.isLineEnd then { before with last := next }
  else ⟨next, next, before.base, next == .regionalIndicator && !before.oddIndicators⟩

def following (rest : List Char) : Option WordBreak :=
  (rest.find? fun c => !(WordBreak.ofChar c).isIgnored).map WordBreak.ofChar

/-- Whether the rules that pass over ignored characters keep the base and the next character in one
segment. -/
def joinsBase (before : Boundary) (next : WordBreak) (rest : List Char) : Bool :=
  let base := before.base
  let previous := before.previous
  -- letters, and punctuation between letters
  (base.isLetter && next.isLetter) ||
  (base.isLetter && next.isBetweenLetters && (following rest).any (·.isLetter)) ||
  (previous.isLetter && base.isBetweenLetters && next.isLetter) ||
  -- quotation marks used as letters in Hebrew
  (base == .hebrewLetter && next == .singleQuote) ||
  (base == .hebrewLetter && next == .doubleQuote && following rest == some .hebrewLetter) ||
  (previous == .hebrewLetter && base == .doubleQuote && next == .hebrewLetter) ||
  -- digits, and punctuation between digits
  (base == .numeric && next == .numeric) ||
  (base.isLetter && next == .numeric) ||
  (base == .numeric && next.isLetter) ||
  (previous == .numeric && base.isBetweenDigits && next == .numeric) ||
  (base == .numeric && next.isBetweenDigits && following rest == some .numeric) ||
  -- Katakana and connectors
  (base == .katakana && next == .katakana) ||
  ((base.isConnected || base == .extendNumLet) && next == .extendNumLet) ||
  (base == .extendNumLet && next.isConnected) ||
  -- flags are pairs of regional indicators
  (base == .regionalIndicator && next == .regionalIndicator && before.oddIndicators)

def joins (before : Boundary) (c : Char) (rest : List Char) : Bool :=
  let next := WordBreak.ofChar c
  if before.last == .cr && next == .lf then true
  else if before.last.isLineEnd || next.isLineEnd then false
  else if before.joinsPictograph c then true
  else if before.last == .wSegSpace && next == .wSegSpace then true
  else next.isIgnored || before.joinsBase next rest

end Boundary

/-- Cuts the rest of a text at its word boundaries. The segment that the rest continues and the
segments before it are given with their last part first. -/
def segmentsFrom (before : Boundary) (segment : List Char) (done : List (List Char)) :
    List Char → List (List Char)
  | [] => (segment.reverse :: done).reverse
  | c :: rest =>
    if before.joins c rest then segmentsFrom (before.push c) (c :: segment) done rest
    else segmentsFrom (before.push c) [c] (segment.reverse :: done) rest

def segments : List Char → List (List Char)
  | [] => []
  | c :: rest => segmentsFrom (Boundary.start c) [c] [] rest

def endRun (run : List Char) (done : List (List Char)) : List (List Char) :=
  if run.isEmpty then done else run.reverse :: done

def runsFrom (p : Char → Bool) (run : List Char) (done : List (List Char)) :
    List Char → List (List Char)
  | [] => (endRun run done).reverse
  | c :: rest =>
    if p c then runsFrom p (c :: run) done rest
    else runsFrom p [] (endRun run done) rest

def runs (p : Char → Bool) (text : List Char) : List (List Char) :=
  runsFrom p [] [] text

end Relevance.Text
