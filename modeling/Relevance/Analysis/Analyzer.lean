import Relevance.Html.Strip
import Relevance.Text.Segment
import Relevance.Unicode.Case
import Relevance.Unicode.Properties

/-! Analyzers: what is done to a text on its way to tokens. Documents and queries go through the
same analyzer, so that equal words become equal terms. -/

set_option autoImplicit false

namespace Relevance

namespace Text

def meetsCased (text : List Char) : Bool :=
  (text.find? (!Unicode.isCaseIgnorable ·)).any Unicode.isCased

/-- The lower-case form of a capital sigma between the text before it, nearest character first, and
the text after it. It is final if a cased letter comes before it and none after it. -/
def lowercaseSigma (before after : List Char) : Char :=
  if meetsCased before && !meetsCased after then 'ς' else 'σ'

def lowercaseFrom (before done : List Char) : List Char → List Char
  | [] => done.reverse
  | c :: rest =>
    let form := if c = 'Σ' then [lowercaseSigma before rest] else Unicode.lowercase c
    lowercaseFrom (c :: before) (form.reverse ++ done) rest

def lowercase (text : String) : String :=
  String.ofList (lowercaseFrom [] [] text.toList)

end Text

namespace Analysis

structure Token where
  term : String
  position : UInt32
  deriving DecidableEq, Repr

/-- The terms of a text: the maximal runs of alphanumeric characters within its segments. A segment
without such a character holds no term, and "can't" holds two. -/
def terms (text : String) : List String :=
  ((Text.segments text.toList).flatMap (Text.runs Unicode.isAlphanumeric)).map String.ofList

def numbered (terms : List String) : List Token :=
  terms.zipIdx.map fun (term, place) => ⟨term, UInt32.ofNat place⟩

def tokenize (text : String) : List Token :=
  numbered (terms text)

inductive CharFilter where
  | stripHtml
  deriving DecidableEq, Repr

def CharFilter.apply : CharFilter → String → String
  | .stripHtml => Html.strip

inductive TokenFilter where
  | lowercase
  deriving DecidableEq, Repr

def TokenFilter.apply : TokenFilter → Token → Token
  | .lowercase, token => { token with term := Text.lowercase token.term }

structure Analyzer where
  charFilters : List CharFilter := [.stripHtml]
  tokenFilters : List TokenFilter := [.lowercase]
  deriving DecidableEq, Repr

namespace Analyzer

def html : Analyzer := {}

def analyze (analyzer : Analyzer) (text : String) : List Token :=
  let text := analyzer.charFilters.foldl (fun text filter => filter.apply text) text
  analyzer.tokenFilters.foldl (fun tokens filter => tokens.map filter.apply) (tokenize text)

def termsOf (analyzer : Analyzer) (text : String) : List String :=
  (analyzer.analyze text).map Token.term

end Analyzer

end Analysis

end Relevance
