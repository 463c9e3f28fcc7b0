import Mathlib
import Relevance.Html.Markup

/-! Well-formed documents, and the text that is seen of them.

A document is a run of pieces: characters, references, tags, comments, and elements whose contents
are not text. What is seen of markup is one space.
-/

set_option autoImplicit false

namespace Relevance.Html.Grammar

def numerals : List Char :=
  ['0', '1', '2', '3', '4', '5', '6', '7', '8', '9', 'a', 'b', 'c', 'd', 'e', 'f']

def IsNumber (base : Nat) (digits : List Char) : Prop :=
  digits ≠ [] ∧ ∀ c ∈ digits, c.toLower ∈ numerals.take base

def numberOf (base : Nat) (digits : List Char) : Nat :=
  digits.foldl (fun number c => number * base + numerals.idxOf c.toLower) 0

/-- The character with a number; a space if the number is none of a character. -/
def characterOf (number : Nat) : Char :=
  if number.isValidChar then Char.ofNat number else ' '

def entities : List (List Char × Char) :=
  [(['a', 'm', 'p'], '&'), (['l', 't'], '<'), (['g', 't'], '>'), (['q', 'u', 'o', 't'], '"'),
    (['a', 'p', 'o', 's'], '\x27')]

/-- What stands between an ampersand and a semicolon, and the character that is seen of it. -/
inductive Refers : List Char → Char → Prop where
  | named {name : List Char} : name ≠ [] → (∀ c ∈ name, c.isAlphanum = true) →
      Refers name ((entities.lookup name).getD ' ')
  | decimal {digits : List Char} : IsNumber 10 digits →
      Refers ('#' :: digits) (characterOf (numberOf 10 digits))
  | hexadecimal {mark : Char} {digits : List Char} : mark = 'x' ∨ mark = 'X' →
      IsNumber 16 digits → Refers ('#' :: mark :: digits) (characterOf (numberOf 16 digits))

inductive Closed : List Char → Prop where
  | nil : Closed []
  | plain {c : Char} {rest : List Char} : c ≠ '>' → c ≠ '"' → c ≠ '\x27' → Closed rest →
      Closed (c :: rest)
  | quotation {mark : Char} {body rest : List Char} : mark = '"' ∨ mark = '\x27' → mark ∉ body →
      Closed rest → Closed (mark :: (body ++ mark :: rest))

inductive IsName : List Char → Prop where
  | letter {first : Char} {rest : List Char} : first.isAlpha = true →
      (∀ c ∈ rest, c.isAlphanum = true) → IsName (first :: rest)

def Spells (element : RawElement) (name : List Char) : Prop :=
  name.map Char.toLower = element.name

structure Attributes (text : List Char) : Prop where
  apart : ∀ c, text.head? = some c → c.isAlphanum = false
  closed : Closed text

/-- A piece of a document, and what is seen of it. -/
inductive Piece : List Char → List Char → Prop where
  | character {c : Char} : c ≠ '<' → c ≠ '&' → Piece [c] [c]
  | reference {body : List Char} {value : Char} : Refers body value →
      (body.map Char.utf8Size).sum + 2 ≤ 32 → Piece ('&' :: (body ++ [';'])) [value]
  | startTag {name attributes : List Char} : IsName name → (∀ element, ¬Spells element name) →
      Attributes attributes → Piece ('<' :: (name ++ attributes ++ ['>'])) [' ']
  | endTag {name attributes : List Char} : IsName name → Attributes attributes →
      Piece ('<' :: '/' :: (name ++ attributes ++ ['>'])) [' ']
  | declaration {mark : Char} {text : List Char} : mark = '!' ∨ mark = '?' → Closed text →
      ¬['!', '-', '-'] <+: mark :: text → Piece ('<' :: mark :: (text ++ ['>'])) [' ']
  | comment {body : List Char} : ¬['-', '-', '>'] <:+: body →
      Piece ('<' :: '!' :: '-' :: '-' :: (body ++ ['-', '-', '>'])) [' ']
  | element {element : RawElement} {name attributes body name' rest : List Char} :
      Spells element name → Attributes attributes → attributes.getLast? ≠ some '/' →
      ¬('<' :: '/' :: element.name <:+: body.map Char.toLower) →
      Spells element name' → Closed rest →
      Piece ('<' :: (name ++ attributes ++ '>' :: (body ++ '<' :: '/' :: (name' ++ rest ++ ['>']))))
        [' ']

inductive Document : List Char → List Char → Prop where
  | nil : Document [] []
  | cons {source visible rest text : List Char} : Piece source visible → Document rest text →
      Document (source ++ rest) (visible ++ text)

end Relevance.Html.Grammar
