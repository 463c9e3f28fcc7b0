import Relevance.Text.Numeral

/-! Character references: an ampersand, a name or number, and a semicolon.

A reference of at most 32 bytes is replaced by the character that it stands for, or by a space if no
character has its name or number. Any other ampersand is text.
-/

set_option autoImplicit false

namespace Relevance.Html

structure Reference where
  value : Char
  /-- The number of characters up to the semicolon and with it. -/
  length : Nat
  rest : List Char

namespace Reference

/-- The number of bytes that a reference may take up after its ampersand. -/
def room : Nat := 31

/-- Cuts a text at the first semicolon, if that lies within the given number of bytes. The part
before the semicolon is collected with its last character first. -/
def splitSemicolon? (room : Nat) (body : List Char) : List Char → Option (List Char × List Char)
  | [] => none
  | c :: rest =>
    if room = 0 then none
    else if c = ';' then some (body.reverse, rest)
    else splitSemicolon? (room - c.utf8Size) (c :: body) rest

def scalar? (code : Nat) : Option Char :=
  if code.isValidChar then some (Char.ofNat code) else none

def numbered? : List Char → Option Char
  | 'x' :: digits | 'X' :: digits => (Text.Numeral.read? 16 digits).bind scalar?
  | digits => (Text.Numeral.read? 10 digits).bind scalar?

def named? (name : List Char) : Option Char :=
  if name = ['a', 'm', 'p'] then some '&'
  else if name = ['l', 't'] then some '<'
  else if name = ['g', 't'] then some '>'
  else if name = ['q', 'u', 'o', 't'] then some '"'
  else if name = ['a', 'p', 'o', 's'] then some '\x27'
  else none

/-- The character that a reference is replaced by, from what stands between the ampersand and the
semicolon; `none` if that is no reference at all. -/
def value? : List Char → Option Char
  | [] => none
  | '#' :: number => some ((numbered? number).getD ' ')
  | name => if name.all Char.isAlphanum then some ((named? name).getD ' ') else none

def read? (text : List Char) : Option Reference :=
  match splitSemicolon? room [] text with
  | none => none
  | some (body, rest) => (value? body).map fun value => ⟨value, body.length + 1, rest⟩

theorem length_of_splitSemicolon? {room : Nat} {body text before rest : List Char}
    (split : splitSemicolon? room body text = some (before, rest)) : rest.length < text.length := by
  induction text generalizing room body with
  | nil => simp [splitSemicolon?] at split
  | cons c text ih =>
    simp only [splitSemicolon?] at split
    split at split
    · simp at split
    · split at split
      · simp only [Option.some.injEq, Prod.mk.injEq] at split
        simp [split.2]
      · exact Nat.lt_succ_of_lt (ih split)

theorem rest_length {text : List Char} {reference : Reference}
    (found : read? text = some reference) : reference.rest.length < text.length := by
  unfold read? at found
  split at found
  · simp at found
  · next split =>
    obtain ⟨value, _, rfl⟩ := Option.map_eq_some_iff.mp found
    exact length_of_splitSemicolon? split

end Reference

end Relevance.Html
