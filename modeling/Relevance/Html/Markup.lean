/-! Tags, comments and the elements whose contents are not text.

A tag ends at the first `>` outside quotes. If the quotes of a document never close, quotes stop
counting for the rest of it, so that no part of a document is scanned for its quotes twice; and a
text after which no `>` comes is not scanned at all.
-/

set_option autoImplicit false

namespace Relevance.Html

structure Scanner where
  lastClose : Option Nat
  /-- Set once a scan that heeds quotes has run off the end of the document. -/
  ignoreQuotes : Bool

def lastCloseFrom (offset : Nat) (found : Option Nat) : List Char → Option Nat
  | [] => found
  | c :: rest => lastCloseFrom (offset + 1) (if c = '>' then some offset else found) rest

def Scanner.start (document : List Char) : Scanner :=
  ⟨lastCloseFrom 0 none document, false⟩

/-- Cuts a text before its first suffix that satisfies a predicate. The part before it is collected
with its last character first. -/
def splitBefore? (p : List Char → Bool) (before : List Char) :
    List Char → Option (List Char × List Char)
  | [] => none
  | c :: rest =>
    if p (c :: rest) then some (before.reverse, c :: rest)
    else splitBefore? p (c :: before) rest

def splitClose? (inside : List Char) : List Char → Option (List Char × List Char)
  | [] => none
  | c :: rest =>
    if c = '>' then some (inside.reverse, rest) else splitClose? (c :: inside) rest

/-- Cuts a text at its first `>` outside quotes. The argument `quote` is the mark that closes the
quotation in which the text begins. -/
def splitQuotedClose? (quote : Option Char) (inside : List Char) :
    List Char → Option (List Char × List Char)
  | [] => none
  | c :: rest =>
    match quote with
    | some mark => splitQuotedClose? (if c = mark then none else some mark) (c :: inside) rest
    | none =>
      if c = '>' then some (inside.reverse, rest)
      else splitQuotedClose? (if c = '"' || c = '\x27' then some c else none) (c :: inside) rest

def Scanner.splitTag? (scanner : Scanner) (offset : Nat) (text : List Char) :
    Option (List Char × List Char) × Scanner :=
  if !scanner.lastClose.any (offset < ·) then (none, scanner)
  else if scanner.ignoreQuotes then (splitClose? [] text, scanner)
  else match splitQuotedClose? none [] text with
    | some split => (some split, scanner)
    | none => (splitClose? [] text, { scanner with ignoreQuotes := true })

inductive RawElement where
  | script
  | style
  deriving DecidableEq, Repr

def RawElement.name : RawElement → List Char
  | .script => ['s', 'c', 'r', 'i', 'p', 't']
  | .style => ['s', 't', 'y', 'l', 'e']

/-- The element that a tag opens, if its contents are not text. The name of the element is the
part of the tag before the first character that is no letter or digit; a tag that ends in a slash
opens nothing. -/
def RawElement.opened? (tag : List Char) : Option RawElement :=
  if tag.getLast? = some '/' then none
  else
    let name := (tag.takeWhile Char.isAlphanum).map Char.toLower
    if name = RawElement.script.name then some .script
    else if name = RawElement.style.name then some .style
    else none

def RawElement.closes (element : RawElement) (text : List Char) : Bool :=
  let closing := '<' :: '/' :: element.name
  (text.take closing.length).map Char.toLower == closing

structure Removal where
  output : List Char
  rest : List Char
  offset : Nat
  scanner : Scanner

namespace Scanner

/-- Removes a comment, from the text after its opening mark. One that is not closed runs to the
end of the document and leaves nothing. -/
def removeComment (scanner : Scanner) (offset : Nat) (text : List Char) : Removal :=
  match splitBefore? (['-', '-', '>'].isPrefixOf ·) [] text with
  | some (body, closing) => ⟨[' '], closing.drop 3, offset + body.length + 3, scanner⟩
  | none => ⟨[], [], offset, scanner⟩

/-- Removes the contents and the end tag of an element whose contents are not text, from the text
after its start tag. The contents of an element that is not closed run to the end of the document.
-/
def removeContents (scanner : Scanner) (element : RawElement) (offset : Nat) (text : List Char) :
    Removal :=
  match splitBefore? element.closes [] text with
  | some (body, closing) =>
    match scanner.splitTag? (offset + body.length) (closing.drop 1) with
    | (some (tag, rest), scanner) =>
      ⟨[' '], rest, offset + body.length + tag.length + 2, scanner⟩
    | (none, scanner) => ⟨[' '], [], offset, scanner⟩
  | none => ⟨[' '], [], offset, scanner⟩

def beginsTag : List Char → Bool
  | [] => false
  | c :: _ => c.isAlpha || c == '/' || c == '!' || c == '?'

def removeTag (scanner : Scanner) (offset : Nat) (text : List Char) : Removal :=
  if beginsTag text then
    match scanner.splitTag? offset text with
    | (some (tag, rest), scanner) =>
      match RawElement.opened? tag with
      | some element => scanner.removeContents element (offset + tag.length + 2) rest
      | none => ⟨[' '], rest, offset + tag.length + 2, scanner⟩
    | (none, scanner) => ⟨['<'], text, offset + 1, scanner⟩
  else ⟨['<'], text, offset + 1, scanner⟩

def removeMarkup (scanner : Scanner) (offset : Nat) (text : List Char) : Removal :=
  if ['!', '-', '-'].isPrefixOf text then scanner.removeComment (offset + 4) (text.drop 3)
  else scanner.removeTag offset text

end Scanner

variable {before inside text tag rest : List Char}

theorem append_of_splitBefore? {p : List Char → Bool} {body closing : List Char}
    (split : splitBefore? p before text = some (body, closing)) :
    before.reverse ++ text = body ++ closing ∧ p closing = true := by
  induction text generalizing before with
  | nil => contradiction
  | cons c text ih =>
    rw [splitBefore?] at split
    split at split
    · next begins =>
      obtain ⟨rfl, rfl⟩ := Prod.mk.inj (Option.some.inj split)
      exact ⟨rfl, begins⟩
    · simpa using ih split

theorem append_of_splitClose? (split : splitClose? inside text = some (tag, rest)) :
    inside.reverse ++ text = tag ++ '>' :: rest := by
  induction text generalizing inside with
  | nil => contradiction
  | cons c text ih =>
    rw [splitClose?] at split
    split at split
    · next isClose =>
      obtain ⟨rfl, rfl⟩ := Prod.mk.inj (Option.some.inj split)
      rw [isClose]
    · simpa using ih split

theorem append_of_splitQuotedClose? {quote : Option Char}
    (split : splitQuotedClose? quote inside text = some (tag, rest)) :
    inside.reverse ++ text = tag ++ '>' :: rest := by
  induction text generalizing quote inside with
  | nil => contradiction
  | cons c text ih =>
    rw [splitQuotedClose?.eq_def] at split
    dsimp only at split
    split at split
    · simpa using ih split
    · split at split
      · next isClose =>
        obtain ⟨rfl, rfl⟩ := Prod.mk.inj (Option.some.inj split)
        rw [isClose]
      · simpa using ih split

namespace Scanner

theorem append_of_splitTag? {scanner after : Scanner} {offset : Nat}
    (split : scanner.splitTag? offset text = (some (tag, rest), after)) :
    text = tag ++ '>' :: rest := by
  unfold splitTag? at split
  split at split
  · nomatch (Prod.mk.inj split).1
  · split at split
    · exact append_of_splitClose? (Prod.mk.inj split).1
    · split at split
      · next found => exact append_of_splitQuotedClose? (found.trans (Prod.mk.inj split).1)
      · exact append_of_splitClose? (Prod.mk.inj split).1

theorem suffix_of_splitTag? {scanner after : Scanner} {offset : Nat}
    (split : scanner.splitTag? offset text = (some (tag, rest), after)) : rest <:+ text := by
  rw [append_of_splitTag? split, List.append_cons]
  exact List.suffix_append _ _

variable (scanner : Scanner) (offset : Nat) (text : List Char)

theorem suffix_removeComment : (scanner.removeComment offset text).rest <:+ text := by
  unfold removeComment
  split
  · next body closing cut =>
    obtain rfl : text = body ++ closing := (append_of_splitBefore? cut).1
    exact (List.drop_suffix 3 closing).trans (List.suffix_append body closing)
  · exact List.nil_suffix

theorem suffix_removeContents (element : RawElement) :
    (scanner.removeContents element offset text).rest <:+ text := by
  unfold removeContents
  split
  · next body closing cut =>
    obtain rfl : text = body ++ closing := (append_of_splitBefore? cut).1
    split
    · next cut =>
      exact ((suffix_of_splitTag? cut).trans (List.drop_suffix 1 closing)).trans
        (List.suffix_append body closing)
    · exact List.nil_suffix
  · exact List.nil_suffix

theorem suffix_removeTag : (scanner.removeTag offset text).rest <:+ text := by
  unfold removeTag
  split
  · split
    · next cut =>
      split
      · exact (suffix_removeContents ..).trans (suffix_of_splitTag? cut)
      · exact suffix_of_splitTag? cut
    · exact List.suffix_rfl
  · exact List.suffix_rfl

/-- What is left behind a piece of markup is the end of the text. -/
theorem suffix_removeMarkup : (scanner.removeMarkup offset text).rest <:+ text := by
  unfold removeMarkup
  split
  · exact (suffix_removeComment ..).trans (List.drop_suffix 3 text)
  · exact suffix_removeTag ..

end Scanner

end Relevance.Html
