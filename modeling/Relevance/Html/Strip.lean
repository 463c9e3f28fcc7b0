import Relevance.Html.Markup
import Relevance.Html.Reference

/-! Documents without their markup.

A tag or comment becomes one space, so that the text of neighbouring elements does not run together;
scripts and style sheets are dropped with their tags; character references are replaced by what they
stand for and are not read again. The work is linear in the length of the document.
-/

set_option autoImplicit false

namespace Relevance.Html

/-- Removes the markup from the rest of a document, which begins at the given offset. The output is
collected with its last character first. -/
def stripFrom (scanner : Scanner) (offset : Nat) (output : List Char) : List Char → List Char
  | [] => output.reverse
  | c :: rest =>
    if c = '<' then
      let removal := scanner.removeMarkup offset rest
      stripFrom removal.scanner removal.offset (removal.output ++ output) removal.rest
    else if c = '&' then
      match found : Reference.read? rest with
      | some reference =>
        stripFrom scanner (offset + reference.length + 1) (reference.value :: output) reference.rest
      | none => stripFrom scanner (offset + 1) (c :: output) rest
    else stripFrom scanner (offset + 1) (c :: output) rest
termination_by text => text.length
decreasing_by
  · exact Nat.lt_succ_of_le (Scanner.suffix_removeMarkup ..).length_le
  · exact Nat.lt_succ_of_lt (Reference.rest_length found)
  · exact Nat.lt_succ_self _
  · exact Nat.lt_succ_self _

def hasMarkup (text : String) : Bool :=
  text.toList.any fun c => c = '<' || c = '&'

def strip (document : String) : String :=
  if hasMarkup document then
    let chars := document.toList
    String.ofList (stripFrom (Scanner.start chars) 0 [] chars)
  else document

end Relevance.Html
