import Relevance.Html.Strip
import Relevance.Proofs.References
import Relevance.Proofs.Splitting

/-! A well-formed document is stripped to what is seen of it.

Every `>` that a piece ends with lies ahead of the piece, so the last one of the document does; and
no search that heeds quotes runs off the end, so quotes are heeded throughout.
-/

set_option autoImplicit false

namespace Relevance.Html

open Grammar

variable {scanner : Scanner} {offset : Nat} {output source visible text tag front rest : List Char}

/-- The scanner heeds quotes, and it knows of every `>` in the text at an offset. -/
structure Scanner.Sees (scanner : Scanner) (offset : Nat) (text : List Char) : Prop where
  heeds : scanner.ignoreQuotes = false
  ahead : ∀ before after, text = before ++ '>' :: after →
    ∃ last, scanner.lastClose = some last ∧ offset + before.length ≤ last

theorem lastCloseFrom_some (found : Nat) (text : List Char) (earlier : found ≤ offset) :
    ∃ last, lastCloseFrom offset (some found) text = some last ∧ found ≤ last := by
  induction text generalizing offset found with
  | nil => exact ⟨found, rfl, Nat.le_refl found⟩
  | cons c text ih =>
    rw [lastCloseFrom]
    split
    · obtain ⟨last, isLast, later⟩ := ih offset (Nat.le_succ offset)
      exact ⟨last, isLast, Nat.le_trans earlier later⟩
    · exact ih found (Nat.le_succ_of_le earlier)

theorem lastCloseFrom_append {found : Option Nat} (before after : List Char) :
    ∃ last, lastCloseFrom offset found (before ++ '>' :: after) = some last ∧
      offset + before.length ≤ last := by
  induction before generalizing offset found with
  | nil =>
    rw [List.nil_append, lastCloseFrom, if_pos rfl]
    exact lastCloseFrom_some offset after (Nat.le_succ offset)
  | cons c before ih =>
    rw [List.cons_append, lastCloseFrom, List.length_cons, Nat.add_comm before.length,
      ← Nat.add_assoc]
    exact ih

theorem Scanner.sees_start (document : List Char) : (start document).Sees 0 document where
  heeds := rfl
  ahead before after same := by
    subst same
    exact lastCloseFrom_append before after

theorem Scanner.Sees.skip (sees : scanner.Sees offset (front ++ rest)) :
    scanner.Sees (offset + front.length) rest where
  heeds := sees.heeds
  ahead before after same := by
    have ahead := sees.ahead (front ++ before) after (by rw [same, List.append_assoc])
    rwa [List.length_append, ← Nat.add_assoc] at ahead

theorem Scanner.Sees.behindTag (sees : scanner.Sees offset ('<' :: (tag ++ '>' :: rest))) :
    scanner.Sees (offset + tag.length + 2) rest := by
  rw [List.append_cons, ← List.cons_append] at sees
  have behind := sees.skip
  rwa [List.length_cons, List.length_append, List.length_singleton] at behind

theorem Scanner.Sees.splitTag? (sees : scanner.Sees offset ('<' :: (tag ++ '>' :: rest)))
    (closed : Closed tag) :
    scanner.splitTag? offset (tag ++ '>' :: rest) = (some (tag, rest), scanner) := by
  have ahead : scanner.lastClose.any (offset < ·) = true := by
    obtain ⟨last, isLast, behind⟩ := sees.ahead ('<' :: tag) rest rfl
    rw [List.length_cons] at behind
    rw [isLast, Option.any_some]
    exact decide_eq_true (by omega)
  rw [Scanner.splitTag?, if_neg (by simp [ahead]), if_neg (by simp [sees.heeds]),
    closed.splitQuotedClose?]
  rfl

theorem Grammar.Spells.isName {element : RawElement} {name : List Char}
    (spells : Spells element name) : IsName name := by
  have letters : ∀ c ∈ name, c.isAlpha = true := by
    intro c inside
    have lower : c.toLower ∈ element.name := spells ▸ List.mem_map_of_mem inside
    have all : element.name.all Char.isAlpha = true := by cases element <;> decide
    rw [← Char.isAlpha_toLower_eq_isAlpha]
    exact List.all_eq_true.mp all _ lower
  cases name with
  | nil => cases element <;> exact nomatch spells
  | cons first rest =>
    rw [List.forall_mem_cons] at letters
    exact .letter letters.1 fun c inside => by simp [Char.isAlphanum, letters.2 c inside]

namespace RawElement

theorem opened?_cons {mark : Char} (apart : mark.isAlphanum = false) :
    opened? (mark :: text) = none := by
  have noName : (mark :: text).takeWhile Char.isAlphanum = [] := by simp [apart]
  rw [opened?, noName]
  split <;> rfl

theorem opened?_of_name {name attributes : List Char} (isName : IsName name)
    (ordinary : ∀ element, ¬Spells element name) (isAttributes : Attributes attributes) :
    opened? (name ++ attributes) = none := by
  rw [opened?, takeWhile_name isName.alphanumeric isAttributes.apart]
  split
  · rfl
  · exact (if_neg (ordinary .script)).trans (if_neg (ordinary .style))

theorem opened?_of_spells {element : RawElement} {name attributes : List Char}
    (spells : Spells element name) (isAttributes : Attributes attributes)
    (noSlash : attributes.getLast? ≠ some '/') :
    opened? (name ++ attributes) = some element := by
  have letters := spells.isName.alphanumeric
  have unended : (name ++ attributes).getLast? ≠ some '/' := by
    rw [List.getLast?_append]
    cases last : attributes.getLast? with
    | none =>
      intro ended
      exact absurd (letters '/' (List.mem_of_getLast? ended)) (by decide)
    | some c => rwa [last] at noSlash
  rw [opened?, takeWhile_name letters isAttributes.apart, if_neg unended]
  change (if name.map Char.toLower = _ then _ else _) = _
  rw [spells]
  cases element <;> rfl

end RawElement

theorem Grammar.Closed.letters {name rest : List Char} (isName : ∀ c ∈ name, c.isAlphanum = true)
    (closed : Closed rest) : Closed (name ++ rest) := by
  induction name with
  | nil => exact closed
  | cons c name ih =>
    rw [List.forall_mem_cons] at isName
    have alphanumeric := isName.1
    refine .plain ?_ ?_ ?_ (ih isName.2) <;> rintro rfl <;> contradiction

theorem Grammar.IsName.beginsTag {name attributes : List Char} (isName : IsName name) :
    Scanner.beginsTag (name ++ attributes) = true := by
  cases isName with
  | letter letter others => simp [Scanner.beginsTag, letter]

theorem Grammar.IsName.noComment {name attributes : List Char} (isName : IsName name) :
    ¬['!', '-', '-'] <+: name ++ attributes := by
  cases isName with
  | letter letter others =>
    intro begins
    rw [List.cons_append, List.cons_prefix_cons] at begins
    obtain ⟨rfl, -⟩ := begins
    contradiction

theorem Grammar.IsName.closed {name attributes : List Char} (isName : IsName name)
    (closed : Closed attributes) : Closed (name ++ attributes) :=
  closed.letters isName.alphanumeric

namespace Scanner

theorem removeMarkup_tag (sees : scanner.Sees offset ('<' :: (tag ++ '>' :: rest)))
    (begins : beginsTag tag = true) (noComment : ¬['!', '-', '-'] <+: tag) (closed : Closed tag) :
    scanner.removeMarkup offset (tag ++ '>' :: rest) =
      (RawElement.opened? tag).elim ⟨[' '], rest, offset + tag.length + 2, scanner⟩
        (scanner.removeContents · (offset + tag.length + 2) rest) := by
  have noComment' : ¬['!', '-', '-'].isPrefixOf (tag ++ '>' :: rest) = true := by
    rw [List.isPrefixOf_iff_prefix]
    exact fun begins => noComment (prefix_of_prefix_append (by decide) begins)
  have begins' : beginsTag (tag ++ '>' :: rest) = true := by
    cases tag with
    | nil => contradiction
    | cons c tag => exact begins
  rw [removeMarkup, if_neg noComment', removeTag, if_pos begins', sees.splitTag? closed]
  cases opened : RawElement.opened? tag <;> simp only [opened, Option.elim]

theorem removeMarkup_comment {body : List Char} (absent : ¬['-', '-', '>'] <:+: body) :
    scanner.removeMarkup offset ('!' :: '-' :: '-' :: (body ++ '-' :: '-' :: '>' :: rest)) =
      ⟨[' '], rest, offset + 4 + body.length + 3, scanner⟩ := by
  have begins : ['!', '-', '-'].isPrefixOf
      ('!' :: '-' :: '-' :: (body ++ '-' :: '-' :: '>' :: rest)) = true := rfl
  rw [removeMarkup, if_pos begins, List.drop_succ_cons, List.drop_succ_cons, List.drop_succ_cons,
    List.drop_zero, removeComment, splitBefore?_comment absent]
  rfl

theorem removeContents_eq {element : RawElement} {body name : List Char}
    (sees : scanner.Sees offset (body ++ '<' :: '/' :: (name ++ (tag ++ '>' :: rest))))
    (absent : ¬('<' :: '/' :: element.name <:+: body.map Char.toLower))
    (spells : Spells element name) (closed : Closed tag) :
    scanner.removeContents element offset (body ++ '<' :: '/' :: (name ++ (tag ++ '>' :: rest))) =
      ⟨[' '], rest, offset + body.length + ('/' :: (name ++ tag)).length + 2, scanner⟩ := by
  have closed : Closed ('/' :: (name ++ tag)) :=
    .plain nofun nofun nofun (spells.isName.closed closed)
  have sees := sees.skip
  rw [← List.append_assoc, ← List.cons_append] at sees
  have cut := sees.splitTag? closed
  rw [List.cons_append, List.append_assoc] at cut
  rw [removeContents, splitBefore?_closes absent spells]
  simp only [List.drop_succ_cons, List.drop_zero, cut]

end Scanner

theorem stripFrom_markup {inner : List Char}
    (removed : scanner.removeMarkup offset (inner ++ rest) =
      ⟨[' '], rest, offset + (inner.length + 1), scanner⟩) :
    stripFrom scanner offset output ('<' :: inner ++ rest) =
      stripFrom scanner (offset + ('<' :: inner).length) (' ' :: output) rest := by
  rw [List.cons_append, stripFrom, if_pos rfl]
  simp only [removed]
  rfl

theorem stripFrom_tag (closed : Closed tag) (begins : Scanner.beginsTag tag = true)
    (noComment : ¬['!', '-', '-'] <+: tag) (opened : RawElement.opened? tag = none)
    (sees : scanner.Sees offset ('<' :: (tag ++ ['>']) ++ rest)) :
    stripFrom scanner offset output ('<' :: (tag ++ ['>']) ++ rest) =
      stripFrom scanner (offset + ('<' :: (tag ++ ['>'])).length) (' ' :: output) rest := by
  apply stripFrom_markup
  rw [List.cons_append, ← List.append_cons] at sees
  rw [← List.append_cons, Scanner.removeMarkup_tag sees begins noComment closed, opened]
  simp [Nat.add_assoc]

-- End tags and declarations: what stands after the `<` is no name, so they open no element.
theorem stripFrom_mark {mark : Char} (isMark : mark = '/' ∨ mark = '!' ∨ mark = '?')
    (closed : Closed text) (noComment : ¬['!', '-', '-'] <+: mark :: text)
    (sees : scanner.Sees offset ('<' :: mark :: (text ++ ['>']) ++ rest)) :
    stripFrom scanner offset output ('<' :: mark :: (text ++ ['>']) ++ rest) =
      stripFrom scanner (offset + ('<' :: mark :: (text ++ ['>'])).length) (' ' :: output)
        rest := by
  have opened : RawElement.opened? (mark :: text) = none := by
    apply RawElement.opened?_cons
    rcases isMark with rfl | rfl | rfl <;> rfl
  have begins : Scanner.beginsTag (mark :: text) = true := by
    rcases isMark with rfl | rfl | rfl <;> rfl
  have closed : Closed (mark :: text) := by
    refine .plain ?_ ?_ ?_ closed <;> rcases isMark with rfl | rfl | rfl <;> exact nofun
  exact stripFrom_tag closed begins noComment opened sees

theorem stripFrom_reference {reference : Reference}
    (found : Reference.read? text = some reference) :
    stripFrom scanner offset output ('&' :: text) =
      stripFrom scanner (offset + reference.length + 1) (reference.value :: output)
        reference.rest := by
  rw [stripFrom, if_neg (by decide), if_pos rfl]
  split
  · next other found' =>
    obtain rfl := Option.some.inj (found.symm.trans found')
    rfl
  · next missing =>
    rw [found] at missing
    contradiction

/-- A piece of a document is replaced by what is seen of it. -/
theorem stripFrom_piece (piece : Piece source visible)
    (sees : scanner.Sees offset (source ++ rest)) :
    stripFrom scanner offset output (source ++ rest) =
      stripFrom scanner (offset + source.length) (visible.reverse ++ output) rest := by
  cases piece with
  | character noTag noReference =>
    rw [List.cons_append, stripFrom, if_neg noTag, if_neg noReference]
    rfl
  | @reference body value refers short =>
    have found := read?_of_refers rest refers short
    rw [List.cons_append, List.append_assoc, List.cons_append, List.nil_append,
      stripFrom_reference found]
    simp [Nat.add_assoc]
  | startTag isName ordinary isAttributes =>
    exact stripFrom_tag (isName.closed isAttributes.closed) isName.beginsTag isName.noComment
      (RawElement.opened?_of_name isName ordinary isAttributes) sees
  | endTag isName isAttributes =>
    exact stripFrom_mark (.inl rfl) (isName.closed isAttributes.closed) (by simp) sees
  | declaration isMark closed noComment =>
    exact stripFrom_mark (.inr isMark) closed noComment sees
  | comment absent =>
    apply stripFrom_markup
    simp only [List.cons_append, List.append_assoc, List.nil_append]
    rw [Scanner.removeMarkup_comment absent]
    simp [Nat.add_comm, Nat.add_left_comm]
  | @element element name attributes body name' tag spells isAttributes noSlash absent spells'
      closed =>
    have same :
        name ++ attributes ++ '>' :: (body ++ '<' :: '/' :: (name' ++ tag ++ ['>'])) ++ rest =
          name ++ attributes ++ '>' :: (body ++ '<' :: '/' :: (name' ++ (tag ++ '>' :: rest))) := by
      simp
    -- The scanner is asked for the end tag at the `<` of that tag, behind the contents.
    apply stripFrom_markup
    rw [List.cons_append, same] at sees
    rw [same, Scanner.removeMarkup_tag sees spells.isName.beginsTag spells.isName.noComment
      (spells.isName.closed isAttributes.closed),
      RawElement.opened?_of_spells spells isAttributes noSlash]
    simp only [Option.elim, Scanner.removeContents_eq sees.behindTag absent spells' closed]
    congr 1
    simp only [List.length_append, List.length_cons, List.length_nil]
    omega

theorem stripFrom_document (document : Document source visible)
    (sees : scanner.Sees offset source) :
    stripFrom scanner offset output source = output.reverse ++ visible := by
  induction document generalizing offset output with
  | nil => simp [stripFrom]
  | cons piece document ih =>
    rw [stripFrom_piece piece sees, ih sees.skip]
    simp

theorem Grammar.Document.ofPlain (plain : ∀ c ∈ text, c ≠ '<' ∧ c ≠ '&') : Document text text := by
  induction text with
  | nil => exact .nil
  | cons c text ih =>
    rw [List.forall_mem_cons] at plain
    exact .cons (.character plain.1.1 plain.1.2) (ih plain.2)

-- A text without markup is not scanned. It is a document of characters, which the scan keeps.
theorem strip_eq_stripFrom (text : String) :
    strip text = String.ofList (stripFrom (Scanner.start text.toList) 0 [] text.toList) := by
  rw [strip]
  split
  · rfl
  · next noMarkup =>
    have plain : ∀ c ∈ text.toList, c ≠ '<' ∧ c ≠ '&' := by
      simpa [hasMarkup, not_or] using noMarkup
    rw [stripFrom_document (.ofPlain plain) (Scanner.sees_start _)]
    simp

/-- Of a well-formed document, exactly the text that is seen is left. -/
theorem strip_of_document (source visible : List Char) (document : Document source visible) :
    strip (String.ofList source) = String.ofList visible := by
  rw [strip_eq_stripFrom, String.toList_ofList,
    stripFrom_document document (Scanner.sees_start source), List.reverse_nil, List.nil_append]

/-- An attribute holds the end of a tag, a comment the end of an element, and a script both. -/
theorem strip_script_after_comment :
    strip "<b x='>'>1&#38;lt;<!-- </b> --><SCRIPT>\"</b></Script>" = " 1&lt;  " := by
  have quotation : Closed ['\x27', '>', '\x27'] :=
    show Closed ('\x27' :: (['>'] ++ '\x27' :: [])) from .quotation (.inr rfl) (by decide) .nil
  have attributes : Attributes [' ', 'x', '=', '\x27', '>', '\x27'] :=
    ⟨fun c first => Option.some.inj first ▸ rfl,
      .plain nofun nofun nofun (.plain nofun nofun nofun (.plain nofun nofun nofun quotation))⟩
  have isName : IsName ['b'] := .letter rfl nofun
  have tag := Piece.startTag isName (fun element => by cases element <;> nofun) attributes
  have ampersand : Refers ['#', '3', '8'] '&' :=
    .decimal ⟨nofun,
      List.forall_mem_cons.mpr ⟨by decide, List.forall_mem_singleton.mpr (by decide)⟩⟩
  have reference := Piece.reference ampersand (by decide)
  have noEnd : ¬['-', '-', '>'] <:+: [' ', '<', '/', 'b', '>', ' '] := by decide
  have spells : Spells .script ['S', 'C', 'R', 'I', 'P', 'T'] := rfl
  have spells' : Spells .script ['S', 'c', 'r', 'i', 'p', 't'] := rfl
  have noScript : ¬('<' :: '/' :: RawElement.script.name <:+:
      ['"', '<', '/', 'b', '>'].map Char.toLower) := by decide
  have noAttributes : Attributes [] := ⟨nofun, .nil⟩
  have script := Piece.element spells noAttributes nofun noScript spells' .nil
  have one := Piece.character (show '1' ≠ '<' by decide) (by decide)
  have document := Document.cons tag (.cons one (.cons reference (.cons
    (Piece.character (show 'l' ≠ '<' by decide) (by decide)) (.cons
    (Piece.character (show 't' ≠ '<' by decide) (by decide)) (.cons
    (Piece.character (show ';' ≠ '<' by decide) (by decide)) (.cons (.comment noEnd)
    (.cons script .nil)))))))
  exact strip_of_document _ _ document

end Relevance.Html
