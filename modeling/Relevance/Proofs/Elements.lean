import Relevance.Proofs.PlainScan
import Relevance.Unicode.Properties

/-! What is left of a text between a start tag and an end tag.

A tag opens an element whose contents are not text if the letters and digits that its name begins
with are the name of the element. The contents end at the first end tag whose name begins with that
of the element.
-/

set_option autoImplicit false

namespace Relevance.Html

namespace Grammar

inductive IsTagName : List Char → Prop where
  | letter {first : Char} {rest : List Char} : first.isAlpha = true →
      (∀ c ∈ rest, c.isAlphanum = true ∨ c ∈ ['-', '_', ':', '.']) → IsTagName (first :: rest)

def leading (name : List Char) : List Char :=
  name.takeWhile Char.isAlphanum

def endTag (name : List Char) : List Char :=
  '<' :: '/' :: (name ++ ['>'])

def enclosed (name text : List Char) : List Char :=
  '<' :: (name ++ '>' :: (text ++ endTag name))

end Grammar

open Grammar

variable {element : RawElement} {name name' source visible text body tag : List Char}

theorem Grammar.Closed.ofPlain (plain : ∀ c ∈ text, c ∉ ['>', '"', '\x27']) : Closed text := by
  induction text with
  | nil => exact .nil
  | cons c text ih =>
    rw [List.forall_mem_cons] at plain
    have other := plain.1
    simp only [List.mem_cons, List.not_mem_nil, or_false, not_or] at other
    exact .plain other.1 other.2.1 other.2.2 (ih plain.2)

theorem Grammar.IsTagName.notMem {mark : Char} (isName : IsTagName name)
    (noName : mark.isAlphanum = false) (other : mark ∉ ['-', '_', ':', '.']) : mark ∉ name := by
  intro inside
  cases isName with
  | letter letter others =>
    rcases List.mem_cons.mp inside with rfl | inside
    · rw [Char.isAlphanum, letter, Bool.true_or] at noName
      contradiction
    · rcases others mark inside with alphanumeric | isMark
      · rw [alphanumeric] at noName
        contradiction
      · exact other isMark

/-- The name of a tag is a name of letters and digits with attributes that no blank sets apart. -/
theorem Grammar.IsTagName.split (isName : IsTagName name) : ∃ attributes,
    name = leading name ++ attributes ∧ IsName (leading name) ∧ Attributes attributes ∧
      attributes.getLast? ≠ some '/' := by
  have noMark : ∀ mark ∈ ['>', '"', '\x27', '/'], mark ∉ name := by
    simp only [List.forall_mem_cons]
    exact ⟨isName.notMem rfl (by decide), isName.notMem rfl (by decide),
      isName.notMem rfl (by decide), isName.notMem rfl (by decide), nofun⟩
  have behind : ∀ c ∈ name.dropWhile Char.isAlphanum, c ∈ name :=
    fun c inside => (List.dropWhile_sublist _).subset inside
  refine ⟨name.dropWhile Char.isAlphanum, List.takeWhile_append_dropWhile.symm, ?_, ⟨?_, ?_⟩, ?_⟩
  · cases isName with
    | @letter first rest letter =>
      have alphanumeric : first.isAlphanum = true := by simp [Char.isAlphanum, letter]
      rw [leading, List.takeWhile_cons_of_pos alphanumeric]
      exact .letter letter fun c inside => List.mem_takeWhile_imp inside
  · intro c first
    have stops := List.head?_dropWhile_not Char.isAlphanum name
    rw [first] at stops
    simpa using stops
  · refine .ofPlain fun c inside isMark => noMark c ?_ (behind c inside)
    exact List.mem_append_left ['/'] isMark
  · intro last
    exact noMark '/' (by simp) (behind '/' (List.mem_of_getLast? last))

theorem strip_ofList (text : List Char) :
    strip (String.ofList text) = String.ofList (Plain.stripFrom false text) := by
  rw [strip_eq_plain, Plain.strip, String.toList_ofList]

theorem Plain.stripFrom_piece (piece : Piece source visible) (rest : List Char) :
    stripFrom false (source ++ rest) = visible ++ stripFrom false rest := by
  have follows : (Scanner.start (source ++ rest)).Follows (source ++ rest) 0 false
      (source ++ rest) := ⟨.start _, fun _ => rfl⟩
  calc stripFrom false (source ++ rest)
    _ = Html.stripFrom (Scanner.start (source ++ rest)) 0 [] (source ++ rest) := by
      rw [stripFrom_eq_plain follows, List.reverse_nil, List.nil_append]
    _ = Html.stripFrom (Scanner.start (source ++ rest)) (0 + source.length)
          (visible.reverse ++ []) rest :=
      Html.stripFrom_piece piece (Scanner.sees_start _)
    _ = visible ++ stripFrom false rest := by
      rw [stripFrom_eq_plain follows.skip]
      simp

theorem Plain.stripFrom_text (plain : ∀ c ∈ text, c ≠ '<' ∧ c ≠ '&') (rest : List Char) :
    stripFrom false (text ++ rest) = text ++ stripFrom false rest := by
  induction text with
  | nil => rfl
  | cons c text ih =>
    rw [List.forall_mem_cons] at plain
    have first := stripFrom_piece (.character plain.1.1 plain.1.2) (text ++ rest)
    rw [ih plain.2] at first
    exact first

theorem Plain.stripFrom_enclosed_of_ordinary (isName : IsTagName name)
    (ordinary : ∀ element, ¬Spells element (leading name))
    (plain : ∀ c ∈ text, c ≠ '<' ∧ c ≠ '&') :
    stripFrom false (enclosed name text) = ' ' :: (text ++ [' ']) := by
  obtain ⟨attributes, same, isName, isAttributes, -⟩ := isName.split
  have opening := stripFrom_piece (.startTag isName ordinary isAttributes) (text ++ endTag name)
  have closing := stripFrom_piece (.endTag isName isAttributes) []
  rw [← same] at opening closing
  calc stripFrom false (enclosed name text)
    _ = stripFrom false ('<' :: (name ++ ['>']) ++ (text ++ endTag name)) := by simp [enclosed]
    _ = [' '] ++ (text ++ stripFrom false (endTag name ++ [])) := by
      rw [opening, stripFrom_text plain, List.append_nil]
    _ = ' ' :: (text ++ [' ']) := by
      rw [endTag, closing, stripFrom]
      rfl

/-- The contents of an element end at the first end tag whose name begins with that of the
element. -/
theorem Plain.stripFrom_element (isName : IsTagName name) (spells : Spells element (leading name))
    (absent : ¬('<' :: '/' :: element.name <:+: body.map Char.toLower))
    (spells' : Spells element name') (closed : Closed tag) (rest : List Char) :
    stripFrom false
        ('<' :: (name ++ '>' :: (body ++ '<' :: '/' :: (name' ++ tag ++ '>' :: rest)))) =
      ' ' :: stripFrom false rest := by
  obtain ⟨attributes, same, -, isAttributes, noSlash⟩ := isName.split
  have piece := stripFrom_piece (.element spells isAttributes noSlash absent spells' closed) rest
  rw [← same] at piece
  simpa using piece

/-- What is left of a text between a start tag and an end tag. A name whose letters and digits are
those of an element without text is taken for that element, and the contents end at the first end
tag whose name begins in the same way. -/
theorem strip_enclosed (isName : IsTagName name) :
    (∀ text, (∀ element, ¬Spells element (leading name)) → (∀ c ∈ text, c ≠ '<' ∧ c ≠ '&') →
      strip (String.ofList (enclosed name text)) = String.ofList (' ' :: (text ++ [' ']))) ∧
    ∀ element, Spells element (leading name) →
      (∀ body, ¬('<' :: '/' :: element.name <:+: body.map Char.toLower) →
        strip (String.ofList (enclosed name body)) = " ") ∧
      ∀ body name' tag rest, ¬('<' :: '/' :: element.name <:+: body.map Char.toLower) →
        Spells element name' → Closed tag →
        strip (String.ofList
          (enclosed name (body ++ '<' :: '/' :: (name' ++ tag ++ '>' :: rest)))) =
          " " ++ strip (String.ofList (rest ++ endTag name)) := by
  refine ⟨fun text ordinary plain => ?_, fun element spells =>
    ⟨fun body absent => ?_, fun body name' tag rest absent spells' closed => ?_⟩⟩
  · rw [strip_ofList, Plain.stripFrom_enclosed_of_ordinary isName ordinary plain]
  · obtain ⟨attributes, same, -, isAttributes, -⟩ := isName.split
    have piece := Plain.stripFrom_element isName spells absent spells isAttributes.closed []
    rw [← same] at piece
    rw [strip_ofList, enclosed, endTag, piece, Plain.stripFrom]
  · have piece := Plain.stripFrom_element isName spells absent spells' closed (rest ++ endTag name)
    rw [strip_ofList, strip_ofList, enclosed]
    simp only [List.append_assoc, List.cons_append] at piece ⊢
    rw [piece]
    exact @String.ofList_append [' '] _

/-- An element of its own, one whose name begins with that of a script, and an end tag among the
contents of a script that only begins like its own. -/
theorem strip_enclosed_script :
    strip "<h1>a > b</h1>" = " a > b " ∧ strip "<Script-x>a</Script-x>" = " " ∧
    strip "<script>a</scripting>b</script>" = " " ++ strip "b</script>" := by
  have heading : IsTagName ['h', '1'] := .letter rfl (by simp)
  have custom : IsTagName ['S', 'c', 'r', 'i', 'p', 't', '-', 'x'] := .letter rfl (by simp)
  have script : IsTagName RawElement.script.name := .letter rfl (by simp)
  have closed : Closed ['i', 'n', 'g'] := .ofPlain (by simp)
  refine ⟨?_, ?_, ?_⟩
  · exact (strip_enclosed heading).1 ['a', ' ', '>', ' ', 'b']
      (fun element => by cases element <;> nofun) (by simp)
  · exact ((strip_enclosed custom).2 .script rfl).1 ['a'] (by decide)
  · exact ((strip_enclosed script).2 .script rfl).2 ['a'] RawElement.script.name ['i', 'n', 'g']
      ['b'] (by decide) rfl closed

def isEndTag (element : RawElement) (text : List Char) : Bool :=
  element.closes text && (text.drop (element.name.length + 2)).head?.any fun c =>
    Unicode.isWhitespace c || c == '/' || c == '>'

/-- A name that only begins with that of a script loses its text, and an end tag whose name only
begins with that of a script ends one. -/
theorem strip_confuses_names :
    (¬∀ name text, IsTagName name → (∀ element, ¬Spells element name) →
      (∀ c ∈ text, c ≠ '<' ∧ c ≠ '&') →
      strip (String.ofList (enclosed name text)) = String.ofList (' ' :: (text ++ [' ']))) ∧
    ¬∀ element body, (∀ text ∈ body.tails, isEndTag element text = false) →
      strip (String.ofList (enclosed element.name body)) = " " := by
  constructor
  · intro keeps
    have kept := keeps ['s', 'c', 'r', 'i', 'p', 't', '-', 'x'] ['a'] (.letter rfl (by simp))
      (fun element => by cases element <;> nofun) (by simp)
    have lost : strip "<script-x>a</script-x>" = " " := by cbv
    exact absurd (lost.symm.trans kept) (by decide)
  · intro removes
    have removed := removes .script
      ['a', '<', '/', 's', 'c', 'r', 'i', 'p', 't', 'i', 'n', 'g', '>', 'b'] (by decide)
    have left : strip "<script>a</scripting>b</script>" = " b " := by cbv
    exact absurd (left.symm.trans removed) (by decide)

end Relevance.Html
