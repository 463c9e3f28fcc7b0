import Relevance.Proofs.Lexing
import Relevance.Proofs.Numerals

/-! Texts that are read as given tokens wherever they stand, and what such texts can be put together
from: words and phrases with or without escapes, groups, boosts and spaces. -/

set_option autoImplicit false

namespace Relevance.Query.Token

/-- A text is read as some tokens, at any place where it cannot begin with a boost, up to a place
where a word ends. -/
def Spells (text : List Char) (tokens : List Token) : Prop :=
  ∀ (adjacent : Bool) (done : List Token) (rest : List Char), boostable adjacent done = false →
    EndsWord rest → ∃ behind,
      readFrom adjacent done (text ++ rest) = readFrom behind (tokens.reverse ++ done) rest

def SpellsTightly (text : List Char) (tokens : List Token) : Prop :=
  ∀ (adjacent : Bool) (done : List Token) (rest : List Char), boostable adjacent done = false →
    EndsWord rest →
      readFrom adjacent done (text ++ rest) = readFrom true (tokens.reverse ++ done) rest

/-- A text as it may be written where some characters are reserved: these and backslashes are
escaped, and others may be. The flag says whether any character is escaped. -/
inductive Written (reserved : Char → Bool) : Bool → List Char → List Char → Prop where
  | nil : Written reserved false [] []
  | plain {escaped : Bool} {c : Char} {source text : List Char} : reserved c = false → c ≠ '\\' →
      Written reserved escaped source text → Written reserved escaped (c :: source) (c :: text)
  | escape {escaped : Bool} {c : Char} {source text : List Char} :
      Written reserved escaped source text → Written reserved true ('\\' :: c :: source) (c :: text)

def escape (text : List Char) : List Char :=
  text.flatMap fun c => ['\\', c]

variable {reserved : Char → Bool} {adjacent escaped escaped' : Bool} {c : Char} {last : Token}
  {done tokens tokens' front : List Token} {before source text text' rest : List Char}

theorem written_plain (plain : ∀ c ∈ text, reserved c = false ∧ c ≠ '\\') :
    Written reserved false text text := by
  induction text with
  | nil => exact .nil
  | cons c text ih =>
    rw [List.forall_mem_cons] at plain
    exact .plain plain.1.1 plain.1.2 (ih plain.2)

theorem written_escape (reserved : Char → Bool) (text : List Char) :
    Written reserved (!text.isEmpty) (escape text) text := by
  induction text with
  | nil => exact .nil
  | cons c text ih => exact .escape ih

theorem readWord_written (written : Written isBoundary escaped' source text)
    (ends : EndsWord rest) :
    readWord before escaped (source ++ rest) =
      (before.reverse ++ text, escaped || escaped', rest) := by
  induction written generalizing before escaped with
  | nil => simp [readWord_of_endsWord ends]
  | plain inside other _ ih =>
    rw [List.cons_append, readWord_inside inside other, ih]
    simp
  | escape _ ih =>
    rw [List.cons_append, List.cons_append, readWord_escape, ih]
    simp

theorem readPhrase?_written (written : Written (· == '"') escaped source text) :
    readPhrase? before (source ++ '"' :: rest) = some (before.reverse ++ text, rest) := by
  induction written generalizing before with
  | nil => simp [readPhrase?]
  | plain inside other _ ih =>
    rw [List.cons_append, readPhrase?, ih]
    · simp
    · exact fun _ _ same => absurd same other
    · simpa using inside
  | escape _ ih =>
    rw [List.cons_append, List.cons_append, readPhrase?, ih]
    simp

theorem readWordFrom_eq (inside : isBoundary c = false) :
    readWordFrom c rest = readWord [] false (c :: rest) := by
  unfold readWordFrom
  split
  · rfl
  · next notEscape =>
    by_cases isBackslash : c = '\\'
    · subst isBackslash
      cases rest with
      | nil => rfl
      | cons c rest => exact (notEscape c rest rfl rfl).elim
    · rw [readWord_inside inside isBackslash]

theorem SpellsTightly.spells (tight : SpellsTightly text tokens) : Spells text tokens :=
  fun adjacent done rest unboosted ends => ⟨true, tight adjacent done rest unboosted ends⟩

theorem spellsTightly_word (written : Written isBoundary escaped (c :: source) text)
    (starts : StartsWord c source) :
    SpellsTightly (c :: source) [ofWord escaped (String.ofList text)] := by
  intro adjacent done rest _ ends
  have inside : isBoundary c = false := by
    cases written with
    | plain inside => exact inside
    | escape => exact isBoundary_backslash
  have solid : Unicode.isWhitespace c = false := by
    simp only [isBoundary, Bool.or_eq_false_iff] at inside
    exact inside.1.1.1.1
  apply readFrom_of_read solid
  rw [List.append_eq, read_of_startsWord (starts.append ends), readWordFrom_eq inside,
    ← List.cons_append, readWord_written written ends]
  rfl

theorem startsWord_of_isAlphanum (alphanumeric : c.isAlphanum = true) (rest : List Char) :
    StartsWord c rest := by
  have marks : ['(', ')', '"', '^', '!', '-', '&', '|'].all (!·.isAlphanum) = true := by decide
  have other : c ∉ ['(', ')', '"', '^', '!', '-', '&', '|'] := by
    intro mark
    have noMark := List.all_eq_true.mp marks c mark
    rw [alphanumeric] at noMark
    contradiction
  simp only [List.mem_cons, List.not_mem_nil, or_false, not_or] at other
  refine ⟨?_, fun same => absurd same ?_, fun same => absurd same ?_⟩
  · simp [other]
  · exact other.2.2.2.2.2.2.1
  · exact other.2.2.2.2.2.2.2

/-- A word of letters and digits is read as it stands; three such words are operators. -/
theorem spellsTightly_alphanumeric (alphanumeric : (c :: text).all Char.isAlphanum = true) :
    SpellsTightly (c :: text) [ofWord false (String.ofList (c :: text))] := by
  rw [List.all_eq_true] at alphanumeric
  apply spellsTightly_word (written_plain fun d isText => ?_)
  · exact startsWord_of_isAlphanum (alphanumeric c List.mem_cons_self) text
  · refine ⟨isBoundary_of_isAlphanum (alphanumeric d isText), ?_⟩
    rintro rfl
    exact absurd (alphanumeric _ isText) (by decide)

theorem spells_and : Spells ['A', 'N', 'D'] [.and] :=
  (spellsTightly_alphanumeric (by decide)).spells

theorem spells_or : Spells ['O', 'R'] [.or] :=
  (spellsTightly_alphanumeric (by decide)).spells

theorem spells_not : Spells ['N', 'O', 'T'] [.not] :=
  (spellsTightly_alphanumeric (by decide)).spells

theorem spellsTightly_phrase (written : Written (· == '"') escaped source text) :
    SpellsTightly ('"' :: (source ++ ['"'])) [.phrase (String.ofList text)] := by
  intro adjacent done rest _ ends
  apply readFrom_of_read (by decide)
  rw [List.append_eq, List.append_assoc, List.singleton_append, read, readPhrase?_written written]
  rfl

theorem spellsTightly_escape_phrase (text : List Char) :
    SpellsTightly ('"' :: (escape text ++ ['"'])) [.phrase (String.ofList text)] :=
  spellsTightly_phrase (written_escape _ text)

theorem spellsTightly_escape_word (nonempty : text ≠ []) :
    SpellsTightly (escape text) [.word (String.ofList text)] := by
  obtain ⟨c, text, rfl⟩ := List.exists_cons_of_ne_nil nonempty
  exact spellsTightly_word (written_escape isBoundary (c :: text)) ⟨by decide, nofun, nofun⟩

theorem Spells.group (spells : Spells text tokens) :
    SpellsTightly ('(' :: (text ++ [')'])) (.leftParen :: (tokens ++ [.rightParen])) := by
  intro adjacent done rest _ ends
  have opened : readFrom adjacent done ('(' :: (text ++ ')' :: rest)) =
      readFrom true (.leftParen :: done) (text ++ ')' :: rest) :=
    readFrom_of_read (by decide) rfl
  obtain ⟨behind, inside⟩ := spells true (.leftParen :: done) (')' :: rest) rfl
    (endsWord_cons.mpr (by decide))
  have closed : readFrom behind (tokens.reverse ++ .leftParen :: done) (')' :: rest) =
      readFrom true (.rightParen :: (tokens.reverse ++ .leftParen :: done)) rest :=
    readFrom_of_read (by decide) rfl
  simpa using opened.trans (inside.trans closed)

/-- A boost is read directly behind a token that accepts one. -/
theorem readFrom_boost (accepts : done.head?.any acceptsBoost = true) (nonempty : text ≠ [])
    (inside : ∀ c ∈ text, isBoundary c = false) (ends : EndsWord rest) :
    readFrom true done ('^' :: (text ++ rest)) =
      readFrom true (.boost (String.ofList text) :: done) rest := by
  have taken := readBoost?_eq_some_iff.mpr ⟨rfl, nonempty, inside, ends⟩
  apply readFrom_of_read (by decide)
  simp [read, boostable, accepts, taken]

theorem SpellsTightly.boosted {number : String} {factor : Float}
    (tight : SpellsTightly text (front ++ [last])) (accepts : last.acceptsBoost = true)
    (isBoost : Grammar.IsBoost number factor) :
    SpellsTightly (text ++ '^' :: number.toList) (front ++ [last, .boost number]) := by
  intro adjacent done rest unboosted ends
  have operand := tight adjacent done ('^' :: (number.toList ++ rest)) unboosted
    (endsWord_cons.mpr (by decide))
  obtain ⟨nonempty, inside⟩ := isBoost.inside
  have boost : readFrom true ((front ++ [last]).reverse ++ done) ('^' :: (number.toList ++ rest)) =
      readFrom true (.boost number :: ((front ++ [last]).reverse ++ done)) rest := by
    rw [readFrom_boost (by simp [accepts]) nonempty inside ends, String.ofList_toList]
  simpa using operand.trans boost

theorem Spells.append (first : Spells text tokens) (second : Spells text' tokens') :
    Spells (text ++ ' ' :: text') (tokens ++ tokens') := by
  intro adjacent done rest unboosted ends
  obtain ⟨behind, front⟩ := first adjacent done (' ' :: (text' ++ rest)) unboosted
    (endsWord_cons.mpr (by decide))
  have space : readFrom behind (tokens.reverse ++ done) (' ' :: (text' ++ rest)) =
      readFrom false (tokens.reverse ++ done) (text' ++ rest) :=
    readFrom_of_isWhitespace (by decide)
  obtain ⟨behind, back⟩ := second false (tokens.reverse ++ done) rest rfl ends
  refine ⟨behind, ?_⟩
  simpa using front.trans (space.trans back)

/-- The tokens of a query are read from it wherever it stands. -/
theorem spells_of_ofQuery {query : String} (found : ofQuery query = .ok tokens)
    (even : Even (backslashes query.toList)) : Spells query.toList tokens := by
  obtain ⟨new, rfl, reads⟩ := readFrom_append found even
  exact reads

theorem Spells.ofQuery {query : String} (spells : Spells query.toList tokens) :
    ofQuery query = .ok tokens := by
  obtain ⟨behind, reads⟩ := spells false [] [] rfl endsWord_nil
  rw [List.append_nil, readFrom, List.append_nil, List.reverse_reverse] at reads
  exact reads

end Relevance.Query.Token
