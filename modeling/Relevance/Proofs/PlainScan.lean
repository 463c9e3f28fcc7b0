import Relevance.Proofs.VisibleText

/-! Markup removed by searching what is left of the document at every tag, without anything that is
remembered of the document but that its quotes do not close.

The remembered offset of the last `>` only ever spares a search that finds nothing, so the text that
is left of a document is the same. What such a search would have found out about quotes no longer
matters, since no tag can end behind it.
-/

set_option autoImplicit false

namespace Relevance.Html

variable {document text tag rest before front inside : List Char} {scanner after : Scanner}
  {offset : Nat} {ignoreQuotes : Bool} {element : RawElement}

theorem splitClose?_eq_none_iff : splitClose? inside text = none ↔ '>' ∉ text := by
  induction text generalizing inside with
  | nil => simp [splitClose?]
  | cons c text ih =>
    rw [splitClose?]
    split
    · next isClose => simp [isClose]
    · next other => rw [ih, List.mem_cons, not_or, and_iff_right (Ne.symm other)]

namespace Plain

/-- Cuts the text after a `<` at its first `>` outside quotes, unless quotes are ignored or no `>`
is outside of them, and then at its first `>`. -/
def splitTag? (ignoreQuotes : Bool) (text : List Char) :
    Option (List Char × List Char) × Bool :=
  if ignoreQuotes then (splitClose? [] text, true)
  else match splitQuotedClose? none [] text with
    | some split => (some split, false)
    | none => (splitClose? [] text, true)

theorem append_of_splitTag? {ignoreQuotes' : Bool}
    (split : splitTag? ignoreQuotes text = (some (tag, rest), ignoreQuotes')) :
    text = tag ++ '>' :: rest := by
  unfold splitTag? at split
  split at split
  · exact append_of_splitClose? (Prod.mk.inj split).1
  · split at split
    · next found => exact append_of_splitQuotedClose? (found.trans (Prod.mk.inj split).1)
    · exact append_of_splitClose? (Prod.mk.inj split).1

theorem splitTag?_eq_none_iff : (splitTag? ignoreQuotes text).1 = none ↔ '>' ∉ text := by
  unfold splitTag?
  split
  · exact splitClose?_eq_none_iff
  · split
    · next found =>
      have same := append_of_splitQuotedClose? found
      simp_all
    · exact splitClose?_eq_none_iff

structure Removal where
  output : List Char
  rest : List Char
  /-- Whether a search that heeds quotes has run off the end by now. -/
  ignoreQuotes : Bool

def removeComment (ignoreQuotes : Bool) (text : List Char) : Removal :=
  match splitBefore? (['-', '-', '>'].isPrefixOf ·) [] text with
  | some (_, closing) => ⟨[' '], closing.drop 3, ignoreQuotes⟩
  | none => ⟨[], [], ignoreQuotes⟩

def removeContents (ignoreQuotes : Bool) (element : RawElement) (text : List Char) : Removal :=
  match splitBefore? element.closes [] text with
  | some (_, closing) =>
    match splitTag? ignoreQuotes (closing.drop 1) with
    | (some (_, rest), ignoreQuotes) => ⟨[' '], rest, ignoreQuotes⟩
    | (none, ignoreQuotes) => ⟨[' '], [], ignoreQuotes⟩
  | none => ⟨[' '], [], ignoreQuotes⟩

def removeTag (ignoreQuotes : Bool) (text : List Char) : Removal :=
  if Scanner.beginsTag text then
    match splitTag? ignoreQuotes text with
    | (some (tag, rest), ignoreQuotes) =>
      match RawElement.opened? tag with
      | some element => removeContents ignoreQuotes element rest
      | none => ⟨[' '], rest, ignoreQuotes⟩
    | (none, ignoreQuotes) => ⟨['<'], text, ignoreQuotes⟩
  else ⟨['<'], text, ignoreQuotes⟩

def removeMarkup (ignoreQuotes : Bool) (text : List Char) : Removal :=
  if ['!', '-', '-'].isPrefixOf text then removeComment ignoreQuotes (text.drop 3)
  else removeTag ignoreQuotes text

theorem suffix_of_splitTag? {ignoreQuotes' : Bool}
    (split : splitTag? ignoreQuotes text = (some (tag, rest), ignoreQuotes')) : rest <:+ text := by
  rw [append_of_splitTag? split, List.append_cons]
  exact List.suffix_append _ _

variable (ignoreQuotes text)

theorem suffix_removeComment : (removeComment ignoreQuotes text).rest <:+ text := by
  unfold removeComment
  split
  · next body closing cut =>
    obtain rfl : text = body ++ closing := (append_of_splitBefore? cut).1
    exact (List.drop_suffix 3 closing).trans (List.suffix_append body closing)
  · exact List.nil_suffix

theorem suffix_removeContents (element : RawElement) :
    (removeContents ignoreQuotes element text).rest <:+ text := by
  unfold removeContents
  split
  · next body closing cut =>
    obtain rfl : text = body ++ closing := (append_of_splitBefore? cut).1
    split
    · next cut =>
      exact ((suffix_of_splitTag? cut).trans (List.drop_suffix 1 closing)).trans
        (List.suffix_append body closing)
    · exact List.nil_suffix
  · exact List.nil_suffix

theorem suffix_removeTag : (removeTag ignoreQuotes text).rest <:+ text := by
  unfold removeTag
  split
  · split
    · next cut =>
      split
      · exact (suffix_removeContents ..).trans (suffix_of_splitTag? cut)
      · exact suffix_of_splitTag? cut
    · exact List.suffix_rfl
  · exact List.suffix_rfl

/-- What is left behind a piece of markup is the end of the text. -/
theorem suffix_removeMarkup : (removeMarkup ignoreQuotes text).rest <:+ text := by
  unfold removeMarkup
  split
  · exact (suffix_removeComment ..).trans (List.drop_suffix 3 text)
  · exact suffix_removeTag ..

def stripFrom (ignoreQuotes : Bool) : List Char → List Char
  | [] => []
  | c :: rest =>
    if c = '<' then
      let removal := removeMarkup ignoreQuotes rest
      removal.output ++ stripFrom removal.ignoreQuotes removal.rest
    else if c = '&' then
      match found : Reference.read? rest with
      | some reference =>
        have := Reference.rest_length found
        reference.value :: stripFrom ignoreQuotes reference.rest
      | none => c :: stripFrom ignoreQuotes rest
    else c :: stripFrom ignoreQuotes rest
termination_by text => text.length
decreasing_by
  · exact Nat.lt_succ_of_le (suffix_removeMarkup ..).length_le
  · exact Nat.lt_succ_of_lt this
  · exact Nat.lt_succ_self _
  · exact Nat.lt_succ_self _

def strip (document : String) : String :=
  String.ofList (stripFrom false document.toList)

end Plain

/-! ### The remembered offset -/

theorem lastCloseFrom_append_eq {found : Option Nat} (front rest : List Char) :
    lastCloseFrom offset found (front ++ rest) =
      lastCloseFrom (offset + front.length) (lastCloseFrom offset found front) rest := by
  induction front generalizing offset found with
  | nil => rfl
  | cons c front ih =>
    rw [List.cons_append, lastCloseFrom, ih, lastCloseFrom, List.length_cons,
      Nat.add_comm front.length, ← Nat.add_assoc]

theorem lastCloseFrom_of_notMem {found : Option Nat} (absent : '>' ∉ text) :
    lastCloseFrom offset found text = found := by
  induction text generalizing offset with
  | nil => rfl
  | cons c text ih =>
    rw [List.mem_cons, not_or] at absent
    rw [lastCloseFrom, if_neg (Ne.symm absent.1), ih absent.2]

theorem lastCloseFrom_lt {found : Option Nat} (earlier : ∀ last ∈ found, last < offset) :
    ∀ last ∈ lastCloseFrom offset found text, last < offset + text.length := by
  induction text generalizing offset found with
  | nil => exact earlier
  | cons c text ih =>
    rw [lastCloseFrom, List.length_cons, Nat.add_comm text.length, ← Nat.add_assoc]
    apply ih
    split
    · simp
    · exact fun last isLast => Nat.lt_succ_of_lt (earlier last isLast)

/-- The offset of the last `>` tells whether one is left behind a `<`. -/
theorem lastCloseFrom_any_iff (front text : List Char) :
    (lastCloseFrom 0 none (front ++ '<' :: text)).any (front.length < ·) = true ↔
      '>' ∈ text := by
  by_cases left : '>' ∈ text
  · obtain ⟨before, after, rfl⟩ := List.append_of_mem left
    obtain ⟨last, isLast, behind⟩ :=
      @lastCloseFrom_append 0 none (front ++ '<' :: before) after
    rw [List.append_assoc, List.cons_append] at isLast
    rw [List.length_append, List.length_cons] at behind
    simp only [isLast, Option.any_some, left, iff_true, decide_eq_true_eq]
    omega
  · have absent : '>' ∉ '<' :: text := by simpa using left
    rw [lastCloseFrom_append_eq, lastCloseFrom_of_notMem absent]
    simp only [left, iff_false, Bool.not_eq_true, Option.any_eq_false, decide_eq_false_iff_not,
      Nat.not_lt]
    intro last isLast
    have before := lastCloseFrom_lt (by simp) last isLast
    omega

/-- A scanner made for a document, at the place where the rest of the document begins. The place
does not matter once nothing is left. -/
structure Scanner.At (document : List Char) (scanner : Scanner) (offset : Nat) (text : List Char) :
    Prop where
  lastClose : scanner.lastClose = lastCloseFrom 0 none document
  place : text ≠ [] → ∃ front, document = front ++ text ∧ offset = front.length

namespace Scanner

theorem At.start (document : List Char) : (start document).At document 0 document where
  lastClose := rfl
  place _ := ⟨[], rfl, rfl⟩

theorem At.skip (isAt : scanner.At document offset (front ++ rest)) :
    scanner.At document (offset + front.length) rest where
  lastClose := isAt.lastClose
  place left := by
    obtain ⟨before, rfl, rfl⟩ := isAt.place (List.append_ne_nil_of_right_ne_nil front left)
    exact ⟨before ++ front, by rw [List.append_assoc], by rw [List.length_append]⟩

theorem At.tail {c : Char} (isAt : scanner.At document offset (c :: rest)) :
    scanner.At document (offset + 1) rest := by
  change scanner.At document offset ([c] ++ rest) at isAt
  exact isAt.skip

theorem At.lastClose_any_iff (isAt : scanner.At document offset ('<' :: text)) :
    scanner.lastClose.any (offset < ·) = true ↔ '>' ∈ text := by
  obtain ⟨front, rfl, rfl⟩ := isAt.place (List.cons_ne_nil _ _)
  rw [isAt.lastClose, lastCloseFrom_any_iff]

theorem At.splitTag?_of_notMem (isAt : scanner.At document offset ('<' :: text))
    (absent : '>' ∉ text) : scanner.splitTag? offset text = (none, scanner) := by
  have none : ¬scanner.lastClose.any (offset < ·) = true := mt isAt.lastClose_any_iff.mp absent
  rw [splitTag?, if_pos (by simpa using none)]

theorem At.splitTag?_of_mem (isAt : scanner.At document offset ('<' :: text)) (left : '>' ∈ text) :
    scanner.splitTag? offset text = ((Plain.splitTag? scanner.ignoreQuotes text).1,
      { scanner with ignoreQuotes := (Plain.splitTag? scanner.ignoreQuotes text).2 }) := by
  have known : scanner.lastClose.any (offset < ·) = true := isAt.lastClose_any_iff.mpr left
  obtain ⟨lastClose, ignoreQuotes⟩ := scanner
  rw [splitTag?, if_neg (by simp [known]), Plain.splitTag?]
  cases ignoreQuotes with
  | true => rfl
  | false => cases found : splitQuotedClose? none [] text <;> simp

theorem At.splitTag?_eq_none_iff (isAt : scanner.At document offset ('<' :: text)) :
    (scanner.splitTag? offset text).1 = none ↔ '>' ∉ text := by
  by_cases left : '>' ∈ text
  · rw [isAt.splitTag?_of_mem left, Plain.splitTag?_eq_none_iff]
  · simp [isAt.splitTag?_of_notMem left, left]

end Scanner

/-! ### Both scans side by side -/

/-- A scanner in the state of a plain scan. Where no `>` is left, the two may differ on quotes. -/
structure Scanner.Follows (document : List Char) (scanner : Scanner) (offset : Nat)
    (ignoreQuotes : Bool) (text : List Char) : Prop where
  isAt : scanner.At document offset text
  quotes : '>' ∈ text → scanner.ignoreQuotes = ignoreQuotes

structure Removal.Matches (document : List Char) (removal : Removal) (plain : Plain.Removal) :
    Prop where
  output : removal.output.reverse = plain.output
  rest : removal.rest = plain.rest
  follows : removal.scanner.Follows document removal.offset plain.ignoreQuotes removal.rest

/-- A character that is no letter has no other case. -/
theorem toLower_of_noLetter {c : Char} (noLetter : c.isAlpha = false) : c.toLower = c := by
  rw [Char.isAlpha, Bool.or_eq_false_iff] at noLetter
  exact Char.toLower_eq_of_not_isUpper (ne_true_of_eq_false noLetter.1)

theorem toLower_eq_iff {c mark : Char} (noLetter : mark.isAlpha = false) :
    c.toLower = mark ↔ c = mark := by
  constructor
  · rintro rfl
    rw [Char.isAlpha_toLower_eq_isAlpha] at noLetter
    exact (toLower_of_noLetter noLetter).symm
  · rintro rfl
    exact toLower_of_noLetter noLetter

theorem head_of_closes (closes : element.closes text = true) : ∃ rest, text = '<' :: rest := by
  rw [RawElement.closes_iff] at closes
  cases text with
  | nil => simp at closes
  | cons c rest =>
    rw [List.map_cons, List.cons_prefix_cons] at closes
    exact ⟨rest, by rw [(toLower_eq_iff (by decide)).mp closes.1.symm]⟩

theorem splitSemicolon?_eq_some {room : Nat} {body' : List Char}
    (split : Reference.splitSemicolon? room before text = some (body', rest)) :
    ∃ body, body' = before.reverse ++ body ∧ text = body ++ ';' :: rest ∧ ';' ∉ body ∧
      (body.map Char.utf8Size).sum < room := by
  induction text generalizing room before with
  | nil => contradiction
  | cons c text ih =>
    rw [Reference.splitSemicolon?] at split
    split at split
    · contradiction
    · next left =>
      split at split
      · next isEnd =>
        obtain ⟨rfl, rfl⟩ := Prod.mk.inj (Option.some.inj split)
        exact ⟨[], by simp, by simp [isEnd], List.not_mem_nil, Nat.pos_of_ne_zero left⟩
      · next other =>
        obtain ⟨body, rfl, rfl, noSemicolon, fits⟩ := ih split
        refine ⟨c :: body, by simp, rfl, ?_, ?_⟩
        · exact List.not_mem_cons_of_ne_of_not_mem (Ne.symm other) noSemicolon
        · rw [List.map_cons, List.sum_cons]
          omega

theorem Reference.exists_body_of_read? {reference : Reference}
    (found : read? text = some reference) :
    ∃ body, text = body ++ ';' :: reference.rest ∧ reference.length = body.length + 1 ∧
      value? body = some reference.value ∧ ';' ∉ body ∧ (body.map Char.utf8Size).sum < room := by
  unfold read? at found
  split at found
  · contradiction
  · next body rest split =>
    obtain ⟨value, isValue, rfl⟩ := Option.map_eq_some_iff.mp found
    obtain ⟨body, rfl, rfl, noSemicolon, fits⟩ := splitSemicolon?_eq_some split
    exact ⟨body, rfl, rfl, isValue, noSemicolon, fits⟩

theorem append_of_read? {reference : Reference} (found : Reference.read? text = some reference) :
    ∃ front, text = front ++ reference.rest ∧ front.length = reference.length := by
  obtain ⟨body, rfl, length, -⟩ := Reference.exists_body_of_read? found
  exact ⟨body ++ [';'], by simp, by simp [length]⟩

namespace Scanner.Follows

theorem skip (follows : scanner.Follows document offset ignoreQuotes (front ++ rest)) :
    scanner.Follows document (offset + front.length) ignoreQuotes rest where
  isAt := follows.isAt.skip
  quotes left := follows.quotes (List.mem_append_right front left)

theorem tail {c : Char} (follows : scanner.Follows document offset ignoreQuotes (c :: rest)) :
    scanner.Follows document (offset + 1) ignoreQuotes rest where
  isAt := follows.isAt.tail
  quotes left := follows.quotes (List.mem_cons_of_mem c left)

theorem of_notMem (isAt : scanner.At document offset text) (absent : '>' ∉ text) :
    scanner.Follows document offset ignoreQuotes text where
  isAt := isAt
  quotes left := absurd left absent

theorem nil {offset' : Nat} {ignoreQuotes' : Bool}
    (follows : scanner.Follows document offset ignoreQuotes text) :
    scanner.Follows document offset' ignoreQuotes' [] where
  isAt := ⟨follows.isAt.lastClose, fun left => absurd rfl left⟩
  quotes := nofun

theorem splitTag? (follows : scanner.Follows document offset ignoreQuotes ('<' :: text)) :
    (∃ tag rest after ignoreQuotes', scanner.splitTag? offset text = (some (tag, rest), after) ∧
      Plain.splitTag? ignoreQuotes text = (some (tag, rest), ignoreQuotes') ∧
      after.Follows document (offset + tag.length + 2) ignoreQuotes' rest) ∨
    ∃ ignoreQuotes', scanner.splitTag? offset text = (none, scanner) ∧
      Plain.splitTag? ignoreQuotes text = (none, ignoreQuotes') ∧ '>' ∉ text := by
  -- If a `>` is left, both make the same search. If none is, only the plain one searches, in vain.
  by_cases left : '>' ∈ text
  · have same := follows.isAt.splitTag?_of_mem left
    rw [follows.quotes (List.mem_cons_of_mem _ left)] at same
    cases found : Plain.splitTag? ignoreQuotes text with
    | mk split ignoreQuotes' =>
      cases split with
      | none =>
        have absent := Plain.splitTag?_eq_none_iff.mp (congrArg Prod.fst found)
        exact absurd left absent
      | some split =>
        obtain ⟨tag, rest⟩ := split
        rw [found] at same
        obtain rfl := Plain.append_of_splitTag? found
        have behind : scanner.At document (offset + ('<' :: (tag ++ ['>'])).length) rest := by
          apply At.skip
          simpa using follows.isAt
        refine .inl ⟨tag, rest, _, _, same, rfl, ⟨⟨behind.lastClose, ?_⟩, fun _ => rfl⟩⟩
        simpa [Nat.add_assoc] using behind.place
  · cases found : Plain.splitTag? ignoreQuotes text with
    | mk split ignoreQuotes' =>
      obtain rfl : split = none := by
        have absent : (Plain.splitTag? ignoreQuotes text).1 = none :=
          Plain.splitTag?_eq_none_iff.mpr left
        rwa [found] at absent
      exact .inr ⟨ignoreQuotes', follows.isAt.splitTag?_of_notMem left, rfl, left⟩

theorem removeComment (follows : scanner.Follows document offset ignoreQuotes text) :
    (scanner.removeComment offset text).Matches document
      (Plain.removeComment ignoreQuotes text) := by
  unfold Scanner.removeComment Plain.removeComment
  cases found : splitBefore? (['-', '-', '>'].isPrefixOf ·) [] text with
  | none => exact ⟨rfl, rfl, follows.nil⟩
  | some split =>
    obtain ⟨body, closing⟩ := split
    obtain ⟨same, isClosing⟩ := append_of_splitBefore? found
    obtain ⟨rest, rfl⟩ := List.isPrefixOf_iff_prefix.mp isClosing
    obtain rfl : text = body ++ _ := same
    have behind := follows.skip.skip
    exact ⟨rfl, rfl, behind⟩

theorem removeContents (follows : scanner.Follows document offset ignoreQuotes text)
    (element : RawElement) :
    (scanner.removeContents element offset text).Matches document
      (Plain.removeContents ignoreQuotes element text) := by
  unfold Scanner.removeContents Plain.removeContents
  cases found : splitBefore? element.closes [] text with
  | none => exact ⟨rfl, rfl, follows.nil⟩
  | some split =>
    obtain ⟨body, closing⟩ := split
    obtain ⟨same, closes⟩ := append_of_splitBefore? found
    obtain ⟨endTag, rfl⟩ := head_of_closes closes
    obtain rfl : text = body ++ _ := same
    have atEnd := follows.skip
    simp only [List.drop_succ_cons, List.drop_zero]
    rcases atEnd.splitTag? with
      ⟨tag, rest, after, ignoreQuotes', cut, cut', behind⟩ | ⟨ignoreQuotes', cut, cut', -⟩
    · simp only [cut, cut']
      exact ⟨rfl, rfl, behind⟩
    · simp only [cut, cut']
      exact ⟨rfl, rfl, follows.nil⟩

theorem removeTag (follows : scanner.Follows document offset ignoreQuotes ('<' :: text)) :
    (scanner.removeTag offset text).Matches document (Plain.removeTag ignoreQuotes text) := by
  unfold Scanner.removeTag Plain.removeTag
  split
  · rcases follows.splitTag? with
      ⟨tag, rest, after, ignoreQuotes', cut, cut', behind⟩ | ⟨ignoreQuotes', cut, cut', absent⟩
    · simp only [cut, cut']
      cases RawElement.opened? tag with
      | none => exact ⟨rfl, rfl, behind⟩
      | some element => exact behind.removeContents element
    · simp only [cut, cut']
      exact ⟨rfl, rfl, of_notMem follows.isAt.tail absent⟩
  · exact ⟨rfl, rfl, follows.tail⟩

theorem removeMarkup (follows : scanner.Follows document offset ignoreQuotes ('<' :: text)) :
    (scanner.removeMarkup offset text).Matches document (Plain.removeMarkup ignoreQuotes text) := by
  unfold Scanner.removeMarkup Plain.removeMarkup
  split
  · next begins =>
    obtain ⟨rest, rfl⟩ := List.isPrefixOf_iff_prefix.mp begins
    exact follows.tail.tail.tail.tail.removeComment
  · exact follows.removeTag

end Scanner.Follows

theorem Plain.stripFrom_reference {reference : Reference}
    (found : Reference.read? text = some reference) :
    stripFrom ignoreQuotes ('&' :: text) =
      reference.value :: stripFrom ignoreQuotes reference.rest := by
  rw [stripFrom, if_neg (by decide), if_pos rfl]
  split
  · next other found' =>
    obtain rfl := Option.some.inj (found.symm.trans found')
    rfl
  · next missing =>
    rw [found] at missing
    contradiction

theorem Plain.stripFrom_ampersand (missing : Reference.read? text = none) :
    stripFrom ignoreQuotes ('&' :: text) = '&' :: stripFrom ignoreQuotes text := by
  rw [stripFrom, if_neg (by decide), if_pos rfl]
  split
  · next reference found =>
    rw [missing] at found
    contradiction
  · rfl

theorem stripFrom_eq_plain {output : List Char}
    (follows : scanner.Follows document offset ignoreQuotes text) :
    stripFrom scanner offset output text = output.reverse ++ Plain.stripFrom ignoreQuotes text := by
  fun_induction stripFrom scanner offset output text generalizing ignoreQuotes with
  | case1 => simp [Plain.stripFrom]
  | case2 scanner offset output rest removal =>
    rename_i ih
    obtain ⟨sameOutput, sameRest, behind⟩ := follows.removeMarkup
    rw [ih behind, List.reverse_append, sameOutput, sameRest, List.append_assoc, Plain.stripFrom,
      if_pos rfl]
  | case3 scanner offset output rest reference found _ ih =>
    obtain ⟨front, same, length⟩ := append_of_read? found
    have behind : scanner.Follows document (offset + reference.length + 1) ignoreQuotes
        reference.rest := by
      rw [same, ← List.cons_append] at follows
      simpa [length, Nat.add_assoc] using follows.skip
    rw [ih behind, Plain.stripFrom_reference found, List.reverse_cons, List.append_assoc]
    rfl
  | case4 scanner offset output rest missing _ ih =>
    rw [ih follows.tail, Plain.stripFrom_ampersand missing, List.reverse_cons,
      List.append_assoc]
    rfl
  | case5 scanner offset output c rest noTag noReference ih =>
    rw [ih follows.tail, Plain.stripFrom, if_neg noTag, if_neg noReference,
      List.reverse_cons, List.append_assoc]
    rfl

theorem strip_eq_plain (text : String) : strip text = Plain.strip text := by
  have follows : (Scanner.start text.toList).Follows text.toList 0 false text.toList :=
    ⟨.start _, fun _ => rfl⟩
  rw [strip_eq_stripFrom, stripFrom_eq_plain follows]
  rfl

inductive Passes (document : List Char) : Scanner → Nat → List Char → Prop where
  | start : Passes document (Scanner.start document) 0 document
  | markup {scanner : Scanner} {offset : Nat} {rest : List Char} :
      Passes document scanner offset ('<' :: rest) →
      Passes document (scanner.removeMarkup offset rest).scanner
        (scanner.removeMarkup offset rest).offset (scanner.removeMarkup offset rest).rest
  | reference {scanner : Scanner} {offset : Nat} {rest : List Char} {reference : Reference} :
      Passes document scanner offset ('&' :: rest) → Reference.read? rest = some reference →
      Passes document scanner (offset + reference.length + 1) reference.rest
  | character {scanner : Scanner} {offset : Nat} {c : Char} {rest : List Char} :
      Passes document scanner offset (c :: rest) → c ≠ '<' →
      (c = '&' → Reference.read? rest = none) → Passes document scanner (offset + 1) rest

/-- The searches for the end of a tag in the scan of a document: the scanner, the place of the `<`,
and the text behind it. -/
inductive Searches (document : List Char) : Scanner → Nat → List Char → Prop where
  | tag {scanner : Scanner} {offset : Nat} {text : List Char} :
      Passes document scanner offset ('<' :: text) → ¬['!', '-', '-'] <+: text →
      Scanner.beginsTag text = true → Searches document scanner offset text
  | endTag {scanner after : Scanner} {offset : Nat} {text tag rest body closing : List Char}
      {element : RawElement} :
      Searches document scanner offset text →
      scanner.splitTag? offset text = (some (tag, rest), after) →
      RawElement.opened? tag = some element →
      splitBefore? element.closes [] rest = some (body, closing) →
      Searches document after (offset + tag.length + 2 + body.length) (closing.drop 1)

theorem Scanner.At.follows (isAt : scanner.At document offset text) :
    scanner.Follows document offset scanner.ignoreQuotes text :=
  ⟨isAt, fun _ => rfl⟩

theorem Passes.isAt (passes : Passes document scanner offset text) :
    scanner.At document offset text := by
  induction passes with
  | start => exact .start document
  | markup _ ih => exact ih.follows.removeMarkup.follows.isAt
  | reference _ found ih =>
    obtain ⟨front, same, length⟩ := append_of_read? found
    rw [same, ← List.cons_append] at ih
    simpa [length, Nat.add_assoc] using ih.skip
  | character _ _ _ ih => exact ih.tail

theorem Searches.isAt (searches : Searches document scanner offset text) :
    scanner.At document offset ('<' :: text) := by
  induction searches with
  | tag passes => exact passes.isAt
  | endTag _ split opened before ih =>
    rcases ih.follows.splitTag? with
      ⟨tag, rest, after, _, cut, -, behind⟩ | ⟨_, cut, -⟩
    · obtain ⟨same, rfl⟩ := Prod.mk.inj (cut.symm.trans split)
      obtain ⟨rfl, rfl⟩ := Prod.mk.inj (Option.some.inj same)
      obtain ⟨same, closes⟩ := append_of_splitBefore? before
      obtain ⟨endTag, rfl⟩ := head_of_closes closes
      obtain rfl : rest = _ ++ _ := same
      exact behind.isAt.skip
    · exact nomatch cut.symm.trans split

/-- The text that is left of a document is that of the plain scan. Every search for the end of a tag
is made with the right offset, and it fails exactly if no `>` is left. -/
theorem strip_eq_plain_strip :
    (∀ document, strip document = Plain.strip document) ∧
    ∀ document scanner offset text, Searches document scanner offset text →
      (∃ front, document = front ++ '<' :: text ∧ offset = front.length) ∧
      ((scanner.splitTag? offset text).1 = none ↔ '>' ∉ text) :=
  ⟨strip_eq_plain, fun _ _ _ _ searches =>
    ⟨searches.isAt.place (List.cons_ne_nil _ _), searches.isAt.splitTag?_eq_none_iff⟩⟩

/-- A script whose end tag is not ended. -/
theorem strip_script_without_end :
    strip "a<script>b</Script \"" = "a " ∧
    ((Scanner.start "a<script>b</Script \"".toList).splitTag? 10 "/Script \"".toList).1 = none := by
  obtain ⟨same, searches⟩ := strip_eq_plain_strip
  have opening : Searches "a<script>b</Script \"".toList
      (Scanner.start "a<script>b</Script \"".toList) 1 "script>b</Script \"".toList :=
    .tag (.character .start (by decide) (by decide)) (by decide) rfl
  have closing := Searches.endTag opening rfl rfl rfl
  exact ⟨(same _).trans (by cbv), (searches _ _ _ _ closing).2.mpr (by decide)⟩

end Relevance.Html
