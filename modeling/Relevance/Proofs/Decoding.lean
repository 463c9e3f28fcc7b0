import Relevance.Proofs.PlainScan

/-! What is left of a text without markup.

What stands between `&#` and a semicolon is replaced whether it is a number or not, so a text keeps
everything but its references exactly if there is always a number.
-/

set_option autoImplicit false

namespace Relevance.Html

open Text

namespace Grammar

def IsSign (sign : List Char) : Prop :=
  sign = [] ∨ sign = ['+']

inductive Numbers : List Char → Nat → Prop where
  | decimal {sign digits : List Char} : IsSign sign → IsNumber 10 digits →
      Numbers (sign ++ digits) (numberOf 10 digits)
  | hexadecimal {mark : Char} {sign digits : List Char} : mark = 'x' ∨ mark = 'X' → IsSign sign →
      IsNumber 16 digits → Numbers (mark :: (sign ++ digits)) (numberOf 16 digits)

/-- What stands between an ampersand and a semicolon if these are replaced, and the character that
they are replaced by. -/
inductive Replaced : List Char → Char → Prop where
  | named {name : List Char} : name ≠ [] → (∀ c ∈ name, c.isAlphanum = true) →
      Replaced name ((entities.lookup name).getD ' ')
  | numbered {digits : List Char} {number : Nat} : Numbers digits number →
      Replaced ('#' :: digits) (characterOf number)
  | noNumber {digits : List Char} : ';' ∉ digits → (∀ number, ¬Numbers digits number) →
      Replaced ('#' :: digits) ' '

def Fits (body : List Char) : Prop :=
  (body.map Char.utf8Size).sum + 2 ≤ 32

instance (body : List Char) : Decidable (Fits body) :=
  inferInstanceAs (Decidable (_ ≤ _))

/-- A text, and what is left of it when it is read from left to right and the bodies that stand for
characters are replaced by these, with the ampersands and semicolons around them. Every other
character is kept. -/
inductive Decodes (Stands : List Char → Char → Prop) : List Char → List Char → Prop where
  | nil : Decodes Stands [] []
  | character {c : Char} {rest text : List Char} : c ≠ '&' → Decodes Stands rest text →
      Decodes Stands (c :: rest) (c :: text)
  | reference {body rest text : List Char} {value : Char} : Stands body value → Fits body →
      Decodes Stands rest text → Decodes Stands ('&' :: (body ++ ';' :: rest)) (value :: text)
  | ampersand {rest text : List Char} :
      (∀ body value after, Stands body value → Fits body → rest ≠ body ++ ';' :: after) →
      Decodes Stands rest text → Decodes Stands ('&' :: rest) ('&' :: text)

/-- A text behind an ampersand begins with a number sign and goes on up to a semicolon within the
length of a reference, but no well-formed number stands between these. -/
def FalseNumber (text : List Char) : Prop :=
  ∃ digits rest, text = '#' :: (digits ++ ';' :: rest) ∧ ';' ∉ digits ∧ Fits ('#' :: digits) ∧
    ∀ value, ¬Refers ('#' :: digits) value

def HoldsFalseNumber (text : List Char) : Prop :=
  ∃ rest, '&' :: rest <:+ text ∧ FalseNumber rest

end Grammar

open Grammar

variable {base number number' : Nat} {c value value' : Char} {ignoreQuotes : Bool}
  {Stands : List Char → Char → Prop}
  {text rest rest' body body' visible visible' sign digits : List Char}

theorem read?_eq_some_iff (isBase : base = 10 ∨ base = 16) :
    Numeral.read? base text = some number ↔ ∃ sign digits, text = sign ++ digits ∧ IsSign sign ∧
      IsNumber base digits ∧ numberOf base digits = number := by
  constructor
  · intro read
    unfold Numeral.read? at read
    split at read
    · next digits =>
      exact ⟨['+'], digits, rfl, .inr rfl, (readDigits?_eq_some_iff isBase).mp read⟩
    · exact ⟨[], text, rfl, .inl rfl, (readDigits?_eq_some_iff isBase).mp read⟩
  · rintro ⟨sign, digits, rfl, rfl | rfl, isNumber, rfl⟩
    · exact read?_isNumber isBase isNumber
    · exact (readDigits?_eq_some_iff isBase).mpr ⟨isNumber, rfl⟩

/-- The mark of hexadecimal numbers does not begin a decimal one. -/
theorem cons_ne_decimal (isSign : IsSign sign) (isNumber : IsNumber 10 digits)
    (isMark : c = 'x' ∨ c = 'X') : c :: rest ≠ sign ++ digits := by
  intro same
  have inside : c ∈ sign ++ digits := same ▸ List.mem_cons_self
  have other : c.toLower ∉ numerals ∧ c ≠ '+' := by
    rcases isMark with rfl | rfl <;> decide
  rcases List.mem_append.mp inside with inSign | inDigits
  · rcases isSign with rfl | rfl
    · contradiction
    · exact other.2 (List.mem_singleton.mp inSign)
  · exact notMem_of_isNumber isNumber other.1 inDigits

/-- Whether a number is read, and which one, before it is looked up as a character. -/
theorem numbered?_eq_bind (text : List Char) : ∃ read : Option Nat,
    Reference.numbered? text = read.bind Reference.scalar? ∧
      ∀ number, Numbers text number ↔ read = some number := by
  have marked : ∀ mark : Char, mark = 'x' ∨ mark = 'X' → ∀ rest number,
      Numbers (mark :: rest) number ↔ Numeral.read? 16 rest = some number := by
    intro mark isMark rest number
    rw [read?_eq_some_iff (.inr rfl)]
    constructor
    · intro numbers
      generalize whole : mark :: rest = text at numbers
      cases numbers with
      | decimal isSign isNumber => exact absurd whole (cons_ne_decimal isSign isNumber isMark)
      | hexadecimal _ isSign isNumber =>
        obtain ⟨rfl, rfl⟩ := List.cons.inj whole
        exact ⟨_, _, rfl, isSign, isNumber, rfl⟩
    · rintro ⟨sign, digits, rfl, isSign, isNumber, rfl⟩
      exact .hexadecimal isMark isSign isNumber
  unfold Reference.numbered?
  split
  · next rest => exact ⟨Numeral.read? 16 rest, rfl, marked 'x' (.inl rfl) rest⟩
  · next rest => exact ⟨Numeral.read? 16 rest, rfl, marked 'X' (.inr rfl) rest⟩
  · next noLower noUpper =>
    refine ⟨Numeral.read? 10 text, rfl, fun number => ?_⟩
    rw [read?_eq_some_iff (.inl rfl)]
    constructor
    · intro numbers
      cases numbers with
      | decimal isSign isNumber => exact ⟨_, _, rfl, isSign, isNumber, rfl⟩
      | hexadecimal isMark =>
        rcases isMark with rfl | rfl
        · exact (noLower _ rfl).elim
        · exact (noUpper _ rfl).elim
    · rintro ⟨sign, digits, rfl, isSign, isNumber, rfl⟩
      exact .decimal isSign isNumber

theorem getD_numbered? (numbers : Numbers text number) :
    (Reference.numbered? text).getD ' ' = characterOf number := by
  obtain ⟨read, same, reads⟩ := numbered?_eq_bind text
  rw [same, (reads number).mp numbers, bind_scalar?_getD]

theorem numbered?_eq_none (none : ∀ number, ¬Numbers text number) :
    Reference.numbered? text = .none := by
  obtain ⟨read, same, reads⟩ := numbered?_eq_bind text
  cases read with
  | none => rw [same, Option.bind_none]
  | some number => exact absurd ((reads number).mpr rfl) (none number)

theorem Grammar.Numbers.semicolon_notMem (numbers : Numbers text number) : ';' ∉ text := by
  have unsigned : ∀ base sign digits, IsSign sign → IsNumber base digits →
      ';' ∉ sign ++ digits := by
    intro base sign digits isSign isNumber
    have other := notMem_of_isNumber isNumber (show (';').toLower ∉ numerals by decide)
    rcases isSign with rfl | rfl <;> simpa using other
  cases numbers with
  | decimal isSign isNumber => exact unsigned 10 _ _ isSign isNumber
  | hexadecimal isMark isSign isNumber =>
    refine List.not_mem_cons_of_ne_of_not_mem ?_ (unsigned 16 _ _ isSign isNumber)
    rcases isMark with rfl | rfl <;> decide

theorem refers_of_numbers (numbers : Numbers text number) (unsigned : '+' ∉ text) :
    Refers ('#' :: text) (characterOf number) := by
  cases numbers with
  | decimal isSign isNumber =>
    rcases isSign with rfl | rfl
    · exact .decimal isNumber
    · exact absurd List.mem_cons_self unsigned
  | hexadecimal isMark isSign isNumber =>
    rcases isSign with rfl | rfl
    · exact .hexadecimal isMark isNumber
    · exact absurd (List.mem_cons_of_mem _ List.mem_cons_self) unsigned

theorem numbers_of_refers (refers : Refers ('#' :: text) value) :
    '+' ∉ text ∧ ∃ number, Numbers text number ∧ value = characterOf number := by
  have plus : ∀ base digits, IsNumber base digits → '+' ∉ digits :=
    fun base digits isNumber => notMem_of_isNumber isNumber (by decide)
  generalize whole : '#' :: text = body at refers
  cases refers with
  | named nonempty isName =>
    exact absurd (isName '#' (whole ▸ List.mem_cons_self)) (by decide)
  | decimal isNumber =>
    obtain ⟨-, rfl⟩ := List.cons.inj whole
    exact ⟨plus 10 _ isNumber, _, .decimal (.inl rfl) isNumber, rfl⟩
  | @hexadecimal mark digits isMark isNumber =>
    obtain ⟨-, rfl⟩ := List.cons.inj whole
    refine ⟨List.not_mem_cons_of_ne_of_not_mem ?_ (plus 16 _ isNumber), _,
      .hexadecimal isMark (.inl rfl) isNumber, rfl⟩
    rcases isMark with rfl | rfl <;> decide

theorem Grammar.Replaced.semicolon_notMem (replaced : Replaced body value) : ';' ∉ body := by
  cases replaced with
  | named nonempty isName => exact fun inside => absurd (isName ';' inside) (by decide)
  | numbered numbers => simpa using numbers.semicolon_notMem
  | noNumber noSemicolon => simpa using noSemicolon

theorem value?_eq_some_iff (noSemicolon : ';' ∉ body) :
    Reference.value? body = some value ↔ Replaced body value := by
  constructor
  · intro found
    unfold Reference.value? at found
    split at found
    · contradiction
    · next digits =>
      obtain rfl := Option.some.inj found
      by_cases isNumber : ∃ number, Numbers digits number
      · obtain ⟨number, numbers⟩ := isNumber
        rw [getD_numbered? numbers]
        exact .numbered numbers
      · rw [not_exists] at isNumber
        rw [numbered?_eq_none isNumber, Option.getD_none]
        exact .noNumber (mt (List.mem_cons_of_mem _) noSemicolon) isNumber
    · next nonempty noMark =>
      split at found
      · next isName =>
        obtain rfl := Option.some.inj found
        rw [named?_eq_lookup]
        exact .named nonempty (List.all_eq_true.mp isName)
      · contradiction
  · intro replaced
    cases replaced with
    | named nonempty isName => exact value?_of_refers (.named nonempty isName)
    | numbered numbers => rw [Reference.value?, getD_numbered? numbers]
    | noNumber _ none => rw [Reference.value?, numbered?_eq_none none, Option.getD_none]

theorem replaced_of_read? {reference : Reference} (found : Reference.read? text = some reference) :
    ∃ body, text = body ++ ';' :: reference.rest ∧ Replaced body reference.value ∧ Fits body := by
  obtain ⟨body, same, -, isValue, noSemicolon, fits⟩ := Reference.exists_body_of_read? found
  refine ⟨body, same, (value?_eq_some_iff noSemicolon).mp isValue, ?_⟩
  rw [Reference.room] at fits
  unfold Fits
  omega

theorem read?_of_replaced (rest : List Char) (replaced : Replaced body value) (fits : Fits body) :
    Reference.read? (body ++ ';' :: rest) = some ⟨value, body.length + 1, rest⟩ := by
  have noSemicolon := replaced.semicolon_notMem
  exact read?_of_value? rest ((value?_eq_some_iff noSemicolon).mpr replaced) noSemicolon fits

theorem decodes_stripFrom (untagged : '<' ∉ text) :
    Decodes Replaced text (Plain.stripFrom ignoreQuotes text) := by
  fun_induction Plain.stripFrom ignoreQuotes text with
  | case1 => exact .nil
  | case2 => simp at untagged
  | case3 ignoreQuotes rest reference found shorter noTag ih =>
    obtain ⟨body, rfl, replaced, fits⟩ := replaced_of_read? found
    exact .reference replaced fits (ih (by simp_all))
  | case4 ignoreQuotes rest missing noTag ih =>
    refine .ampersand ?_ (ih (mt (List.mem_cons_of_mem _) untagged))
    rintro body value after replaced fits rfl
    rw [read?_of_replaced after replaced fits] at missing
    contradiction
  | case5 ignoreQuotes c rest noTag noReference ih =>
    exact .character noReference (ih (mt (List.mem_cons_of_mem _) untagged))

theorem replaced_of_refers (refers : Refers body value) : Replaced body value :=
  (value?_eq_some_iff (semicolon_notMem_of_refers refers)).mp (value?_of_refers refers)

theorem refers_or_falseNumber (replaced : Replaced body value) :
    Refers body value ∨ (∃ digits, body = '#' :: digits) ∧ ∀ value, ¬Refers body value := by
  cases replaced with
  | named nonempty isName => exact .inl (.named nonempty isName)
  | @numbered digits number numbers =>
    by_cases signed : '+' ∈ digits
    · exact .inr ⟨⟨_, rfl⟩, fun value refers => (numbers_of_refers refers).1 signed⟩
    · exact .inl (refers_of_numbers numbers signed)
  | noNumber _ none =>
    refine .inr ⟨⟨_, rfl⟩, fun value refers => ?_⟩
    obtain ⟨-, number, numbers, -⟩ := numbers_of_refers refers
    exact none number numbers

/-- Texts are cut at their first semicolons in one way. -/
theorem eq_of_append_semicolon (noSemicolon : ';' ∉ body) (noSemicolon' : ';' ∉ body')
    (same : body ++ ';' :: rest = body' ++ ';' :: rest') : body = body' ∧ rest = rest' := by
  rcases List.append_eq_append_iff.mp same with ⟨more, rfl, same⟩ | ⟨more, rfl, same⟩ <;>
    cases more with
    | nil => simp_all
    | cons c more => simp_all

theorem holdsFalseNumber_cons :
    HoldsFalseNumber (c :: rest) ↔ c = '&' ∧ FalseNumber rest ∨ HoldsFalseNumber rest := by
  constructor
  · rintro ⟨behind, isSuffix, falseNumber⟩
    rcases List.suffix_cons_iff.mp isSuffix with same | isSuffix
    · obtain ⟨rfl, rfl⟩ := List.cons.inj same
      exact .inl ⟨rfl, falseNumber⟩
    · exact .inr ⟨behind, isSuffix, falseNumber⟩
  · rintro (⟨rfl, falseNumber⟩ | ⟨behind, isSuffix, falseNumber⟩)
    · exact ⟨rest, List.suffix_rfl, falseNumber⟩
    · exact ⟨behind, isSuffix.trans (List.suffix_cons c rest), falseNumber⟩

theorem holdsFalseNumber_append {front : List Char} (absent : '&' ∉ front) :
    HoldsFalseNumber (front ++ rest) ↔ HoldsFalseNumber rest := by
  induction front with
  | nil => rfl
  | cons c front ih =>
    rw [List.mem_cons, not_or] at absent
    rw [List.cons_append, holdsFalseNumber_cons, ih absent.2]
    simp [Ne.symm absent.1]

theorem holdsFalseNumber_reference (refers : Refers body value) :
    HoldsFalseNumber ('&' :: (body ++ ';' :: rest)) ↔ HoldsFalseNumber rest := by
  have absent : '&' ∉ body ++ [';'] := by
    have inside := notMem_of_refers refers (show '&' ≠ '#' by decide) rfl (by decide)
    simpa using inside
  have sound : ¬FalseNumber (body ++ ';' :: rest) := by
    rintro ⟨digits, rest', same, noSemicolon, -, none⟩
    rw [← List.cons_append] at same
    obtain ⟨rfl, -⟩ := eq_of_append_semicolon (semicolon_notMem_of_refers refers)
      (List.not_mem_cons_of_ne_of_not_mem (by decide) noSemicolon) same
    exact none value refers
  rw [holdsFalseNumber_cons, List.append_cons, holdsFalseNumber_append absent]
  simp [sound]

/-! ### Texts that keep everything but their references -/

theorem decodes_refers (decodes : Decodes Replaced text visible) (sound : ¬HoldsFalseNumber text) :
    Decodes Refers text visible := by
  induction decodes with
  | nil => exact .nil
  | character other _ ih =>
    exact .character other (ih fun holds => sound (holdsFalseNumber_cons.mpr (.inr holds)))
  | @reference body rest visible value replaced fits _ ih =>
    rcases refers_or_falseNumber replaced with refers | ⟨⟨digits, rfl⟩, none⟩
    · rw [holdsFalseNumber_reference refers] at sound
      exact .reference refers fits (ih sound)
    · have noSemicolon := mt (List.mem_cons_of_mem '#') replaced.semicolon_notMem
      refine absurd (holdsFalseNumber_cons.mpr (.inl ⟨rfl, ?_⟩)) sound
      exact ⟨digits, rest, rfl, noSemicolon, fits, none⟩
  | ampersand noReference _ ih =>
    exact .ampersand (fun body value after refers => noReference body value after
      (replaced_of_refers refers))
      (ih fun holds => sound (holdsFalseNumber_cons.mpr (.inr holds)))

theorem Grammar.Decodes.behind_character (decodes : Decodes Stands (c :: rest) visible)
    (other : c ≠ '&') : ∃ behind, visible = c :: behind ∧ Decodes Stands rest behind := by
  cases decodes with
  | character _ decodes => exact ⟨_, rfl, decodes⟩
  | reference | ampersand => contradiction

theorem Grammar.Decodes.behind_reference
    (decodes : Decodes Refers ('&' :: (body ++ ';' :: rest)) visible)
    (refers : Refers body value) (fits : Fits body) :
    ∃ behind, visible = value :: behind ∧ Decodes Refers rest behind := by
  generalize whole : body ++ ';' :: rest = text at decodes
  cases decodes with
  | character other => contradiction
  | reference refers' _ decodes =>
    obtain ⟨rfl, rfl⟩ := eq_of_append_semicolon (semicolon_notMem_of_refers refers)
      (semicolon_notMem_of_refers refers') whole
    have same := (value?_of_refers refers).symm.trans (value?_of_refers refers')
    exact ⟨_, by rw [Option.some.inj same], decodes⟩
  | ampersand noReference => exact (noReference body value rest refers fits whole.symm).elim

theorem Grammar.Decodes.behind_ampersand (decodes : Decodes Stands ('&' :: rest) visible)
    (noReference : ∀ body value after, Stands body value → Fits body →
      rest ≠ body ++ ';' :: after) :
    ∃ behind, visible = '&' :: behind ∧ Decodes Stands rest behind := by
  generalize first : '&' = c at decodes
  cases decodes with
  | character other => exact absurd first.symm other
  | reference stands fits => exact (noReference _ _ _ stands fits rfl).elim
  | ampersand _ decodes => exact ⟨_, rfl, decodes⟩

-- A reference is passed over as a whole, so the recursion is on the length of the text.
theorem exists_decodes (Stands : List Char → Char → Prop) (text : List Char) :
    ∃ visible, Decodes Stands text visible := by
  match text with
  | [] => exact ⟨[], .nil⟩
  | c :: rest =>
    by_cases other : c = '&'
    · subst other
      by_cases begins : ∃ body value after, Stands body value ∧ Fits body ∧
          rest = body ++ ';' :: after
      · obtain ⟨body, value, after, stands, fits, same⟩ := begins
        have shorter : after.length < rest.length := by
          rw [same, List.length_append, List.length_cons]
          omega
        obtain ⟨visible, decodes⟩ := exists_decodes Stands after
        exact ⟨value :: visible, same ▸ .reference stands fits decodes⟩
      · obtain ⟨visible, decodes⟩ := exists_decodes Stands rest
        refine ⟨'&' :: visible, .ampersand ?_ decodes⟩
        exact fun body value after stands fits same =>
          begins ⟨body, value, after, stands, fits, same⟩
    · obtain ⟨visible, decodes⟩ := exists_decodes Stands rest
      exact ⟨c :: visible, .character other decodes⟩
termination_by text.length
decreasing_by
  · exact Nat.lt_succ_of_lt shorter
  · exact Nat.lt_succ_self _
  · exact Nat.lt_succ_self _

theorem Grammar.Decodes.unique (decodes : Decodes Refers text visible)
    (decodes' : Decodes Refers text visible') : visible' = visible := by
  induction decodes generalizing visible' with
  | nil =>
    cases decodes'
    rfl
  | character other _ ih =>
    obtain ⟨behind, rfl, reads⟩ := decodes'.behind_character other
    rw [ih reads]
  | reference refers fits _ ih =>
    obtain ⟨behind, rfl, reads⟩ := decodes'.behind_reference refers fits
    rw [ih reads]
  | ampersand noReference _ ih =>
    obtain ⟨behind, rfl, reads⟩ := decodes'.behind_ampersand noReference
    rw [ih reads]

/-- A text is read alike behind a semicolon whatever stands before it, since a reference does not
reach beyond the next one. -/
theorem Grammar.Decodes.behind_semicolon
    (decodes : Decodes Refers (body ++ ';' :: rest) visible) (noSemicolon : ';' ∉ body) :
    ∃ behind, Decodes Refers rest behind ∧ behind.length < visible.length := by
  induction body generalizing visible with
  | nil =>
    obtain ⟨behind, rfl, reads⟩ := decodes.behind_character (by decide)
    exact ⟨behind, reads, Nat.lt_succ_self _⟩
  | cons c body ih =>
    have later := mt (List.mem_cons_of_mem c) noSemicolon
    rw [List.cons_append] at decodes
    generalize whole : body ++ ';' :: rest = text at decodes
    cases decodes with
    | character _ decodes | ampersand _ decodes =>
      obtain ⟨behind, decodes, shorter⟩ := ih (whole ▸ decodes) later
      exact ⟨behind, decodes, Nat.lt_succ_of_lt shorter⟩
    | reference refers _ decodes =>
      obtain ⟨rfl, rfl⟩ := eq_of_append_semicolon later (semicolon_notMem_of_refers refers) whole
      exact ⟨_, decodes, Nat.lt_succ_self _⟩

/-- What is left of a text is shorter if a false number is replaced in it. -/
theorem length_of_decodes (decodes : Decodes Replaced text visible)
    (decodes' : Decodes Refers text visible') : visible.length ≤ visible'.length ∧
      (HoldsFalseNumber text → visible.length < visible'.length) := by
  induction decodes generalizing visible' with
  | nil =>
    refine ⟨Nat.zero_le _, ?_⟩
    rintro ⟨behind, isSuffix, -⟩
    exact absurd (List.suffix_nil.mp isSuffix) (List.cons_ne_nil _ _)
  | character other _ ih =>
    obtain ⟨behind, rfl, reads⟩ := decodes'.behind_character other
    obtain ⟨shorter, strictly⟩ := ih reads
    refine ⟨Nat.succ_le_succ shorter, fun holds => Nat.succ_lt_succ (strictly ?_)⟩
    exact (holdsFalseNumber_cons.mp holds).resolve_left fun here => other here.1
  | @reference body rest visible value replaced fits _ ih =>
    rcases refers_or_falseNumber replaced with refers | ⟨-, none⟩
    · obtain ⟨behind, rfl, reads⟩ := decodes'.behind_reference refers fits
      obtain ⟨shorter, strictly⟩ := ih reads
      rw [holdsFalseNumber_reference refers]
      exact ⟨Nat.succ_le_succ shorter, fun holds => Nat.succ_lt_succ (strictly holds)⟩
    · -- The false number is lost in one reading only, and both go on behind its semicolon.
      have noReference : ∀ body' value after, Refers body' value → Fits body' →
          body ++ ';' :: rest ≠ body' ++ ';' :: after := by
        intro body' value after refers _ same
        obtain ⟨rfl, -⟩ := eq_of_append_semicolon replaced.semicolon_notMem
          (semicolon_notMem_of_refers refers) same
        exact none value refers
      obtain ⟨kept, rfl, reads⟩ := decodes'.behind_ampersand noReference
      obtain ⟨behind, reads, longer⟩ := reads.behind_semicolon replaced.semicolon_notMem
      have strictly : (value :: visible).length < ('&' :: kept).length :=
        Nat.succ_lt_succ (Nat.lt_of_le_of_lt (ih reads).1 longer)
      exact ⟨Nat.le_of_lt strictly, fun _ => strictly⟩
  | @ampersand rest visible noReference _ ih =>
    obtain ⟨behind, rfl, reads⟩ := decodes'.behind_ampersand
      fun body value after refers => noReference body value after (replaced_of_refers refers)
    obtain ⟨shorter, strictly⟩ := ih reads
    refine ⟨Nat.succ_le_succ shorter, fun holds => Nat.succ_lt_succ (strictly ?_)⟩
    refine (holdsFalseNumber_cons.mp holds).resolve_left ?_
    rintro ⟨-, digits, after, rfl, noSemicolon, fits, -⟩
    have replaced := (value?_eq_some_iff (List.not_mem_cons_of_ne_of_not_mem
      (show ';' ≠ '#' by decide) noSemicolon)).mp rfl
    exact noReference _ _ after replaced fits rfl

theorem decodes_strip {text : String} (untagged : '<' ∉ text.toList) :
    Decodes Replaced text.toList (strip text).toList := by
  rw [strip_eq_plain, Plain.strip, String.toList_ofList]
  exact decodes_stripFrom untagged

theorem decodes_strip_iff {text : String} (untagged : '<' ∉ text.toList) :
    Decodes Refers text.toList (strip text).toList ↔ ¬HoldsFalseNumber text.toList := by
  have decodes := decodes_strip untagged
  constructor
  · intro keeps holds
    exact absurd ((length_of_decodes decodes keeps).2 holds) (Nat.lt_irrefl _)
  · exact decodes_refers decodes

/-- A text without markup is read from left to right. There is one way to keep everything of it but
its well-formed references and to replace these, and this is what is left of it exactly if it holds
no false number. -/
theorem strip_of_untagged (text : String) (untagged : '<' ∉ text.toList) :
    Decodes Replaced text.toList (strip text).toList ∧
      (∃! visible, Decodes Refers text.toList visible) ∧
      (Decodes Refers text.toList (strip text).toList ↔ ¬HoldsFalseNumber text.toList) := by
  obtain ⟨visible, decodes⟩ := exists_decodes Refers text.toList
  exact ⟨decodes_strip untagged, ⟨visible, decodes, fun _ => decodes.unique⟩,
    decodes_strip_iff untagged⟩

/-- A number with a sign, and a text without numbers. -/
theorem strip_of_untagged_signed :
    Decodes Replaced "R&D; &#+65;".toList "R  A".toList ∧
    ¬Decodes Refers "R&D; &#+65;".toList "R  A".toList ∧
    Decodes Refers "fish & chips; AT&amp;T".toList "fish & chips; AT&T".toList := by
  have signed : strip "R&D; &#+65;" = "R  A" := by cbv
  have named : strip "fish & chips; AT&amp;T" = "fish & chips; AT&T" := by cbv
  obtain ⟨decodes, -, keeps⟩ := strip_of_untagged "R&D; &#+65;" (by decide)
  obtain ⟨-, -, keeps'⟩ := strip_of_untagged "fish & chips; AT&amp;T" (by decide)
  rw [signed] at decodes keeps
  rw [named] at keeps'
  refine ⟨decodes, fun reads => keeps.mp reads ?_, keeps'.mpr ?_⟩
  · refine ⟨"#+65;".toList, by decide, ['+', '6', '5'], [], rfl, by decide, by decide, ?_⟩
    exact fun value refers => (numbers_of_refers refers).1 List.mem_cons_self
  · rintro ⟨rest, isSuffix, digits, after, rfl, -⟩
    have mark := isSuffix.subset (List.mem_cons_of_mem '&' List.mem_cons_self)
    exact absurd mark (by decide)

/-- The words between a number sign and a semicolon are lost. -/
theorem strip_loses_words :
    strip "Tom &# Jerry; Spike" = "Tom   Spike" ∧
    ¬∀ text : String, '<' ∉ text.toList → Decodes Refers text.toList (strip text).toList := by
  refine ⟨by cbv, fun keeps => ?_⟩
  have untagged : '<' ∉ "Tom &# Jerry; Spike".toList := by decide
  refine (decodes_strip_iff untagged).mp (keeps _ untagged) ?_
  refine ⟨"# Jerry; Spike".toList, by decide, " Jerry".toList, " Spike".toList, rfl, by decide,
    by decide, fun value refers => ?_⟩
  have noSpace : ' ' ∉ '#' :: " Jerry".toList :=
    notMem_of_refers refers (by decide) rfl (by decide)
  exact noSpace (by decide)

end Relevance.Html
