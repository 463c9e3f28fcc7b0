import Mathlib
import Relevance.Query.Token

/-! How a text is read as tokens when something stands behind it.

What ends a word ends every token before it, so the tokens of a text stay the same in front of white
space, a parenthesis, a quotation mark or a boost, unless the text ends in a backslash that takes
the meaning from the character behind it.
-/

set_option autoImplicit false

namespace Relevance.Query.Token

/-- Nothing stands here, or a character before which a word ends. -/
def EndsWord (rest : List Char) : Prop :=
  ∀ c, rest.head? = some c → isBoundary c = true

def backslashes (text : List Char) : Nat :=
  (text.rtakeWhile (· = '\\')).length

def boostable (adjacent : Bool) (done : List Token) : Bool :=
  adjacent && done.head?.any acceptsBoost

variable {adjacent escaped : Bool} {c other : Char} {done tokens : List Token}
  {token : Token} {before text body chars rest after : List Char}

theorem endsWord_nil : EndsWord [] := nofun

theorem endsWord_cons : EndsWord (c :: rest) ↔ isBoundary c = true := by
  simp [EndsWord]

theorem isBoundary_backslash : isBoundary '\\' = false := by decide

theorem ne_backslash_of_isBoundary (boundary : isBoundary c = true) : c ≠ '\\' := by
  rintro rfl
  contradiction

theorem backslashes_nil : backslashes [] = 0 := by
  simp [backslashes]

theorem backslashes_le_length (text : List Char) : backslashes text ≤ text.length :=
  (List.rtakeWhile_suffix _ text).length_le

theorem backslashes_cons : backslashes (c :: rest) =
    if backslashes rest = rest.length ∧ c = '\\' then rest.length + 1 else backslashes rest := by
  simp only [backslashes, List.rtakeWhile, List.reverse_cons, List.length_reverse,
    List.takeWhile_append]
  by_cases all : (rest.reverse.takeWhile (· = '\\')).length = rest.length
  · by_cases isBackslash : c = '\\' <;> simp [all, isBackslash]
  · simp [all]

theorem backslashes_cons_of_ne (other : c ≠ '\\') : backslashes (c :: rest) = backslashes rest := by
  simp [backslashes_cons, other]

-- A backslash and the character behind it leave the rest as it is, even if that is a backslash.
theorem even_backslashes_escape :
    Even (backslashes ('\\' :: c :: rest)) ↔ Even (backslashes rest) := by
  have short := backslashes_le_length rest
  simp only [backslashes_cons, List.length_cons]
  by_cases all : backslashes rest = rest.length
  · by_cases isBackslash : c = '\\'
    · simp [all, isBackslash, Nat.even_add_one]
    · simp [all, isBackslash]
  · have notBehind : backslashes rest ≠ rest.length + 1 := by omega
    simp [all, notBehind]

theorem backslashes_append_of_ne (front : List Char) (other : c ≠ '\\') :
    backslashes (front ++ c :: rest) = backslashes rest := by
  induction front with
  | nil => exact backslashes_cons_of_ne other
  | cons first front ih =>
    have short := backslashes_le_length rest
    rw [List.cons_append, backslashes_cons, ih, if_neg]
    simp only [List.length_append, List.length_cons]
    omega

theorem not_even_backslashes_singleton : ¬Even (backslashes ['\\']) := by
  decide

theorem readWord_escape :
    readWord before escaped ('\\' :: c :: rest) = readWord (c :: before) true rest := rfl

theorem readWord_boundary (boundary : isBoundary c = true) :
    readWord before escaped (c :: rest) = (before.reverse, escaped, c :: rest) := by
  rw [readWord.eq_def]
  split
  · contradiction
  · next same => exact absurd (List.cons.inj same).1 (ne_backslash_of_isBoundary boundary)
  · next same =>
    obtain ⟨rfl, rfl⟩ := List.cons.inj same
    exact if_pos boundary

theorem readWord_inside (inside : isBoundary c = false) (other : c ≠ '\\') :
    readWord before escaped (c :: rest) = readWord (c :: before) escaped rest := by
  rw [readWord.eq_def]
  split
  · contradiction
  · next same => exact absurd (List.cons.inj same).1 other
  · next same =>
    obtain ⟨rfl, rfl⟩ := List.cons.inj same
    exact if_neg (ne_true_of_eq_false inside)

theorem readWord_of_endsWord (ends : EndsWord rest) :
    readWord before escaped rest = (before.reverse, escaped, rest) := by
  cases rest with
  | nil => rfl
  | cons c rest => exact readWord_boundary (endsWord_cons.mp ends)

theorem readWord_append (even : Even (backslashes chars)) (ends : EndsWord rest) :
    readWord before escaped (chars ++ rest) =
        ((readWord before escaped chars).1, (readWord before escaped chars).2.1,
          (readWord before escaped chars).2.2 ++ rest) ∧
      Even (backslashes (readWord before escaped chars).2.2) := by
  fun_induction readWord before escaped chars with
  | case1 => exact ⟨readWord_of_endsWord ends, even⟩
  | case2 before escaped c chars ih => exact ih (even_backslashes_escape.mp even)
  | case3 before escaped c chars notEscape boundary =>
    exact ⟨readWord_boundary boundary, even⟩
  | case4 before escaped c chars notEscape inside ih =>
    have other : c ≠ '\\' := by
      rintro rfl
      cases chars with
      | nil => exact not_even_backslashes_singleton even
      | cons c chars => exact notEscape c chars rfl rfl
    rw [backslashes_cons_of_ne other] at even
    rw [List.cons_append, readWord_inside (eq_false_of_ne_true inside) other]
    exact ih even

theorem readWordFrom_append (even : Even (backslashes (c :: chars))) (ends : EndsWord rest) :
    readWordFrom c (chars ++ rest) =
        ((readWordFrom c chars).1, (readWordFrom c chars).2.1, (readWordFrom c chars).2.2 ++ rest) ∧
      Even (backslashes (readWordFrom c chars).2.2) := by
  by_cases isBackslash : c = '\\'
  · subst isBackslash
    cases chars with
    | nil => exact absurd even not_even_backslashes_singleton
    | cons c chars => exact readWord_append (even_backslashes_escape.mp even) ends
  · rw [backslashes_cons_of_ne isBackslash] at even
    have plain : ∀ chars, readWordFrom c chars = readWord [c] false chars := by
      intro chars
      unfold readWordFrom
      split
      · contradiction
      · rfl
    rw [plain, plain]
    exact readWord_append even ends

theorem readPhrase?_append (found : readPhrase? before chars = some (body, after))
    (even : Even (backslashes chars)) (rest : List Char) :
    readPhrase? before (chars ++ rest) = some (body, after ++ rest) ∧
      Even (backslashes after) := by
  fun_induction readPhrase? before chars with
  | case1 => contradiction
  | case2 before c chars ih => exact ih found (even_backslashes_escape.mp even)
  | case3 before chars =>
    obtain ⟨rfl, rfl⟩ := Prod.mk.inj (Option.some.inj found)
    rw [backslashes_cons_of_ne (by decide)] at even
    exact ⟨rfl, even⟩
  | case4 before c chars notEscape notMark ih =>
    have other : c ≠ '\\' := by
      rintro rfl
      cases chars with
      | nil => exact not_even_backslashes_singleton even
      | cons c chars => exact notEscape c chars rfl rfl
    rw [backslashes_cons_of_ne other] at even
    rw [List.cons_append, readPhrase?]
    · exact ih found even
    · exact fun c' rest' same => absurd same other
    · exact notMark

theorem EndsWord.append (ends : EndsWord after) (ends' : EndsWord rest) :
    EndsWord (after ++ rest) := by
  cases after with
  | nil => exact ends'
  | cons c after => exact ends

theorem readBoost?_eq_some_iff : readBoost? chars = some (body, after) ↔
    chars = body ++ after ∧ body ≠ [] ∧ (∀ c ∈ body, isBoundary c = false) ∧ EndsWord after := by
  constructor
  · intro found
    simp only [readBoost?] at found
    split at found
    · contradiction
    · next nonempty =>
      obtain ⟨rfl, rfl⟩ := Prod.mk.inj (Option.some.inj found)
      refine ⟨List.takeWhile_append_dropWhile.symm, by simpa using nonempty, ?_, ?_⟩
      · intro c isBody
        simpa using List.mem_takeWhile_imp isBody
      · intro c head
        have stops := List.head?_dropWhile_not (!isBoundary ·) chars
        rw [head] at stops
        simpa using stops
  · rintro ⟨rfl, nonempty, inside, ends⟩
    have stops :
        after.takeWhile (!isBoundary ·) = [] ∧ after.dropWhile (!isBoundary ·) = after := by
      cases after with
      | nil => exact ⟨rfl, rfl⟩
      | cons c after => simp [endsWord_cons.mp ends]
    have all : ∀ c ∈ body, (!isBoundary c) = true := by simpa using inside
    rw [readBoost?, List.takeWhile_append_of_pos all, List.dropWhile_append_of_pos all, stops.1,
      stops.2, List.append_nil]
    exact if_neg (by simpa using nonempty)

theorem readBoost?_append (found : readBoost? chars = some (body, after))
    (even : Even (backslashes chars)) (ends : EndsWord rest) :
    readBoost? (chars ++ rest) = some (body, after ++ rest) ∧ Even (backslashes after) := by
  obtain ⟨rfl, nonempty, inside, ends'⟩ := readBoost?_eq_some_iff.mp found
  constructor
  · exact readBoost?_eq_some_iff.mpr ⟨List.append_assoc .., nonempty, inside, ends'.append ends⟩
  · cases after with
    | nil => simp [backslashes_nil]
    | cons c after =>
      have other := ne_backslash_of_isBoundary (endsWord_cons.mp ends')
      rwa [backslashes_append_of_ne body other, ← backslashes_cons_of_ne other] at even

theorem read_of_startsWord {boostable : Bool} (starts : StartsWord c rest) :
    read boostable c rest = .ok (ofWord (readWordFrom c rest).2.1
      (String.ofList (readWordFrom c rest).1), (readWordFrom c rest).2.2) := by
  obtain ⟨noMark, noAnd, noOr⟩ := starts
  unfold read
  split
  case h_5 => exact absurd rfl (noAnd rfl)
  case h_6 => exact absurd rfl (noOr rfl)
  case h_9 => rfl
  all_goals exact absurd (by decide) noMark

theorem StartsWord.append (starts : StartsWord c chars) (ends : EndsWord rest) :
    StartsWord c (chars ++ rest) := by
  cases chars with
  | cons first chars => exact ⟨starts.noMark, starts.noAnd, starts.noOr⟩
  | nil =>
    refine ⟨starts.noMark, fun _ head => ?_, fun _ head => ?_⟩
    · exact absurd (ends _ head) (by decide)
    · exact absurd (ends _ head) (by decide)

theorem read_append {boostable : Bool} (found : read boostable c chars = .ok (token, after))
    (even : Even (backslashes (c :: chars))) (ends : EndsWord rest) :
    read boostable c (chars ++ rest) = .ok (token, after ++ rest) ∧ Even (backslashes after) := by
  have behind : c ≠ '\\' → Even (backslashes chars) := by
    intro other
    rwa [backslashes_cons_of_ne other] at even
  cases lexeme_of_read found with
  | leftParen same | rightParen same | bang same | minus same =>
    subst same
    exact ⟨rfl, behind (by decide)⟩
  | and isMark same | or isMark same =>
    subst isMark same
    have even := behind (by decide)
    rw [backslashes_cons_of_ne (by decide)] at even
    exact ⟨rfl, even⟩
  | phrase isQuote closed =>
    subst isQuote
    obtain ⟨closed, even⟩ := readPhrase?_append closed (behind (by decide)) rest
    simp [read, closed, even]
  | boost isBoost boostable taken =>
    subst isBoost boostable
    obtain ⟨taken, even⟩ := readBoost?_append taken (behind (by decide)) ends
    simp [read, taken, even]
  | word starts =>
    obtain ⟨read, even⟩ := readWordFrom_append even ends
    rw [read_of_startsWord (starts.append ends), read]
    exact ⟨rfl, even⟩

theorem readFrom_of_isWhitespace (blank : Unicode.isWhitespace c = true) :
    readFrom adjacent done (c :: rest) = readFrom false done rest := by
  rw [readFrom, if_pos blank]

theorem readFrom_of_read (solid : Unicode.isWhitespace c = false)
    (found : read (boostable adjacent done) c rest = .ok (token, after)) :
    readFrom adjacent done (c :: rest) = readFrom true (token :: done) after := by
  rw [boostable] at found
  rw [readFrom, if_neg (ne_true_of_eq_false solid)]
  split
  · next failed => rw [found] at failed; contradiction
  · next found' =>
    obtain ⟨rfl, rfl⟩ := Prod.mk.inj (Except.ok.inj (found.symm.trans found'))
    rfl

-- Of what was read before a text it only matters whether a boost may stand there.
theorem readFrom_append (found : readFrom adjacent done chars = .ok tokens)
    (even : Even (backslashes chars)) :
    ∃ new, tokens = done.reverse ++ new ∧ ∀ adjacent' done' rest,
      boostable adjacent' done' = boostable adjacent done → EndsWord rest → ∃ behind,
        readFrom adjacent' done' (chars ++ rest) =
          readFrom behind (new.reverse ++ done') rest := by
  fun_induction readFrom adjacent done chars with
  | case1 adjacent done =>
    obtain rfl := Except.ok.inj found
    exact ⟨[], (List.append_nil _).symm, fun adjacent' _ _ _ _ => ⟨adjacent', rfl⟩⟩
  | case2 adjacent done c chars blank ih =>
    rw [backslashes_cons_of_ne (ne_backslash_of_isBoundary (by simp [isBoundary, blank]))] at even
    obtain ⟨new, same, reads⟩ := ih found even
    refine ⟨new, same, fun adjacent' done' rest _ ends => ?_⟩
    rw [List.cons_append, readFrom_of_isWhitespace blank]
    exact reads false done' rest rfl ends
  | case3 => contradiction
  | case4 adjacent done c chars solid token after read shorter ih =>
    obtain ⟨-, evenAfter⟩ := read_append read even endsWord_nil
    obtain ⟨new, rfl, reads⟩ := ih found evenAfter
    refine ⟨token :: new, by simp, fun adjacent' done' rest same ends => ?_⟩
    have read' := (read_append read even ends).1
    rw [← boostable, ← same] at read'
    obtain ⟨behind, reads⟩ := reads true (token :: done') rest rfl ends
    refine ⟨behind, ?_⟩
    rw [List.cons_append, readFrom_of_read (eq_false_of_ne_true solid) read', reads,
      List.reverse_cons, List.append_assoc, List.singleton_append]

end Relevance.Query.Token
