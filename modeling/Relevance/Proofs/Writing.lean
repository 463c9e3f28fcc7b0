import Relevance.Proofs.Placement
import Relevance.Proofs.Spelling

/-! Which token lists are read from queries, and a query for each of them.

A list is read from some query if its words are not empty and its boosts are texts that can stand
behind a circumflex and stand directly after what they can apply to. The query for it has a
backslash before every character of its words and phrases, so that none of them is an operator or
ends its token.
-/

set_option autoImplicit false

namespace Relevance.Query.Token

def Sound : Token → Prop
  | word text => text ≠ ""
  | boost text => text ≠ "" ∧ ∀ c ∈ text.toList, isBoundary c = false
  | _ => True

structure Placed (tokens : List Token) : Prop where
  sound : ∀ token ∈ tokens, token.Sound
  boosts : BoostsPlaced none tokens

def written : Token → List Char
  | word text => escape text.toList
  | phrase text => '"' :: (escape text.toList ++ ['"'])
  | boost text => '^' :: text.toList
  | leftParen => ['(']
  | rightParen => [')']
  | and => ['A', 'N', 'D']
  | or => ['O', 'R']
  | not => ['N', 'O', 'T']

/-- Tokens as they are written behind another one: a boost directly, any other after a space. -/
def writtenBehind : List Token → List Char
  | [] => []
  | .boost text :: rest => (boost text).written ++ writtenBehind rest
  | token :: rest => ' ' :: (token.written ++ writtenBehind rest)

def write : List Token → String
  | [] => ""
  | token :: rest => String.ofList (token.written ++ writtenBehind rest)

variable {escaped boostable adjacent : Bool} {c : Char} {token : Token}
  {done tokens others : List Token} {before chars rest after : List Char}

theorem length_le_readWord (before : List Char) (escaped : Bool) (chars : List Char) :
    before.length ≤ (readWord before escaped chars).1.length := by
  fun_induction readWord before escaped chars with
  | case1 | case3 => simp
  | case2 _ _ _ _ ih | case4 _ _ _ _ _ _ ih => exact (Nat.le_succ _).trans ih

theorem readWordFrom_ne_nil (c : Char) (rest : List Char) : (readWordFrom c rest).1 ≠ [] := by
  apply List.ne_nil_of_length_pos
  unfold readWordFrom
  split
  · exact length_le_readWord [_] true _
  · exact length_le_readWord [_] false _

theorem sound_ofWord {text : String} (nonempty : text ≠ "") : (ofWord escaped text).Sound := by
  unfold ofWord
  split_ifs <;> first | exact nonempty | trivial

theorem sound_of_read (found : read boostable c rest = .ok (token, after)) : token.Sound := by
  cases lexeme_of_read found with
  | boost _ _ taken =>
    obtain ⟨-, nonempty, inside, -⟩ := readBoost?_eq_some_iff.mp taken
    exact ⟨by simpa using nonempty, by simpa using inside⟩
  | word =>
    have nonempty := readWordFrom_ne_nil c rest
    exact sound_ofWord fun empty => nonempty (String.ofList_eq_empty_iff.mp empty)
  | _ => trivial

theorem sound_readFrom (found : readFrom adjacent done chars = .ok tokens)
    (sound : ∀ token ∈ done, token.Sound) : ∀ token ∈ tokens, token.Sound := by
  fun_induction readFrom adjacent done chars with
  | case1 adjacent done =>
    obtain rfl := Except.ok.inj found
    simpa using sound
  | case2 adjacent done c rest blank ih => exact ih found sound
  | case3 => contradiction
  | case4 adjacent done c rest solid token after read shorter ih =>
    exact ih found (List.forall_mem_cons.mpr ⟨sound_of_read read, sound⟩)

theorem placed_ofQuery {query : String} (found : ofQuery query = .ok tokens) : Placed tokens :=
  ⟨sound_readFrom found nofun, boostsPlaced_ofQuery found⟩

theorem writtenBehind_cons (other : ∀ text, token ≠ .boost text) :
    writtenBehind (token :: others) = ' ' :: (token.written ++ writtenBehind others) := by
  cases token with
  | boost text => exact absurd rfl (other text)
  | _ => rfl

theorem endsWord_writtenBehind (tokens : List Token) : EndsWord (writtenBehind tokens) := by
  cases tokens with
  | nil => exact endsWord_nil
  | cons token rest => cases token <;> exact endsWord_cons.mpr (by decide)

/-- Every token but a boost is read wherever it is written. -/
theorem spellsTightly_written (sound : token.Sound) (other : ∀ text, token ≠ .boost text) :
    SpellsTightly token.written [token] := by
  cases token with
  | word text =>
    have nonempty : text.toList ≠ [] := fun empty => sound (String.toList_eq_nil_iff.mp empty)
    have escaped := spellsTightly_escape_word nonempty
    rwa [String.ofList_toList] at escaped
  | phrase text =>
    have escaped := spellsTightly_escape_phrase text.toList
    rwa [String.ofList_toList] at escaped
  | boost text => exact absurd rfl (other text)
  | leftParen | rightParen => exact fun _ _ _ _ _ => readFrom_of_read (by decide) rfl
  | and | or | not => exact spellsTightly_alphanumeric (by decide)

theorem readFrom_writtenBehind (sound : ∀ token ∈ tokens, token.Sound)
    (placed : BoostsPlaced done.head? tokens) :
    readFrom true done (writtenBehind tokens) = .ok (done.reverse ++ tokens) := by
  induction tokens generalizing done with
  | nil => simp [writtenBehind, readFrom]
  | cons token rest ih =>
    obtain ⟨here, others⟩ := List.forall_mem_cons.mp sound
    obtain ⟨accepted, behind⟩ := placed
    have after : readFrom true (token :: done) (writtenBehind rest) =
        .ok (done.reverse ++ token :: rest) := by
      have read := @ih (token :: done) others behind
      rwa [List.reverse_cons, List.append_assoc, List.singleton_append] at read
    have ends := endsWord_writtenBehind rest
    by_cases isBoost : ∃ text, token = .boost text
    · obtain ⟨text, rfl⟩ := isBoost
      have boost := readFrom_boost (accepted text rfl) (by simpa using here.1) here.2 ends
      rw [String.ofList_toList] at boost
      exact boost.trans after
    · have other : ∀ text, token ≠ .boost text := fun text same => isBoost ⟨text, same⟩
      rw [writtenBehind_cons other, readFrom_of_isWhitespace (by decide),
        spellsTightly_written here other false done _ rfl ends]
      exact after

theorem ofQuery_write (placed : Placed tokens) : ofQuery (write tokens) = .ok tokens := by
  cases tokens with
  | nil => simp [write, ofQuery, readFrom]
  | cons token rest =>
    obtain ⟨sound, unboosted, boosts⟩ := placed
    obtain ⟨here, others⟩ := List.forall_mem_cons.mp sound
    have first : ∀ text, token ≠ .boost text := by
      intro text isBoost
      exact absurd (unboosted text isBoost) (by decide)
    rw [write, ofQuery, String.toList_ofList, spellsTightly_written here first false [] _ rfl
      (endsWord_writtenBehind rest)]
    exact readFrom_writtenBehind others boosts

/-- Tokens are read from a query exactly if their words and boosts have sound texts and their boosts
stand in place, and writing them is one way to have them read. -/
theorem read_and_written :
    (∀ query tokens, ofQuery query = .ok tokens → Placed tokens) ∧
      ∀ tokens, Placed tokens → ofQuery (write tokens) = .ok tokens :=
  ⟨fun _ _ => placed_ofQuery, fun _ => ofQuery_write⟩

/-- A keyword as a word, reserved characters in texts, and a boost of a word and of a group. -/
theorem read_and_written_keyword :
    ofQuery "\\N\\O\\T^2 AND ( \"\\\"\\ \\^\" )^x OR \\(" = .ok [.word "NOT", .boost "2", .and,
      .leftParen, .phrase "\" ^", .rightParen, .boost "x", .or, .word "("] ∧
    Placed [.word "NOT", .boost "2", .and, .leftParen, .phrase "\" ^", .rightParen, .boost "x", .or,
      .word "("] := by
  obtain ⟨placed, read⟩ := read_and_written
  have digit : isBoundary '2' = false := by decide
  have letter : isBoundary 'x' = false := by decide
  have sound : Placed [.word "NOT", .boost "2", .and, .leftParen, .phrase "\" ^", .rightParen,
      .boost "x", .or, .word "("] :=
    ⟨by simp [Sound, digit, letter], by simp [BoostsPlaced, acceptsBoost]⟩
  have reads := read _ sound
  have text : write [.word "NOT", .boost "2", .and, .leftParen, .phrase "\" ^", .rightParen,
      .boost "x", .or, .word "("] = "\\N\\O\\T^2 AND ( \"\\\"\\ \\^\" )^x OR \\(" := by
    cbv
  rw [text] at reads
  exact ⟨reads, placed _ _ reads⟩

end Relevance.Query.Token
