import Relevance.Proofs.Tokens

/-! A space separates the terms of the texts on either side of it.

No boundary rule sees further back than to the last two characters that are not passed over, and
none looks beyond a space. Marks at the front of the second text go with the space and not by
themselves, but this moves only the boundary before them, and no term is changed by it.
-/

set_option autoImplicit false

namespace Relevance

open Unicode

namespace Unicode.RangeTable

variable {α : Type} {code : Nat} {value : α}

def toRows : RangeTable α → List (Nat × Nat × α)
  | empty => []
  | node left first last value right => left.toRows ++ (first, last, value) :: right.toRows

theorem toRows_fill (depth : Nat) (rows : List (Nat × Nat × α)) :
    (fill depth rows).1.toRows ++ (fill depth rows).2 = rows := by
  induction depth generalizing rows with
  | zero => rfl
  | succ depth ih =>
    have left := ih rows
    rw [fill]
    split
    · next found =>
      rw [found] at left
      exact left
    · next first last value rest found =>
      rw [found] at left
      have right := ih rest
      simp only [toRows, List.append_assoc, List.cons_append, right]
      exact left

theorem mem_toRows_of_find? {table : RangeTable α} (found : table.find? code = some value) :
    ∃ first last, (first, last, value) ∈ table.toRows ∧ first ≤ code ∧ code ≤ last := by
  induction table with
  | empty => contradiction
  | node left first last value' right ihLeft ihRight =>
    rw [find?] at found
    split at found
    · obtain ⟨first', last', isRow, within⟩ := ihLeft found
      exact ⟨first', last', List.mem_append_left _ isRow, within⟩
    · split at found
      · obtain ⟨first', last', isRow, within⟩ := ihRight found
        exact ⟨first', last', List.mem_append_right _ (List.mem_cons_of_mem _ isRow), within⟩
      · obtain rfl := Option.some.inj found
        exact ⟨first, last, List.mem_append_right _ List.mem_cons_self, by omega⟩

/-- What is found in a table stands in one of the rows from which it was built. -/
theorem mem_of_find?_ofRows {rows : List (Nat × Nat × α)}
    (found : (ofRows rows).find? code = some value) :
    ∃ first last, (first, last, value) ∈ rows ∧ first ≤ code ∧ code ≤ last := by
  obtain ⟨first, last, isRow, within⟩ := mem_toRows_of_find? found
  refine ⟨first, last, ?_, within⟩
  rw [← toRows_fill (rows.length.log2 + 1) rows]
  exact List.mem_append_left _ isRow

end Unicode.RangeTable

variable {c : Char}

/-- No space is part of a term. -/
theorem isAlphanumeric_of_space (space : WordBreak.ofChar c = .wSegSpace) :
    isAlphanumeric c = false := by
  unfold WordBreak.ofChar at space
  split at space
  · next ascii =>
    have all : ∀ code < 128, WordBreak.ofAscii (Char.ofNat code) = .wSegSpace →
        isAlphanumeric (Char.ofNat code) = false := by decide +kernel
    have same := all c.toNat ascii
    rw [Char.ofNat_toNat] at same
    exact same space
  · have found : WordBreak.table.find? c.toNat = some .wSegSpace := by
      cases found : WordBreak.table.find? c.toNat with
      | none => rw [found] at space; contradiction
      | some value => rw [found] at space; exact congrArg some space
    obtain ⟨first, last, isRow, low, high⟩ := RangeTable.mem_of_find?_ofRows found
    have all : ∀ row ∈ WordBreak.rows, row.2.2 = .wSegSpace → ∀ offset < row.2.1 + 1 - row.1,
        isAlphanumeric (Char.ofNat (row.1 + offset)) = false := by decide +kernel
    have same := all _ isRow rfl (c.toNat - first) (by simp only; omega)
    rwa [Nat.add_sub_cancel' low, Char.ofNat_toNat] at same

/-! ### What the boundary rules do not see -/

/-- Classes that no rule asks for in the last two characters that are not passed over. -/
def Unicode.WordBreak.isInert : WordBreak → Bool
  | .other | .cr | .lf | .newline | .extend | .zwj | .format | .wSegSpace => true
  | _ => false

namespace Text

open WordBreak

namespace Boundary

variable {before before' : Boundary} {next : WordBreak} {rest back : List Char}

/-- No rule tells two boundaries apart: the characters right before them are of the same class, and
so are the last two that are not passed over, up to classes that no rule asks for there. -/
structure Agrees (before before' : Boundary) : Prop where
  last : before.last = before'.last
  oddIndicators : before.oddIndicators = before'.oddIndicators
  passed : before.base.isInert = true ∧ before'.base.isInert = true ∨
    before.base = before'.base ∧ (before.previous = before'.previous ∨
      before.previous.isInert = true ∧ before'.previous.isInert = true)

theorem joinsBase_of_inert (inert : before.base.isInert = true) :
    before.joinsBase next rest = false := by
  unfold joinsBase
  cases base : before.base <;>
    simp_all [isInert, isLetter, isBetweenLetters, isBetweenDigits, isConnected]

theorem Agrees.joinsBase (agrees : before.Agrees before') :
    before.joinsBase next rest = before'.joinsBase next rest := by
  have unseen : ∀ previous : WordBreak, previous.isInert = true → previous.isLetter = false ∧
      (previous == .hebrewLetter) = false ∧ (previous == .numeric) = false := by
    intro previous inert
    cases previous <;> first | contradiction | decide
  obtain ⟨-, oddIndicators, ⟨inert, inert'⟩ | ⟨base, previous⟩⟩ := agrees
  · rw [joinsBase_of_inert inert, joinsBase_of_inert inert']
  · unfold Boundary.joinsBase
    rcases previous with previous | ⟨inert, inert'⟩
    · rw [base, previous, oddIndicators]
    · simp only [base, oddIndicators, unseen _ inert, unseen _ inert']

theorem Agrees.joins (agrees : before.Agrees before') (c : Char) (rest : List Char) :
    before.joins c rest = before'.joins c rest := by
  unfold Boundary.joins joinsPictograph
  rw [agrees.last]
  simp only [agrees.joinsBase]

theorem Agrees.push (agrees : before.Agrees before') (c : Char) :
    (before.push c).Agrees (before'.push c) := by
  have same : before.classAfter c = before'.classAfter c := by
    unfold classAfter joinsPictograph
    rw [agrees.last]
  unfold Boundary.push
  rw [same, agrees.last]
  dsimp only
  split
  · exact ⟨rfl, agrees.oddIndicators, agrees.passed⟩
  · refine ⟨rfl, by rw [agrees.oddIndicators], .inr ⟨rfl, ?_⟩⟩
    rcases agrees.passed with inert | ⟨base, -⟩
    · exact .inr inert
    · exact .inl base

theorem following_append_space :
    following (rest ++ ' ' :: back) = (following rest).or (some .wSegSpace) := by
  have space : (' ' :: back).find? (fun c => !(ofChar c).isIgnored) = some ' ' := rfl
  rw [following, following, List.find?_append, space]
  cases rest.find? fun c => !(ofChar c).isIgnored <;> rfl

/-- A space ends the text that the rules look ahead to. -/
theorem joins_append_space (before : Boundary) (c : Char) :
    before.joins c (rest ++ ' ' :: back) = before.joins c rest := by
  unfold joins joinsBase
  rw [following_append_space]
  cases following rest <;> rfl

theorem last_push (before : Boundary) (c : Char) : (before.push c).last = before.classAfter c := by
  unfold push
  dsimp only
  split <;> rfl

theorem classAfter_eq_space_iff : before.classAfter c = .wSegSpace ↔
    before.joinsPictograph c = false ∧ ofChar c = .wSegSpace := by
  unfold classAfter
  cases before.joinsPictograph c <;> simp

/-- Only a space holds a space in its segment. -/
theorem last_of_joins_space (space : before.classAfter c = .wSegSpace)
    (joins : before.joins c rest = true) : before.last = .wSegSpace := by
  obtain ⟨alone, isSpace⟩ := classAfter_eq_space_iff.mp space
  have apart : before.joinsBase .wSegSpace rest = false := by
    simp [joinsBase, isLetter, isBetweenLetters, isBetweenDigits, isConnected]
  rw [Boundary.joins, isSpace, alone, apart] at joins
  simp only [isIgnored, Bool.or_false] at joins
  cases last : before.last <;> simp_all [isLineEnd]

structure BehindSpace (before : Boundary) : Prop where
  last : before.last = .wSegSpace
  base : before.base = .wSegSpace
  oddIndicators : before.oddIndicators = false

theorem behindSpace_start : BehindSpace (start ' ') :=
  ⟨rfl, rfl, rfl⟩

theorem classAfter_space (before : Boundary) : before.classAfter ' ' = .wSegSpace := by
  have plain : isPictographic ' ' = false := by decide
  exact classAfter_eq_space_iff.mpr ⟨by rw [joinsPictograph, plain, Bool.and_false], rfl⟩

theorem behindSpace_push (before : Boundary) : BehindSpace (before.push ' ') := by
  rw [push, classAfter_space]
  exact ⟨rfl, rfl, rfl⟩

/-- A text behind a space is cut as it is by itself. -/
theorem BehindSpace.agrees (behind : BehindSpace before) (c : Char) :
    (before.push c).Agrees (start c) := by
  have same : before.classAfter c = ofChar c := by
    rw [classAfter, joinsPictograph, behind.last]
    rfl
  unfold push start
  rw [same, behind.last]
  dsimp only
  split
  · next ignored =>
    have own : (ofChar c).isInert = true ∧ (ofChar c == .regionalIndicator) = false := by
      cases value : ofChar c <;> first | decide | simp [value, isIgnored] at ignored
    exact ⟨rfl, by rw [own.2, behind.oddIndicators], .inl ⟨by rw [behind.base]; rfl, own.1⟩⟩
  · refine ⟨rfl, ?_, .inr ⟨rfl, .inr ⟨by rw [behind.base]; rfl, rfl⟩⟩⟩
    rw [behind.oddIndicators, Bool.not_false, Bool.and_true]

end Boundary

variable {p : Char → Bool} {before before' : Boundary}
  {segment attached front rest text back : List Char}

theorem alphanumericRuns_segmentsFrom_nil :
    alphanumericRuns (segmentsFrom before segment [] []) =
      runs isAlphanumeric segment.reverse :=
  List.flatMap_singleton ..

theorem alphanumericRuns_segmentsFrom_cons :
    alphanumericRuns (segmentsFrom before segment [] (c :: text)) =
      if before.joins c text then
        alphanumericRuns (segmentsFrom (before.push c) (c :: segment) [] text)
      else
        runs isAlphanumeric segment.reverse ++
          alphanumericRuns (segmentsFrom (before.push c) [c] [] text) := by
  rw [segmentsFrom, segmentsFrom_eq_append [segment.reverse], apply_ite alphanumericRuns]
  rfl

theorem runs_reverse_append_of_none (none : ∀ c ∈ attached, p c = false) :
    runs p (segment ++ attached).reverse = runs p segment.reverse := by
  rw [List.reverse_append]
  exact runs_append_of_none fun c inside => none c (List.mem_reverse.mp inside)

theorem runs_reverse_of_none (none : ∀ c ∈ segment, p c = false) :
    runs p segment.reverse = [] :=
  runs_of_none fun c inside => none c (List.mem_reverse.mp inside)

/-- Boundaries that agree cut what follows alike. What is attached before a segment changes no run
if it is not alphanumeric. -/
theorem Boundary.Agrees.alphanumericRuns (agrees : before.Agrees before') (segment : List Char)
    (none : ∀ c ∈ attached, isAlphanumeric c = false) :
    alphanumericRuns (segmentsFrom before (segment ++ attached) [] text) =
      alphanumericRuns (segmentsFrom before' segment [] text) := by
  induction text generalizing before before' segment attached with
  | nil =>
    rw [alphanumericRuns_segmentsFrom_nil, alphanumericRuns_segmentsFrom_nil,
      runs_reverse_append_of_none none]
  | cons c text ih =>
    rw [alphanumericRuns_segmentsFrom_cons, alphanumericRuns_segmentsFrom_cons, agrees.joins,
      runs_reverse_append_of_none none]
    split
    · exact ih (agrees.push c) (c :: segment) none
    · exact congrArg _ (ih (agrees.push c) [c] (List.forall_mem_nil _))

/-- The text behind a space has the runs that it has by itself. -/
theorem Boundary.BehindSpace.alphanumericRuns (behind : BehindSpace before)
    (none : ∀ c ∈ segment, isAlphanumeric c = false) :
    alphanumericRuns (segmentsFrom before segment [] back) = alphanumericRuns (segments back) := by
  cases back with
  | nil =>
    rw [alphanumericRuns_segmentsFrom_nil, runs_reverse_of_none none]
    rfl
  | cons c back =>
    have agrees := behind.agrees c
    rw [alphanumericRuns_segmentsFrom_cons, runs_reverse_of_none none, List.nil_append, segments]
    split
    · exact agrees.alphanumericRuns [c] none
    · exact agrees.alphanumericRuns [c] (List.forall_mem_nil _)

-- The induction is on the text before the space. A segment that ends in a space already, which the
-- space then joins, holds nothing alphanumeric.
theorem alphanumericRuns_append_space
    (none : before.last = .wSegSpace → ∀ c ∈ segment, isAlphanumeric c = false) :
    alphanumericRuns (segmentsFrom before segment [] (text ++ ' ' :: back)) =
      alphanumericRuns (segmentsFrom before segment [] text) ++
        alphanumericRuns (segments back) := by
  induction text generalizing before segment with
  | nil =>
    have space : isAlphanumeric ' ' = false := isAlphanumeric_of_space rfl
    have behind := Boundary.behindSpace_push before
    rw [List.nil_append, alphanumericRuns_segmentsFrom_cons, alphanumericRuns_segmentsFrom_nil]
    split
    · next joins =>
      have none := none (Boundary.last_of_joins_space (Boundary.classAfter_space before) joins)
      rw [behind.alphanumericRuns (List.forall_mem_cons.mpr ⟨space, none⟩),
        runs_reverse_of_none none, List.nil_append]
    · rw [behind.alphanumericRuns (List.forall_mem_singleton.mpr space)]
  | cons c text ih =>
    have other : (before.push c).last = .wSegSpace → isAlphanumeric c = false := by
      intro last
      rw [Boundary.last_push] at last
      exact isAlphanumeric_of_space (Boundary.classAfter_eq_space_iff.mp last).2
    rw [List.cons_append, alphanumericRuns_segmentsFrom_cons, alphanumericRuns_segmentsFrom_cons,
      Boundary.joins_append_space]
    split
    · next joins =>
      refine ih fun last => List.forall_mem_cons.mpr ⟨other last, none ?_⟩
      rw [Boundary.last_push] at last
      exact Boundary.last_of_joins_space last joins
    · rw [ih fun last => List.forall_mem_singleton.mpr (other last), List.append_assoc]

/-- A space separates the runs before it from those behind it. -/
theorem alphanumericRuns_segments_append_space (front back : List Char) :
    alphanumericRuns (segments (front ++ ' ' :: back)) =
      alphanumericRuns (segments front) ++ alphanumericRuns (segments back) := by
  cases front with
  | nil =>
    exact Boundary.behindSpace_start.alphanumericRuns
      (List.forall_mem_singleton.mpr (isAlphanumeric_of_space rfl))
  | cons c front =>
    exact alphanumericRuns_append_space fun last =>
      List.forall_mem_singleton.mpr (isAlphanumeric_of_space last)

end Text

namespace Analysis

open Text

variable {front back : String}

theorem terms_append_space : terms (front ++ " " ++ back) = terms front ++ terms back := by
  have text : (front ++ " " ++ back).toList = front.toList ++ ' ' :: back.toList := by simp
  have separate := alphanumericRuns_segments_append_space front.toList back.toList
  rw [← text] at separate
  calc terms (front ++ " " ++ back)
    _ = (alphanumericRuns (segments (front ++ " " ++ back).toList)).map String.ofList := rfl
    _ = terms front ++ terms back := by
      rw [separate, List.map_append]
      rfl

/-- A space separates the tokens of two texts and changes none of them: those of the second are
counted on from the first. -/
theorem tokenize_append_space :
    (tokenize (front ++ " " ++ back)).map Token.term =
      (tokenize front).map Token.term ++ (tokenize back).map Token.term ∧
    ((tokenize (front ++ " " ++ back)).length < 2 ^ 32 →
      (tokenize (front ++ " " ++ back)).map (fun token => (token.term, token.position.toNat)) =
        (tokenize front).map (fun token => (token.term, token.position.toNat)) ++
          (tokenize back).map fun token =>
            (token.term, (tokenize front).length + token.position.toNat)) := by
  unfold tokenize
  simp only [map_term_numbered, length_numbered, terms_append_space, true_and]
  intro few
  rw [List.length_append] at few
  have shifted : (numbered (terms back)).map
      (fun token => (token.term, (terms front).length + token.position.toNat)) =
      (terms back).zipIdx (terms front).length := by
    rw [List.zipIdx_eq_map_add, ← map_numbered_eq_zipIdx (by omega), List.map_map]
    rfl
  rw [map_numbered_eq_zipIdx (by rwa [List.length_append]), map_numbered_eq_zipIdx (by omega),
    shifted, List.zipIdx_append, Nat.zero_add]

/-- Behind the space, too, a joiner ties the pictograph to the mark and cuts the word after it. -/
theorem tokenize_append_space_joined :
    (tokenize ("can'\u200D" ++ " " ++ "\u0301\u200D🅰t")).map
      (fun token => (token.term, token.position.toNat)) = [("can", 0), ("🅰", 1), ("t", 2)] := by
  have front : tokenize "can'\u200D" = [⟨"can", 0⟩] := by decide +kernel
  have back : tokenize "\u0301\u200D🅰t" = [⟨"🅰", 0⟩, ⟨"t", 1⟩] := by decide +kernel
  have few : (tokenize ("can'\u200D" ++ " " ++ "\u0301\u200D🅰t")).length < 2 ^ 32 := by
    decide +kernel
  rw [tokenize_append_space.2 few, front, back]
  rfl

end Analysis

end Relevance
