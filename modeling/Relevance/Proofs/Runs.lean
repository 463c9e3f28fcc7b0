import Mathlib.Data.List.Basic
import Relevance.Text.Segment
import Relevance.Unicode.Properties

/-! Segments and runs, and the text that they are taken from.

Segments cut a text and keep all of it. The runs of a text are the maximal parts of it in which all
characters are of one kind, so together they hold every character of this kind once.
-/

set_option autoImplicit false

namespace Relevance

open Unicode

variable {p : Char → Bool} {before : Text.Boundary}
  {segment run text rest gap : List Char} {runs done : List (List Char)}

namespace Text

theorem segmentsFrom_eq_append (done : List (List Char)) :
    segmentsFrom before segment done text =
      done.reverse ++ segmentsFrom before segment [] text := by
  induction text generalizing before segment done with
  | nil => simp [segmentsFrom]
  | cons c text ih =>
    rw [segmentsFrom, segmentsFrom]
    split
    · exact ih done
    · rw [ih (segment.reverse :: done), ih [segment.reverse]]
      simp

theorem flatten_segmentsFrom :
    (segmentsFrom before segment [] text).flatten = segment.reverse ++ text := by
  induction text generalizing before segment with
  | nil => simp [segmentsFrom]
  | cons c text ih =>
    rw [segmentsFrom]
    split
    · rw [ih]
      simp
    · rw [segmentsFrom_eq_append, List.flatten_append, ih]
      simp

/-- Segments keep all of a text, in its order. -/
theorem flatten_segments (text : List Char) : (segments text).flatten = text := by
  cases text with
  | nil => rfl
  | cons c text => exact flatten_segmentsFrom

/-- A text cut into its runs of characters of one kind: characters of other kinds stand between
them, and may stand before the first and behind the last. -/
inductive Cut (p : Char → Bool) : List Char → List (List Char) → Prop where
  | gap {text : List Char} : (∀ c ∈ text, p c = false) → Cut p text []
  | run {gap run rest : List Char} {runs : List (List Char)} : (∀ c ∈ gap, p c = false) →
      run ≠ [] → (∀ c ∈ run, p c = true) → (∀ c, rest.head? = some c → p c = false) →
      Cut p rest runs → Cut p (gap ++ (run ++ rest)) (run :: runs)

structure Maximal (p : Char → Bool) (text run : List Char) : Prop where
  nonempty : run ≠ []
  kind : ∀ c ∈ run, p c = true
  bounded : ∃ front back, text = front ++ run ++ back ∧
    (∀ c, front.getLast? = some c → p c = false) ∧ ∀ c, back.head? = some c → p c = false

theorem runsFrom_eq_append (done : List (List Char)) :
    runsFrom p run done text = done.reverse ++ runsFrom p run [] text := by
  induction text generalizing run done with
  | nil =>
    rw [runsFrom, runsFrom, endRun, endRun]
    split <;> simp
  | cons c text ih =>
    rw [runsFrom, runsFrom]
    split
    · exact ih done
    · rw [ih (endRun run done), ih (endRun run [])]
      unfold endRun
      split <;> simp

theorem Cut.extend (cut : Cut p text runs) (none : ∀ c ∈ gap, p c = false) :
    Cut p (gap ++ text) runs := by
  cases cut with
  | gap others => exact .gap (List.forall_mem_append.mpr ⟨none, others⟩)
  | run others nonempty kind ends cut =>
    rw [← List.append_assoc]
    exact .run (List.forall_mem_append.mpr ⟨none, others⟩) nonempty kind ends cut

-- The run that is being read is the front of what is still to be cut.
theorem cut_runsFrom (kind : ∀ c ∈ run, p c = true) :
    Cut p (run.reverse ++ text) (runsFrom p run [] text) := by
  have kind' : ∀ c ∈ run.reverse, p c = true := fun c inside => kind c (List.mem_reverse.mp inside)
  induction text generalizing run with
  | nil =>
    by_cases empty : run = []
    · subst empty
      exact .gap (List.forall_mem_nil _)
    · have ended : runsFrom p run [] [] = [run.reverse] := by simp [runsFrom, endRun, empty]
      rw [ended]
      exact .run (List.forall_mem_nil _) (by simpa using empty) kind' (by simp)
        (.gap (List.forall_mem_nil _))
  | cons c text ih =>
    rw [runsFrom]
    by_cases isKind : p c = true
    · rw [if_pos isKind]
      have longer : ∀ c' ∈ c :: run, p c' = true := List.forall_mem_cons.mpr ⟨isKind, kind⟩
      have cut := ih longer fun c' inside => longer c' (List.mem_reverse.mp inside)
      rwa [List.reverse_cons, ← List.append_cons] at cut
    · have other : p c = false := eq_false_of_ne_true isKind
      have cut : Cut p (c :: text) (runsFrom p [] [] text) :=
        (ih (List.forall_mem_nil _) (List.forall_mem_nil _)).extend
          (List.forall_mem_singleton.mpr other)
      rw [if_neg isKind, runsFrom_eq_append]
      by_cases empty : run = []
      · subst empty
        exact cut
      · have ended : (endRun run []).reverse = [run.reverse] := by simp [endRun, empty]
        rw [ended]
        have ends : ∀ first, (c :: text).head? = some first → p first = false := by
          intro first isFirst
          obtain rfl := Option.some.inj isFirst
          exact other
        exact .run (List.forall_mem_nil _) (by simpa using empty) kind' ends cut

theorem cut_runs (p : Char → Bool) (text : List Char) : Cut p text (Text.runs p text) :=
  cut_runsFrom (List.forall_mem_nil _)

/-- Runs hold all characters of their kind, in the order of the text. -/
theorem Cut.flatten (cut : Cut p text runs) : runs.flatten = text.filter p := by
  induction cut with
  | gap others =>
    rw [List.flatten_nil, eq_comm, List.filter_eq_nil_iff]
    exact fun c inside => ne_true_of_eq_false (others c inside)
  | @run gap run rest runs others _ kind _ _ ih =>
    have dropped : gap.filter p = [] :=
      List.filter_eq_nil_iff.mpr fun c inside => ne_true_of_eq_false (others c inside)
    rw [List.flatten_cons, ih, List.filter_append, List.filter_append, dropped,
      List.filter_eq_self.mpr kind, List.nil_append]

theorem Cut.maximal (cut : Cut p text runs) {part : List Char} (isRun : part ∈ runs) :
    Maximal p text part := by
  induction cut with
  | gap => contradiction
  | @run gap run rest runs others nonempty kind ends _ ih =>
    rcases List.mem_cons.mp isRun with rfl | isRun
    · refine ⟨nonempty, kind, gap, rest, (List.append_assoc ..).symm, ?_, ends⟩
      exact fun c last => others c (List.mem_of_getLast? last)
    · obtain ⟨nonempty', kind', front, back, rfl, before, behind⟩ := ih isRun
      refine ⟨nonempty', kind', gap ++ (run ++ front), back, by simp, fun c last => ?_, behind⟩
      cases front with
      | cons first front =>
        apply before
        rwa [← List.append_assoc, List.getLast?_append_cons] at last
      | nil =>
        -- Two runs do not touch: the character behind the first would be the front of the second.
        obtain ⟨first, part, rfl⟩ := List.exists_cons_of_ne_nil nonempty'
        have other := ends first rfl
        rw [kind' first List.mem_cons_self] at other
        contradiction

theorem runs_append_of_none (none : ∀ c ∈ gap, p c = false) :
    Text.runs p (gap ++ text) = Text.runs p text := by
  induction gap with
  | nil => rfl
  | cons c gap ih =>
    obtain ⟨other, none⟩ := List.forall_mem_cons.mp none
    have skipped : Text.runs p (c :: (gap ++ text)) = Text.runs p (gap ++ text) := by
      rw [Text.runs, runsFrom, if_neg (ne_true_of_eq_false other)]
      rfl
    rw [List.cons_append, skipped, ih none]

theorem runs_of_none (none : ∀ c ∈ text, p c = false) : Text.runs p text = [] := by
  rw [← List.append_nil text]
  exact runs_append_of_none none

def alphanumericRuns (segments : List (List Char)) : List (List Char) :=
  segments.flatMap (Text.runs isAlphanumeric)

theorem alphanumericRuns_cons (segment : List Char) (segments : List (List Char)) :
    alphanumericRuns (segment :: segments) =
      Text.runs isAlphanumeric segment ++ alphanumericRuns segments :=
  List.flatMap_cons

/-- Segments without an alphanumeric character can be left out. -/
theorem alphanumericRuns_filter_any (segments : List (List Char)) :
    alphanumericRuns (segments.filter (·.any isAlphanumeric)) = alphanumericRuns segments := by
  induction segments with
  | nil => rfl
  | cons segment segments ih =>
    rw [alphanumericRuns_cons, ← ih, List.filter_cons]
    split
    · exact alphanumericRuns_cons ..
    · next holdsNone =>
      have none : ∀ c ∈ segment, isAlphanumeric c = false := by simpa using holdsNone
      rw [runs_of_none none, List.nil_append]

end Text

end Relevance
