import Mathlib.Data.List.TakeWhile
import Relevance.Service.Routing

/-! The locations that targets with a path of one segment denote, and the pages there. -/

set_option autoImplicit false

namespace Relevance.Service

def target (path : String) : Option String → String
  | none => path
  | some query => path ++ "?" ++ query

namespace Url

section

variable {front : List Char} (visible : ∀ c ∈ front, ' ' < c)
include visible

theorem dropWhile_reverse_of_visible : front.reverse.dropWhile (· ≤ ' ') = front.reverse := by
  rw [List.dropWhile_eq_self_iff]
  intro full low
  have last := visible _ (List.mem_reverse.mp (List.getElem_mem full))
  exact Char.not_le.mpr last (of_decide_eq_true low)

theorem filter_of_visible :
    front.filter (fun c => c ≠ '\t' && c ≠ '\n' && c ≠ '\r') = front := by
  refine List.filter_eq_self.mpr fun c member => ?_
  have ne : ∀ control : Char, ¬ ' ' < control → c ≠ control :=
    fun control low same => low (same ▸ visible c member)
  simp only [ne '\t' (by decide), ne '\n' (by decide), ne '\r' (by decide), ne_eq,
    not_false_eq_true, decide_true, Bool.and_self]

/-- Only what stands at the end of a target is trimmed. -/
theorem significant_append (back : List Char) :
    significant (String.ofList (front ++ back)) = front ++ significant (String.ofList back) := by
  have kept := dropWhile_reverse_of_visible visible
  simp only [significant, String.toList_ofList, List.reverse_append, List.dropWhile_append]
  split
  next isNil =>
    rw [kept, List.isEmpty_iff.mp isNil, List.reverse_reverse, filter_of_visible visible]
    exact (List.append_nil front).symm
  next =>
    rw [List.reverse_append, List.reverse_reverse, List.filter_append, filter_of_visible visible]

theorem significant_of_visible : significant (String.ofList front) = front := by
  have appended := significant_append visible []
  rwa [List.append_nil, show significant (String.ofList []) = [] from rfl, List.append_nil]
    at appended

end

def isPlainInPath (c : Char) : Bool :=
  ' ' < c && c ≤ '~' && c ≠ '/' && c ≠ '\\' && !isSpecialInPath c

def isName (segment : List Char) : Bool :=
  segment.all isPlainInPath && !isParent segment && !dots.contains segment

def afterPath : Option String → List Char
  | none => []
  | some query => '?' :: significant query

theorem encodeChar_of_plain {isSpecial : Char → Bool} {c : Char} (low : ' ' < c) (high : c ≤ '~')
    (ordinary : isSpecial c = false) : encodeChar isSpecial c = [c] := by
  have notLow : ¬ c < ' ' := Char.lt_asymm low
  have notHigh : ¬ '~' < c := Char.not_lt.mpr high
  simp only [encodeChar, notLow, notHigh, ordinary, decide_false, Bool.or_self,
    Bool.false_eq_true, if_false]

theorem of_isPlainInPath {c : Char} (plain : isPlainInPath c = true) :
    ' ' < c ∧ encodeChar isSpecialInPath c = [c] ∧ (c ≠ '/' ∧ c ≠ '\\') ∧ c ≠ '?' ∧ c ≠ '#' := by
  simp only [isPlainInPath, Bool.and_eq_true, decide_eq_true_eq, Bool.not_eq_true'] at plain
  obtain ⟨⟨⟨⟨low, high⟩, notSlash⟩, notBackslash⟩, ordinary⟩ := plain
  have ne : ∀ special, isSpecialInPath special = true → c ≠ special := by
    rintro special isSpecial rfl
    exact Bool.false_ne_true (ordinary.symm.trans isSpecial)
  exact ⟨low, encodeChar_of_plain low high ordinary, ⟨notSlash, notBackslash⟩,
    ne '?' rfl, ne '#' rfl⟩

theorem readPath_plain {path : Path} {segment : List Char}
    (plain : ∀ c ∈ segment, isPlainInPath c = true) (before rest : List Char) :
    readPath path before (segment ++ rest) = readPath path (segment.reverse ++ before) rest := by
  induction segment generalizing before with
  | nil => rfl
  | cons c segment ih =>
    rw [List.forall_mem_cons] at plain
    obtain ⟨-, same, notSlash, notEnd⟩ := of_isPlainInPath plain.1
    rw [List.cons_append, readPath, if_neg (by simpa using notSlash),
      if_neg (by simpa using notEnd), same, ih plain.2, List.reverse_singleton,
      List.reverse_cons, List.append_assoc]

theorem readPath_name {segment : List Char} (named : isName segment = true)
    (query : Option String) :
    readPath [] [] (segment ++ afterPath query) = ([segment], afterPath query) := by
  simp only [isName, Bool.and_eq_true, Bool.not_eq_true', List.all_eq_true] at named
  obtain ⟨⟨plain, notParent⟩, notDot⟩ := named
  have closed : close [] segment = [segment] := by
    simp only [close, addDirectory, notParent, notDot, Bool.or_self, Bool.false_eq_true, if_false]
    rfl
  rw [readPath_plain plain, List.append_nil]
  cases query with
  | none => rw [afterPath, readPath, List.reverse_reverse, closed]
  | some query =>
    rw [afterPath, readPath, if_neg (by decide), if_pos (by decide), List.reverse_reverse, closed]

theorem significant_target {segment : List Char} (named : isName segment = true)
    (query : Option String) :
    significant (target ("/" ++ String.ofList segment) query) =
      '/' :: (segment ++ afterPath query) := by
  simp only [isName, Bool.and_eq_true, List.all_eq_true] at named
  have visible : ∀ c ∈ segment, ' ' < c :=
    fun c member => (of_isPlainInPath (named.1.1 c member)).1
  cases query with
  | none =>
    have text : target ("/" ++ String.ofList segment) none = String.ofList ('/' :: segment) :=
      String.toList_inj.mp (by simp [target])
    rw [text, afterPath, List.append_nil]
    exact significant_of_visible (List.forall_mem_cons.mpr ⟨by decide, visible⟩)
  | some query =>
    have text : target ("/" ++ String.ofList segment) (some query) =
        String.ofList ('/' :: (segment ++ ['?']) ++ query.toList) :=
      String.toList_inj.mp (by simp [target])
    have visible : ∀ c ∈ '/' :: (segment ++ ['?']), ' ' < c := by
      simpa [or_imp, forall_and] using visible
    rw [text, significant_append visible, String.ofList_toList, afterPath]
    simp only [List.cons_append, List.append_assoc, List.nil_append]

/-- The location of a segment with the query of a target. What is read of the query does not
depend on the segment. -/
def ofName (origin : String) (segment : List Char) (query : Option String) : Url :=
  ⟨origin, [segment], (readQuery (afterPath query)).1, (readQuery (afterPath query)).2⟩

theorem ofTarget?_name {segment : List Char} (named : isName segment = true) (origin : String)
    (query : Option String) :
    ofTarget? origin (target ("/" ++ String.ofList segment) query) =
      some (ofName origin segment query) := by
  rw [ofTarget?, significant_target named]
  simp only [decide_true, Bool.true_or, if_true, readPath_name named, ofName]

theorem path_ofName (origin : String) (segment : List Char) (query : Option String) :
    (ofName origin segment query).path = String.ofList segment := by
  simp [path, ofName, joinSegments]

end Url

theorem respond_of_page {method : Method} {url : Url} {page : Page}
    (found : page? method url.path = some page) (body : ByteArray) :
    respond ⟨method, url, body⟩ = page.answer ⟨method, url, body⟩ := by
  rw [respond, answer?, found]

section

variable (origin : String) (query : Option String)

def Url.toRank : Url :=
  Url.ofName origin [] query

def Url.toExplain : Url :=
  Url.ofName origin "_explain".toList query

theorem ofTarget?_rank : Url.ofTarget? origin (target "/" query) = some (Url.toRank origin query) :=
  Url.ofTarget?_name (by decide : Url.isName [] = true) origin query

theorem ofTarget?_explain :
    Url.ofTarget? origin (target "/_explain" query) = some (Url.toExplain origin query) :=
  Url.ofTarget?_name (by decide : Url.isName "_explain".toList = true) origin query

variable {method : Method} (isRead : method ∈ [Method.get, .post]) (body : ByteArray)
include isRead

theorem respond_rank :
    respond ⟨method, .toRank origin query, body⟩ =
      rankPage ⟨method, .toRank origin query, body⟩ := by
  have everywhere : ∀ method ∈ [Method.get, .post],
      page? method (String.ofList []) = some .rank := by decide
  have found := everywhere method isRead
  rw [← Url.path_ofName origin [] query] at found
  exact respond_of_page found body

theorem respond_explain :
    respond ⟨method, .toExplain origin query, body⟩ =
      explainPage ⟨method, .toExplain origin query, body⟩ := by
  have everywhere : ∀ method ∈ [Method.get, .post],
      page? method (String.ofList "_explain".toList) = some .explain := by decide
  have found := everywhere method isRead
  rw [← Url.path_ofName origin "_explain".toList query] at found
  exact respond_of_page found body

end

end Relevance.Service
