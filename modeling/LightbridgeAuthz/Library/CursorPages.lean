import Mathlib.Data.List.Perm.Basic
import Mathlib.Data.List.Sort
import Mathlib.Order.Basic
import Mathlib.Tactic.Common

/-!
# Pages by a strict cursor

A table is listed in the order of a key, one page after another. A query returns
the first rows beyond the cursor, and leaves open how it arranges rows of equal
key; the cursor of the next page is the key of the last row of a full page. The
walk always ends. It shows every row once, in order, just when no page ends
between two rows of equal key.
-/

namespace LightbridgeAuthz.Library.CursorPages

set_option autoImplicit false

structure Page (Row Key : Type*) where
  entries : List Row
  nextCursor : Option Key

/-- All entries from a cursor on, if the pages end within `fuel` calls. A page
may depend on the number of the call. -/
def followCursors {Row Key : Type*} (fetch : Nat → Option Key → Page Row Key) :
    Nat → Nat → Option Key → Option (List Row)
  | 0, _, _ => none
  | fuel + 1, call, cursor =>
      match (fetch call cursor).nextCursor with
      | none => some (fetch call cursor).entries
      | some next =>
          (followCursors fetch fuel (call + 1) (some next)).map
            ((fetch call cursor).entries ++ ·)

theorem follow_cursors_agree {Row Key : Type*} {fetch : Nat → Option Key → Page Row Key}
    {fuel otherFuel call : Nat} {cursor : Option Key} {shown otherShown : List Row}
    (walked : followCursors fetch fuel call cursor = some shown)
    (otherWalked : followCursors fetch otherFuel call cursor = some otherShown) :
    shown = otherShown := by
  induction fuel generalizing otherFuel call cursor shown otherShown with
  | zero => cases walked
  | succ fuel ih =>
      cases otherFuel with
      | zero => cases otherWalked
      | succ otherFuel =>
          rw [followCursors] at walked otherWalked
          cases ends : (fetch call cursor).nextCursor with
          | none =>
              simp only [ends, Option.some.injEq] at walked otherWalked
              rw [← walked, ← otherWalked]
          | some next =>
              simp only [ends, Option.map_eq_some_iff] at walked otherWalked
              obtain ⟨later, laterWalked, rfl⟩ := walked
              obtain ⟨otherLater, otherLaterWalked, rfl⟩ := otherWalked
              rw [ih laterWalked otherLaterWalked]

section Pages

-- `position` places a key in the order of the listing.
variable {Row Key Position : Type*} [LinearOrder Position] (key : Row → Key)
  (position : Key → Position)

def beyond (rows : List Row) (cursor : Option Key) : List Row :=
  rows.filter fun row => cursor.all fun reached => position reached < position (key row)

/-- `ORDER BY key LIMIT n`, with rows of equal key in any order. -/
def IsPage (rows : List Row) (limit : Nat) (page : List Row) : Prop :=
  ∃ rest, (page ++ rest).Perm rows ∧
    (page ++ rest).Pairwise (fun left right => position (key left) ≤ position (key right)) ∧
    page.length = min limit rows.length

def cursorAfter (limit : Nat) (page : List Row) : Option Key :=
  if page.length = limit then page.getLast?.map key else none

/-- The answers of a database to the queries of a listing. -/
structure PageSource (rows : List Row) where
  answer : Nat → Option Key → Nat → List Row
  isPage : ∀ call cursor limit,
    IsPage key position (beyond key position rows cursor) limit (answer call cursor limit)

/-- A database that keeps rows of equal key in the order of the table. -/
def stableSource (rows : List Row) : PageSource key position rows where
  answer _ cursor limit :=
    ((beyond key position rows cursor).insertionSort
      fun left right => position (key left) ≤ position (key right)).take limit
  isPage _ cursor limit := by
    refine ⟨((beyond key position rows cursor).insertionSort
      fun left right => position (key left) ≤ position (key right)).drop limit, ?_, ?_, ?_⟩
    · rw [List.take_append_drop]
      exact List.perm_insertionSort _ _
    · rw [List.take_append_drop]
      have total : Std.Total fun left right => position (key left) ≤ position (key right) :=
        ⟨fun left right => le_total _ _⟩
      have transitive : IsTrans Row fun left right => position (key left) ≤ position (key right) :=
        ⟨fun _ _ _ => le_trans⟩
      exact List.pairwise_insertionSort _ _
    · rw [List.length_take, List.length_insertionSort]

/-- No page ends between two rows of equal key: no multiple of the page size is
strictly between the number of rows before a key and the number up to it. -/
def NoTieSplit (rows : List Row) (limit : Nat) : Prop :=
  ∀ row ∈ rows, ∀ pages : Nat,
    ¬ (rows.countP (fun other => position (key other) < position (key row)) < pages * limit ∧
      pages * limit < rows.countP fun other => position (key other) ≤ position (key row))

end Pages

section FullPages

variable {Row Key Position : Type*} [LinearOrder Position] {key : Row → Key}
  {position : Key → Position} {rows page : List Row} {limit : Nat}

theorem perm_of_short (isPage : IsPage key position rows limit page)
    (short : page.length ≠ limit) :
    page.Perm rows ∧ rows.length < limit := by
  obtain ⟨rest, perm, -, size⟩ := isPage
  have total : page.length + rest.length = rows.length := by
    rw [← List.length_append, perm.length_eq]
  have few : rows.length < limit := by omega
  have nothing : rest = [] := List.length_eq_zero_iff.mp (by omega)
  rw [nothing, List.append_nil] at perm
  exact ⟨perm, few⟩

theorem full_page_split (positive : 0 < limit) (isPage : IsPage key position rows limit page)
    (full : page.length = limit) :
    ∃ last rest, page.getLast? = some last ∧ last ∈ page ∧ (page ++ rest).Perm rows ∧
      page.Pairwise (fun left right => position (key left) ≤ position (key right)) ∧
      (∀ row ∈ page, position (key row) ≤ position (key last)) ∧
      ∀ row ∈ rest, position (key last) ≤ position (key row) := by
  obtain ⟨rest, perm, sorted, -⟩ := isPage
  have nonempty : page ≠ [] := by
    intro empty
    rw [empty] at full
    exact absurd full (by simp only [List.length_nil]; omega)
  obtain ⟨front, last, ends⟩ := (List.eq_nil_or_concat page).resolve_left nonempty
  rw [List.concat_eq_append] at ends
  subst ends
  have lastMember : last ∈ front ++ [last] :=
    List.mem_append_right _ (List.mem_singleton_self last)
  obtain ⟨pageSorted, -, across⟩ := List.pairwise_append.mp sorted
  refine ⟨last, rest, List.getLast?_concat, lastMember, perm, pageSorted, ?_, ?_⟩
  · intro row member
    obtain earlier | same := List.mem_append.mp member
    · exact (List.pairwise_append.mp pageSorted).2.2 row earlier last (List.mem_singleton_self _)
    · rw [List.mem_singleton.mp same]
  · intro row member
    exact across last lastMember row member

theorem beyond_beyond {cursor : Option Key} {last : Row}
    (member : last ∈ beyond key position rows cursor) :
    beyond key position rows (some (key last)) =
      (beyond key position rows cursor).filter
        fun row => position (key last) < position (key row) := by
  have reached := (List.mem_filter.mp member).2
  rw [beyond, beyond, List.filter_filter]
  apply List.filter_congr
  intro row _
  cases cursor with
  | none => simp only [Option.all_some, Option.all_none, Bool.and_true]
  | some start =>
      simp only [Option.all_some] at reached ⊢
      by_cases further : position (key last) < position (key row)
      · have still := lt_trans (of_decide_eq_true reached) further
        rw [decide_eq_true further, decide_eq_true still, Bool.and_self]
      · rw [decide_eq_false further, Bool.false_and]

theorem no_tie_split_perm {other : List Row} (perm : rows.Perm other) :
    NoTieSplit key position rows limit ↔ NoTieSplit key position other limit := by
  simp only [NoTieSplit, perm.mem_iff, perm.countP_eq]

section Boundary

variable {rest : List Row} {reached : Position} (full : page.length = limit)
  (upTo : ∀ row ∈ page, position (key row) ≤ reached)
  (further : ∀ row ∈ rest, reached < position (key row))

include full upTo further

theorem counts_beyond_page {row : Row} (member : row ∈ rest) :
    (page ++ rest).countP (fun other => position (key other) < position (key row)) =
        limit + rest.countP (fun other => position (key other) < position (key row)) ∧
      (page ++ rest).countP (fun other => position (key other) ≤ position (key row)) =
        limit + rest.countP fun other => position (key other) ≤ position (key row) := by
  have earlier : ∀ other ∈ page, position (key other) < position (key row) := fun other inPage =>
    lt_of_le_of_lt (upTo other inPage) (further row member)
  have before : page.countP (fun other => position (key other) < position (key row)) =
      page.length :=
    List.countP_eq_length.mpr fun other inPage => decide_eq_true (earlier other inPage)
  have through : page.countP (fun other => position (key other) ≤ position (key row)) =
      page.length :=
    List.countP_eq_length.mpr fun other inPage => decide_eq_true (le_of_lt (earlier other inPage))
  rw [List.countP_append, List.countP_append, before, through, full]
  exact ⟨rfl, rfl⟩

theorem no_tie_split_append :
    NoTieSplit key position (page ++ rest) limit ↔ NoTieSplit key position rest limit := by
  constructor
  · intro unsplit row member pages
    obtain ⟨before, through⟩ := counts_beyond_page full upTo further member
    have whole := unsplit row (List.mem_append_right _ member) (pages + 1)
    rw [before, through, Nat.succ_mul] at whole
    omega
  · intro unsplit row member pages
    obtain inPage | inRest := List.mem_append.mp member
    · have none : rest.countP (fun other => position (key other) ≤ position (key row)) = 0 := by
        rw [List.countP_eq_zero]
        intro other later
        simp only [decide_eq_true_eq, not_le]
        exact lt_of_le_of_lt (upTo row inPage) (further other later)
      have few : page.countP (fun other => position (key other) ≤ position (key row)) ≤ limit :=
        full ▸ List.countP_le_length
      rw [List.countP_append, List.countP_append, none]
      rintro ⟨positive, small⟩
      cases pages with
      | zero => omega
      | succ earlier =>
          rw [Nat.succ_mul] at small
          omega
    · obtain ⟨before, through⟩ := counts_beyond_page full upTo further inRest
      rw [before, through]
      cases pages with
      | zero => omega
      | succ earlier =>
          have later := unsplit row inRest earlier
          rw [Nat.succ_mul]
          omega

end Boundary

theorem tie_split_of_left_over {rest : List Row} {last left : Row}
    (full : page.length = limit) (lastMember : last ∈ page)
    (upTo : ∀ row ∈ page, position (key row) ≤ position (key last))
    (onward : ∀ row ∈ rest, position (key last) ≤ position (key row))
    (leftOver : left ∈ rest) (same : position (key left) ≤ position (key last)) :
    ¬ NoTieSplit key position (page ++ rest) limit := by
  intro unsplit
  have before : page.countP (fun other => position (key other) < position (key last)) < limit := by
    have few := List.countP_le_length (l := page)
      (p := fun other => position (key other) < position (key last))
    refine Nat.lt_of_le_of_ne (Nat.le_trans few (Nat.le_of_eq full)) fun whole => ?_
    have all := List.countP_eq_length.mp (whole.trans full.symm) last lastMember
    exact absurd (of_decide_eq_true all) (lt_irrefl _)
  have none : rest.countP (fun other => position (key other) < position (key last)) = 0 := by
    rw [List.countP_eq_zero]
    intro other later
    simp only [decide_eq_true_eq, not_lt]
    exact onward other later
  have through : page.countP (fun other => position (key other) ≤ position (key last)) = limit := by
    rw [← full, List.countP_eq_length]
    exact fun other inPage => decide_eq_true (upTo other inPage)
  have some : 0 < rest.countP fun other => position (key other) ≤ position (key last) :=
    List.countP_pos_iff.mpr ⟨left, leftOver, decide_eq_true same⟩
  apply unsplit last (List.mem_append_left _ lastMember) 1
  rw [List.countP_append, List.countP_append, none, through]
  omega

theorem no_tie_split_of_short (few : rows.length < limit) :
    NoTieSplit key position rows limit := by
  rintro row - pages ⟨before, through⟩
  have within := Nat.lt_of_lt_of_le through List.countP_le_length
  cases pages with
  | zero =>
      rw [Nat.zero_mul] at before
      exact absurd before (Nat.not_lt_zero _)
  | succ earlier =>
      rw [Nat.succ_mul] at within
      omega

/-- A full page and what is shown after it: all rows are shown just when all
rows beyond the page are, and none of its last key is left over. -/
theorem page_complete_iff {remaining rest later : List Row} {last : Row}
    (full : page.length = limit) (lastMember : last ∈ page)
    (perm : (page ++ rest).Perm remaining)
    (upTo : ∀ row ∈ page, position (key row) ≤ position (key last))
    (onward : ∀ row ∈ rest, position (key last) ≤ position (key row))
    (inside : ∀ row ∈ later,
      row ∈ remaining.filter fun row => position (key last) < position (key row))
    (complete : later.Perm
        (remaining.filter fun row => position (key last) < position (key row)) ↔
      NoTieSplit key position
        (remaining.filter fun row => position (key last) < position (key row)) limit) :
    (page ++ later).Perm remaining ↔ NoTieSplit key position remaining limit := by
  by_cases tied : ∃ left ∈ rest, position (key left) ≤ position (key last)
  · obtain ⟨left, leftOver, same⟩ := tied
    refine iff_of_false ?_ ?_
    · intro shown
      have later := (List.perm_append_left_iff page).mp (shown.trans perm.symm)
      have further := (List.mem_filter.mp (inside left (later.symm.subset leftOver))).2
      exact absurd (of_decide_eq_true further) (not_lt.mpr same)
    · rw [← no_tie_split_perm perm]
      exact tie_split_of_left_over full lastMember upTo onward leftOver same
  · have further : ∀ row ∈ rest, position (key last) < position (key row) := by
      intro row member
      exact lt_of_not_ge fun same => tied ⟨row, member, same⟩
    have passed : page.filter (fun row => position (key last) < position (key row)) = [] := by
      rw [List.filter_eq_nil_iff]
      intro row member
      simp only [decide_eq_true_eq, not_lt]
      exact upTo row member
    have kept : rest.filter (fun row => position (key last) < position (key row)) = rest :=
      List.filter_eq_self.mpr fun row member => decide_eq_true (further row member)
    have left : rest.Perm
        (remaining.filter fun row => position (key last) < position (key row)) := by
      have filtered := perm.filter fun row => decide (position (key last) < position (key row))
      rw [List.filter_append, passed, kept, List.nil_append] at filtered
      exact filtered
    calc (page ++ later).Perm remaining
        ↔ (page ++ later).Perm (page ++ rest) :=
          ⟨fun shown => shown.trans perm.symm, fun shown => shown.trans perm⟩
      _ ↔ later.Perm rest := List.perm_append_left_iff page
      _ ↔ later.Perm (remaining.filter fun row => position (key last) < position (key row)) :=
          ⟨fun shown => shown.trans left, fun shown => shown.trans left.symm⟩
      _ ↔ NoTieSplit key position rest limit := complete.trans (no_tie_split_perm left).symm
      _ ↔ NoTieSplit key position (page ++ rest) limit :=
          (no_tie_split_append full upTo further).symm
      _ ↔ NoTieSplit key position remaining limit := no_tie_split_perm perm

end FullPages

section Walks

variable {Row Key Position : Type*} [LinearOrder Position] {key : Row → Key}
  {position : Key → Position} {rows : List Row}

def shownPage (source : PageSource key position rows) (limit : Nat) (call : Nat)
    (cursor : Option Key) : Page Row Key where
  entries := source.answer call cursor limit
  nextCursor := cursorAfter key limit (source.answer call cursor limit)

/-- The walk from a cursor ends; what it shows is in order and beyond the cursor,
and it is all of that just when no tie is split. -/
theorem walk_shows (source : PageSource key position rows) {limit : Nat} (positive : 0 < limit)
    (fuel call : Nat) (cursor : Option Key)
    (enough : (beyond key position rows cursor).length < fuel) :
    ∃ shown, followCursors (shownPage source limit) fuel call cursor = some shown ∧
      (∀ row ∈ shown, row ∈ beyond key position rows cursor) ∧
      shown.Pairwise (fun left right => position (key left) ≤ position (key right)) ∧
      (shown.Perm (beyond key position rows cursor) ↔
        NoTieSplit key position (beyond key position rows cursor) limit) := by
  induction fuel generalizing call cursor with
  | zero => omega
  | succ fuel ih =>
      have isPage := source.isPage call cursor limit
      by_cases full : (source.answer call cursor limit).length = limit
      · obtain ⟨last, rest, ends, lastMember, perm, sorted, upTo, onward⟩ :=
          full_page_split positive isPage full
        have stored : last ∈ beyond key position rows cursor :=
          perm.subset (List.mem_append_left _ lastMember)
        have further := beyond_beyond stored
        have fewer : (beyond key position rows (some (key last))).length < fuel := by
          have smaller : ((beyond key position rows cursor).filter
              fun row => position (key last) < position (key row)).length <
                (beyond key position rows cursor).length := by
            rw [List.length_filter_lt_length_iff_exists]
            exact ⟨last, stored, by simp⟩
          rw [further]
          omega
        obtain ⟨later, walked, inside, laterSorted, complete⟩ := ih (call + 1) (some (key last)) fewer
        have next : (shownPage source limit call cursor).nextCursor = some (key last) := by
          simp only [shownPage, cursorAfter, if_pos full, ends, Option.map_some]
        refine ⟨source.answer call cursor limit ++ later, ?_, ?_, ?_, ?_⟩
        · rw [followCursors, next]
          simp only [walked, Option.map_some, shownPage]
        · intro row member
          obtain here | there := List.mem_append.mp member
          · exact perm.subset (List.mem_append_left _ here)
          · have beyondLast := inside row there
            rw [further] at beyondLast
            exact (List.mem_filter.mp beyondLast).1
        · refine List.pairwise_append.mpr ⟨sorted, laterSorted, ?_⟩
          intro left here right there
          have beyondLast := inside right there
          rw [further] at beyondLast
          exact le_trans (upTo left here)
            (le_of_lt (of_decide_eq_true (List.mem_filter.mp beyondLast).2))
        · rw [further] at inside complete
          exact page_complete_iff full lastMember perm upTo onward inside complete
      · obtain ⟨whole, few⟩ := perm_of_short isPage full
        obtain ⟨rest, -, sorted, -⟩ := isPage
        refine ⟨source.answer call cursor limit, ?_, fun row member => whole.subset member,
          (List.pairwise_append.mp sorted).1, iff_of_true whole (no_tie_split_of_short few)⟩
        rw [followCursors]
        simp only [shownPage, cursorAfter, if_neg full]

theorem walk_complete_iff (source : PageSource key position rows) {limit : Nat}
    (positive : 0 < limit) :
    ∃ shown, followCursors (shownPage source limit) (rows.length + 1) 0 none = some shown ∧
      shown.Pairwise (fun left right => position (key left) ≤ position (key right)) ∧
      (shown.Perm rows ↔ NoTieSplit key position rows limit) := by
  have start : beyond key position rows none = rows := by
    rw [beyond]
    exact List.filter_eq_self.mpr fun row _ => rfl
  obtain ⟨shown, walked, -, sorted, complete⟩ := walk_shows source positive (rows.length + 1) 0
    none (by rw [start]; exact Nat.lt_succ_self _)
  rw [start] at complete
  exact ⟨shown, walked, sorted, complete⟩

end Walks

end LightbridgeAuthz.Library.CursorPages
