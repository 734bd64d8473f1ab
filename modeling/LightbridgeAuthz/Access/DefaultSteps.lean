import LightbridgeAuthz.Access.DefaultProjects

/-!
# What the transactions on projects hold

At every point a transaction has written certain versions and relies on certain
facts, which the steps of the others leave alone. The steps that commit nothing
keep the invariant that follows; the commits are in the next module.
-/

namespace LightbridgeAuthz.Access.DefaultProjects

open Library.EventRun Library.CallSlots Library.RowVersions

set_option autoImplicit false

theorem mem_rows_where {rows : List ProjectRow} {select : Nat → ProjectRow → Bool}
    {position : Nat} : position ∈ rowsWhere rows select ↔
      ∃ row, rows[position]? = some row ∧ select position row = true := by
  unfold rowsWhere
  rw [List.mem_filter, List.mem_range, Option.any_eq_true_iff_get]
  constructor
  · rintro ⟨_, there, chosen⟩
    exact ⟨_, (Option.some_get there).symm, chosen⟩
  · rintro ⟨row, found, chosen⟩
    refine ⟨(List.getElem?_eq_some_iff.mp found).1, by simp [found], ?_⟩
    simpa [found] using chosen

theorem row_where_some {rows : List ProjectRow} {select : Nat → ProjectRow → Bool}
    {position : Nat} (found : rowWhere rows select = some position) :
    ∃ row, rows[position]? = some row ∧ select position row = true := by
  have chosen : rows[position]?.any (select position) = true := by
    unfold rowWhere at found
    have passed := List.find?_some found
    exact passed
  have member : position ∈ rowsWhere rows select :=
    List.mem_filter.mpr ⟨List.mem_of_find?_eq_some found, chosen⟩
  exact mem_rows_where.mp member

/-- What a transaction has written by the time it stands at a point. -/
def Holds (position : Nat) (row : ProjectRow) (version : Option Bool) : Point → Prop
  | .createReference account | .commitCreate account =>
      row.key.accountId = account ∧ row.committed = none ∧ version ≠ none
  | .commitDelete => row.committed = some false ∧ version = none
  | .demoteRows account _ _ _ | .promoteScan account _ _ | .promoteRow account _ _ =>
      row.key.accountId = account ∧ row.committed ≠ none ∧ version = some false
  | .commitDefault account _ promoted =>
      row.key.accountId = account ∧ row.committed ≠ none ∧
        version = some (decide (position = promoted))
  | .cascadeRows account _ | .commitAccountDeletion account =>
      row.key.accountId = account ∧ row.committed ≠ none ∧ version = none
  | _ => False

def PlacedIn (rows : List ProjectRow) (account : String) (position : Nat) : Prop :=
  ∃ row, rows[position]? = some row ∧ row.key.accountId = account

/-- The row that a SELECT of `set_default_project` has read. -/
def Targets (rows : List ProjectRow) (account : String) (selected : Nat) : Prop :=
  ∃ row, rows[selected]? = some row ∧ row.key.accountId = account ∧ row.Settled

/-- A second project of a live account joins one that is committed. -/
def JoinsOthers (world : World) (tx : Nat) (account : String) : Prop :=
  (∃ (position : Nat) (row : ProjectRow), world.rows[position]? = some row ∧
      row.lock = some (tx, some false)) →
    account ∈ world.accounts → HasProject world.rows account

def Relies (world : World) (tx : Nat) : Point → Prop
  | .createInsert _ account isDefault =>
      isDefault = false → account ∈ world.accounts → HasProject world.rows account
  | .createReference account => JoinsOthers world tx account
  | .commitCreate account => (tx, account) ∈ world.sharing ∧ JoinsOthers world tx account
  | .demoteScan account _ selected | .promoteScan account _ selected =>
      Targets world.rows account selected
  | .demoteRows account _ selected remaining =>
      Targets world.rows account selected ∧
        ∀ position ∈ remaining, PlacedIn world.rows account position
  | .promoteRow account selected position =>
      position = selected ∧ Targets world.rows account selected
  | .commitDefault account selected position =>
      position = selected ∧ ∃ row, world.rows[position]? = some row ∧
        row.key.accountId = account ∧ row.lock = some (tx, some true)
  | .cascadeScan account => (tx, account) ∈ world.deleting
  | .cascadeRows account remaining =>
      (tx, account) ∈ world.deleting ∧
        (∀ position ∈ remaining, PlacedIn world.rows account position) ∧
        ∀ (position : Nat) (row : ProjectRow), world.rows[position]? = some row →
          row.key.accountId = account →
          row.committed ≠ none → position ∈ remaining ∨ row.lock = some (tx, none)
  | .commitAccountDeletion account =>
      (tx, account) ∈ world.deleting ∧
        ∀ (position : Nat) (row : ProjectRow), world.rows[position]? = some row →
          row.key.accountId = account →
          row.committed ≠ none → row.lock = some (tx, none)
  | _ => True

structure Invariant (world : World) : Prop where
  sound : IndexSound defaultIndex world.rows
  covered : ∀ account, HasProject world.rows account →
    ∃ position, IsDefault world.rows account position
  held : ∀ (position : Nat) (row : ProjectRow) (tx : Nat) (version : Option Bool),
    world.rows[position]? = some row →
    row.lock = some (tx, version) →
      ∃ point, world.calls[tx]? = some point ∧ Holds position row version point
  relies : ∀ tx point, world.calls[tx]? = some point → Relies world tx point
  alive : ∀ tx account, (tx, account) ∈ world.sharing → account ∈ world.accounts
  apart : ∀ tx other account, (tx, account) ∈ world.deleting → (other, account) ∉ world.sharing

/-- The condition of the one-default theorem: where the second UPDATE of a
`set_default_project` finds a row, it is the one that the SELECT has read. -/
def targetStands (world : World) : Event → Bool
  | .advance tx =>
      match world.calls[tx]? with
      | some (.promoteScan _ id selected) =>
          (rowWhere world.rows (promotable tx id)).all (· == selected)
      | _ => true
  | _ => true

/-- What one transaction's step leaves to the others. -/
structure Frame (tx : Nat) (world after : World) : Prop where
  rows : LeavesOthers tx world.rows after.rows
  calls : ∀ other, other ≠ tx → after.calls[other]? = world.calls[other]?
  sharing : ∀ other account, other ≠ tx →
    ((other, account) ∈ after.sharing ↔ (other, account) ∈ world.sharing)
  deleting : ∀ other account, other ≠ tx →
    ((other, account) ∈ after.deleting ↔ (other, account) ∈ world.deleting)
  projects : ∀ account, account ∈ after.accounts → account ∈ world.accounts ∧
    (HasProject world.rows account → HasProject after.rows account)
  cascades : ∀ other account, other ≠ tx → (other, account) ∈ world.deleting →
    ∀ (position : Nat) (row : ProjectRow), after.rows[position]? = some row →
      row.key.accountId = account → row.committed ≠ none →
        ∃ before, world.rows[position]? = some before ∧ before.committed ≠ none

theorem placed_in_frame {tx : Nat} {rows after : List ProjectRow}
    (frame : LeavesOthers tx rows after) {account : String} {position : Nat}
    (placed : PlacedIn rows account position) : PlacedIn after account position := by
  obtain ⟨row, found, isAccount⟩ := placed
  obtain ⟨moved, there, keeps⟩ := frame.places position row found
  exact ⟨moved, there, by rw [keeps.key, isAccount]⟩

theorem targets_frame {tx : Nat} {rows after : List ProjectRow}
    (frame : LeavesOthers tx rows after) {account : String} {selected : Nat}
    (targets : Targets rows account selected) : Targets after account selected := by
  obtain ⟨row, found, isAccount, settled⟩ := targets
  obtain ⟨moved, there, keeps⟩ := frame.places selected row found
  exact ⟨moved, there, by rw [keeps.key, isAccount], keeps.settled settled⟩

section Frames

variable {world after : World} {tx other : Nat}

theorem joins_others_frame (frame : Frame tx world after) (foreign : other ≠ tx)
    {account : String} (joins : JoinsOthers world other account) :
    JoinsOthers after other account := by
  rintro ⟨position, row, there, locked⟩ present
  have before := (frame.rows.locked position row other (some false) locked foreign).mp there
  obtain ⟨wasPresent, keeps⟩ := frame.projects account present
  exact keeps (joins ⟨position, row, before, locked⟩ wasPresent)

theorem cascade_frame (frame : Frame tx world after) (foreign : other ≠ tx) {account : String}
    (deletes : (other, account) ∈ world.deleting) {position : Nat} {row : ProjectRow}
    (there : after.rows[position]? = some row) (isAccount : row.key.accountId = account)
    (present : row.committed ≠ none) :
    ∃ before : ProjectRow, world.rows[position]? = some before ∧
      before.key.accountId = account ∧ before.committed ≠ none ∧
        (before.lock = some (other, none) → row.lock = some (other, none)) := by
  obtain ⟨before, found, wasPresent⟩ :=
    frame.cascades other account foreign deletes position row there isAccount present
  obtain ⟨moved, isMoved, keeps⟩ := frame.rows.places position before found
  have same : moved = row := Option.some.inj (isMoved.symm.trans there)
  subst same
  refine ⟨before, found, by rw [← keeps.key, isAccount], wasPresent, ?_⟩
  intro locked
  have stays := (frame.rows.locked position before other none locked foreign).mpr found
  rw [Option.some.inj (there.symm.trans stays)]
  exact locked

theorem relies_frame (frame : Frame tx world after) (foreign : other ≠ tx) {point : Point}
    (relies : Relies world other point) : Relies after other point := by
  cases point with
  | createInsert id account isDefault =>
      intro second present
      obtain ⟨wasPresent, keeps⟩ := frame.projects account present
      exact keeps (relies second wasPresent)
  | createReference account => exact joins_others_frame frame foreign relies
  | commitCreate account =>
      exact ⟨(frame.sharing other account foreign).mpr relies.1,
        joins_others_frame frame foreign relies.2⟩
  | demoteScan account id selected => exact targets_frame frame.rows relies
  | promoteScan account id selected => exact targets_frame frame.rows relies
  | demoteRows account id selected remaining =>
      exact ⟨targets_frame frame.rows relies.1,
        fun position listed => placed_in_frame frame.rows (relies.2 position listed)⟩
  | promoteRow account selected position =>
      exact ⟨relies.1, targets_frame frame.rows relies.2⟩
  | commitDefault account selected position =>
      obtain ⟨same, row, found, isAccount, locked⟩ := relies
      exact ⟨same, row,
        (frame.rows.locked position row other (some true) locked foreign).mpr found,
        isAccount, locked⟩
  | cascadeScan account => exact (frame.deleting other account foreign).mpr relies
  | cascadeRows account remaining =>
      obtain ⟨deletes, placed, cover⟩ := relies
      refine ⟨(frame.deleting other account foreign).mpr deletes,
        fun position listed => placed_in_frame frame.rows (placed position listed), ?_⟩
      intro position row there isAccount present
      obtain ⟨before, found, wasAccount, wasPresent, stays⟩ :=
        cascade_frame frame foreign deletes there isAccount present
      exact (cover position before found wasAccount wasPresent).imp id stays
  | commitAccountDeletion account =>
      obtain ⟨deletes, cover⟩ := relies
      refine ⟨(frame.deleting other account foreign).mpr deletes, ?_⟩
      intro position row there isAccount present
      obtain ⟨before, found, wasAccount, wasPresent, stays⟩ :=
        cascade_frame frame foreign deletes there isAccount present
      exact stays (cover position before found wasAccount wasPresent)
  | _ => trivial

/-- What every step is shown to do: it keeps the invariant and the points of the others,
and no project comes back. -/
structure Carries (tx : Nat) (world after : World) : Prop where
  invariant : Invariant after
  calls : ∀ other, other ≠ tx → after.calls[other]? = world.calls[other]?
  places : ∀ (position : Nat) (row : ProjectRow), world.rows[position]? = some row →
    ∃ moved, after.rows[position]? = some moved ∧ Keeps row moved

theorem carries_of_frame (was : Invariant world) (frame : Frame tx world after) {point : Point}
    (here : after.calls[tx]? = some point) (sound : IndexSound defaultIndex after.rows)
    (covered : ∀ account, HasProject after.rows account →
      ∃ position, IsDefault after.rows account position)
    (own : ∀ (position : Nat) (row : ProjectRow) (version : Option Bool),
      after.rows[position]? = some row → row.lock = some (tx, version) →
        Holds position row version point)
    (relies : Relies after tx point)
    (alive : ∀ other account, (other, account) ∈ after.sharing → account ∈ after.accounts)
    (apart : ∀ first second account, (first, account) ∈ after.deleting →
      (second, account) ∉ after.sharing) : Carries tx world after := by
  refine ⟨⟨sound, covered, ?_, ?_, alive, apart⟩, frame.calls, frame.rows.places⟩
  · intro position row holder version there locked
    by_cases mine : holder = tx
    · subst mine
      exact ⟨point, here, own position row version there locked⟩
    · have before := (frame.rows.locked position row holder version locked mine).mp there
      rw [frame.calls holder mine]
      exact was.held position row holder version before locked
  · intro caller called isCalled
    by_cases mine : caller = tx
    · subst mine
      rw [← Option.some.inj (here.symm.trans isCalled)]
      exact relies
    · rw [frame.calls caller mine] at isCalled
      exact relies_frame frame mine (was.relies caller called isCalled)

end Frames

section Steps

variable {world : World} {tx : Nat} {old point : Point}

theorem has_project_congr {rows after : List ProjectRow}
    (same : ∀ position, committedAt after position = committedAt rows position)
    (account : String) : HasProject after account ↔ HasProject rows account := by
  simp only [HasProject, same]

theorem is_default_congr {rows after : List ProjectRow}
    (same : ∀ position, committedAt after position = committedAt rows position)
    (account : String) (position : Nat) :
    IsDefault after account position ↔ IsDefault rows account position := by
  simp only [IsDefault, same]

theorem carries_of_quiet (was : Invariant world) (before : world.calls[tx]? = some old)
    {after : World} (rows : LeavesOthers tx world.rows after.rows)
    (same : ∀ position, committedAt after.rows position = committedAt world.rows position)
    (accounts : after.accounts = world.accounts) (calls : after.calls = world.calls.set tx point)
    (sharing : ∀ other account, other ≠ tx →
      ((other, account) ∈ after.sharing ↔ (other, account) ∈ world.sharing))
    (deleting : ∀ other account, other ≠ tx →
      ((other, account) ∈ after.deleting ↔ (other, account) ∈ world.deleting))
    (sound : IndexSound defaultIndex after.rows)
    (own : ∀ (position : Nat) (row : ProjectRow) (version : Option Bool),
      after.rows[position]? = some row → row.lock = some (tx, version) →
        Holds position row version point)
    (relies : Relies after tx point)
    (alive : ∀ other account, (other, account) ∈ after.sharing → account ∈ after.accounts)
    (apart : ∀ first second account, (first, account) ∈ after.deleting →
      (second, account) ∉ after.sharing) : Carries tx world after := by
  have here : after.calls[tx]? = some point := by
    rw [calls]
    exact List.getElem?_set_self (List.getElem?_eq_some_iff.mp before).1
  refine carries_of_frame was ⟨rows, ?_, sharing, deleting, ?_, ?_⟩ here sound ?_ own relies
    alive apart
  · intro other foreign
    rw [calls, List.getElem?_set_ne (Ne.symm foreign)]
  · intro account present
    exact ⟨accounts ▸ present, (has_project_congr same account).mpr⟩
  · intro other account _ _ position row there _ present
    obtain ⟨value, isValue⟩ := Option.ne_none_iff_exists'.mp present
    have seen := committed_at_of_row there isValue
    rw [same] at seen
    obtain ⟨was, found, _, wasValue⟩ := committed_at_some seen
    exact ⟨was, found, by simp [wasValue]⟩
  · intro account has
    obtain ⟨position, isDefault⟩ := was.covered account ((has_project_congr same account).mp has)
    exact ⟨position, (is_default_congr same account position).mpr isDefault⟩

theorem own_holds (was : Invariant world) (before : world.calls[tx]? = some old) {position : Nat}
    {row : ProjectRow} {version : Option Bool} (found : world.rows[position]? = some row)
    (locked : row.lock = some (tx, version)) : Holds position row version old := by
  obtain ⟨called, isCalled, holds⟩ := was.held position row tx version found locked
  rw [Option.some.inj (before.symm.trans isCalled)]
  exact holds

theorem carries_goto (was : Invariant world) (before : world.calls[tx]? = some old)
    (holds : ∀ position row version, Holds position row version old →
      Holds position row version point)
    (relies : Relies world tx point) : Carries tx world (world.goto tx point) :=
  carries_of_quiet was before (leaves_others_refl tx world.rows) (fun _ => rfl) rfl rfl
    (fun _ _ _ => Iff.rfl) (fun _ _ _ => Iff.rfl) was.sound
    (fun position row version found locked =>
      holds position row version (own_holds was before found locked))
    relies was.alive was.apart

theorem carries_write (was : Invariant world) (before : world.calls[tx]? = some old)
    {position : Nat} {row : ProjectRow} {version : Option Bool}
    (found : world.rows[position]? = some row) (ready : row.busy tx = false)
    (seen : (row.visible tx).isSome)
    (sound : IndexSound defaultIndex (world.write tx position row version).rows)
    (holds : Holds position row version point)
    (elsewhere : ∀ other right held, other ≠ position → Holds other right held old →
      Holds other right held point)
    (relies : Relies (world.write tx position row version) tx point) :
    Carries tx world ((world.write tx position row version).goto tx point) := by
  refine carries_of_quiet was before (write_leaves_others found ready seen version)
    (committed_at_write found tx version) rfl rfl (fun _ _ _ => Iff.rfl) (fun _ _ _ => Iff.rfl)
    sound ?_ relies was.alive was.apart
  intro other right held there locked
  rcases slot_of_set there with ⟨rfl, rfl⟩ | ⟨apart, wasThere⟩
  · have isHeld : version = held := congrArg Prod.snd (Option.some.inj locked)
    subst isHeld
    exact holds
  · exact elsewhere other right held apart (own_holds was before wasThere locked)

theorem mem_drop_locks {tx other : Nat} {account : String} {locks : List (Nat × String)} :
    (other, account) ∈ dropLocks tx locks ↔ (other, account) ∈ locks ∧ other ≠ tx := by
  simp [dropLocks, List.mem_filter]

theorem carries_abort (was : Invariant world) (before : world.calls[tx]? = some old) :
    Carries tx world (world.abort tx) := by
  refine carries_of_quiet was before (abort_leaves_others tx world.rows)
    (committed_at_abort tx world.rows) rfl rfl ?_ ?_ (abort_index_sound was.sound tx) ?_ trivial
    ?_ ?_
  · intro other account foreign
    exact ⟨fun kept => (mem_drop_locks.mp kept).1, fun kept => mem_drop_locks.mpr ⟨kept, foreign⟩⟩
  · intro other account foreign
    exact ⟨fun kept => (mem_drop_locks.mp kept).1, fun kept => mem_drop_locks.mpr ⟨kept, foreign⟩⟩
  · intro position row version there locked
    rw [World.abort, List.getElem?_map] at there
    obtain ⟨left, _, rfl⟩ := Option.map_eq_some_iff.mp there
    exact absurd rfl (abort_lock locked).1
  · intro other account shares
    exact was.alive other account (mem_drop_locks.mp shares).1
  · intro first second account deletes shares
    exact was.apart first second account (mem_drop_locks.mp deletes).1 (mem_drop_locks.mp shares).1

theorem committed_of_visible {row : ProjectRow} (foreign : ∀ version, row.lock ≠ some (tx, version)) :
    row.visible tx = row.committed := by
  unfold Row.visible
  split
  next holder version locked =>
    split_ifs with own
    · subst own
      exact absurd locked (foreign version)
    · rfl
  next => rfl

theorem lock_free_of_empty (was : Invariant world) (before : world.calls[tx]? = some old)
    (empty : ∀ position row version, ¬ Holds position row version old) {position : Nat}
    {row : ProjectRow} (found : world.rows[position]? = some row) (version : Option Bool) :
    row.lock ≠ some (tx, version) :=
  fun locked => empty position row version (own_holds was before found locked)

theorem create_scan_carries (was : Invariant world) {id account : String}
    (before : world.calls[tx]? = some (.createScan id account)) :
    Carries tx world (world.goto tx (.createInsert id account
      (isFirstProject world.rows tx account))) := by
  refine carries_goto was before (fun _ _ _ none => none.elim) ?_
  intro second _
  unfold isFirstProject at second
  simp only [Bool.not_eq_false', List.any_eq_true, Bool.and_eq_true, beq_iff_eq] at second
  obtain ⟨row, listed, isAccount, seen⟩ := second
  obtain ⟨position, found⟩ := List.mem_iff_getElem?.mp listed
  have visible := committed_of_visible
    (lock_free_of_empty was before (fun _ _ _ none => none.elim) found)
  rw [visible] at seen
  obtain ⟨isDefault, isCommitted⟩ := Option.isSome_iff_exists.mp seen
  exact ⟨position, row.key, isDefault, committed_at_of_row found isCommitted, isAccount⟩

theorem create_insert_carries (was : Invariant world) {id account : String} {isDefault : Bool}
    (before : world.calls[tx]? = some (.createInsert id account isDefault)) {next : World}
    (stepped : createInsert world tx id account isDefault = some next) : Carries tx world next := by
  unfold createInsert at stepped
  simp only at stepped
  split at stepped
  · rw [← Option.some.inj stepped]
    exact carries_abort was before
  · simp at stepped
  · rw [← Option.some.inj stepped]
    exact carries_abort was before
  · simp at stepped
  next _ _ _ checked =>
    rw [← Option.some.inj stepped]
    have empty : ∀ (position : Nat) (row : ProjectRow), world.rows[position]? = some row →
        ∀ version, row.lock ≠ some (tx, version) := fun _ _ found =>
      lock_free_of_empty was before (fun _ _ _ none => none.elim) found
    refine carries_of_quiet was before
      (insert_leaves_others tx world.rows ⟨id, account⟩ isDefault)
      (committed_at_insert world.rows tx ⟨id, account⟩ isDefault) rfl rfl (fun _ _ _ => Iff.rfl)
      (fun _ _ _ => Iff.rfl) ?_ ?_ ?_ was.alive was.apart
    · refine insert_index_sound was.sound fun wanted has other right there => ?_
      rw [has] at checked
      exact conflict_free (index_check_free checked there
        (Nat.ne_of_lt (List.getElem?_eq_some_iff.mp there).1))
    · intro position row version there locked
      rcases slot_of_append there with wasThere | rfl
      · exact absurd locked (empty position row wasThere version)
      · refine ⟨rfl, rfl, ?_⟩
        have isVersion : some isDefault = version := congrArg Prod.snd (Option.some.inj locked)
        rw [← isVersion]
        simp
    · rintro ⟨position, row, there, locked⟩ present
      rcases slot_of_append there with wasThere | rfl
      · exact absurd locked (empty position row wasThere (some false))
      · have second : isDefault = false := by simpa [freshRow] using locked
        exact (has_project_congr (committed_at_insert world.rows tx ⟨id, account⟩ isDefault)
          account).mpr (was.relies tx _ before second present)

theorem locked_in_false {locks : List (Nat × String)} {account : String}
    (free : lockedIn locks account = false) (holder : Nat) : (holder, account) ∉ locks := by
  intro listed
  unfold lockedIn at free
  rw [List.any_eq_false] at free
  exact free _ listed (by simp)

theorem create_reference_carries (was : Invariant world) {account : String}
    (before : world.calls[tx]? = some (.createReference account)) {next : World}
    (stepped : createReference world tx account = some next) : Carries tx world next := by
  unfold createReference at stepped
  split_ifs at stepped with locked present
  · rw [← Option.some.inj stepped]
    have free := locked_in_false (Bool.eq_false_iff.mpr locked)
    refine carries_of_quiet was before (leaves_others_refl tx world.rows) (fun _ => rfl) rfl rfl
      ?_ (fun _ _ _ => Iff.rfl) was.sound
      (fun position row version found locked => own_holds was before found locked)
      ⟨List.mem_cons_self, was.relies tx _ before⟩ ?_ ?_
    · intro other named foreign
      simp [World.goto, foreign]
    · intro other named shares
      rcases List.mem_cons.mp shares with isNew | kept
      · rw [(Prod.mk.inj isNew).2]
        exact present
      · exact was.alive other named kept
    · intro first second named deletes shares
      rcases List.mem_cons.mp shares with isNew | kept
      · rw [(Prod.mk.inj isNew).2] at deletes
        exact free first deletes
      · exact was.apart first second named deletes kept
  · rw [← Option.some.inj stepped]
    exact carries_abort was before

theorem delete_scan_carries (was : Invariant world) {id owner : String}
    (before : world.calls[tx]? = some (.deleteScan id owner)) :
    Carries tx world (deleteScan world tx id owner) := by
  unfold deleteScan
  split
  · exact carries_abort was before
  · exact carries_goto was before (fun _ _ _ none => none.elim) trivial

theorem delete_row_carries (was : Invariant world) {position : Nat}
    (before : world.calls[tx]? = some (.deleteRow position)) {next : World}
    (stepped : deleteRow world tx position = some next) : Carries tx world next := by
  unfold deleteRow at stepped
  split at stepped
  · rw [← Option.some.inj stepped]
    exact carries_abort was before
  next row found =>
    split_ifs at stepped with busy seen
    · rw [← Option.some.inj stepped]
      have ready : row.busy tx = false := Bool.eq_false_iff.mpr busy
      have visible := committed_of_visible
        (lock_free_of_empty was before (fun _ _ _ none => none.elim) found)
      refine carries_write was before found ready (by simp [seen]) ?_ ⟨visible ▸ seen, rfl⟩
        (fun _ _ _ _ none => none.elim) trivial
      exact write_index_sound was.sound tx none found ready fun _ has => absurd has (by simp)
    · rw [← Option.some.inj stepped]
      exact carries_abort was before

theorem select_project_carries (was : Invariant world) {subject id : String}
    (before : world.calls[tx]? = some (.selectProject subject id)) :
    Carries tx world (selectProject world tx subject id) := by
  unfold selectProject
  split
  · exact carries_abort was before
  next selected chosen =>
    obtain ⟨row, found, selects⟩ := row_where_some chosen
    simp only [found]
    refine carries_goto was before (fun _ _ _ none => none.elim) ⟨row, found, rfl, ?_⟩
    simp only [selectable, Bool.and_eq_true] at selects
    have seen := selects.1.2
    rw [committed_of_visible
      (lock_free_of_empty was before (fun _ _ _ none => none.elim) found)] at seen
    intro gone
    rw [gone] at seen
    simp at seen

theorem demote_scan_carries (was : Invariant world) {account id : String} {selected : Nat}
    (before : world.calls[tx]? = some (.demoteScan account id selected)) :
    Carries tx world (world.goto tx (.demoteRows account id selected
      (rowsWhere world.rows (demotable tx account id)))) := by
  refine carries_goto was before (fun _ _ _ none => none.elim) ⟨was.relies tx _ before, ?_⟩
  intro position listed
  obtain ⟨row, found, selects⟩ := mem_rows_where.mp listed
  simp only [demotable, Bool.and_eq_true, beq_iff_eq] at selects
  exact ⟨row, found, selects.1.1⟩

theorem relies_write {account id : String} {selected position : Nat} {row : ProjectRow}
    {remaining : List Nat} (found : world.rows[position]? = some row)
    (ready : row.busy tx = false) (seen : (row.visible tx).isSome) (version : Option Bool)
    (relies : Targets world.rows account selected ∧
      ∀ other ∈ remaining, PlacedIn world.rows account other) :
    Relies (world.write tx position row version) tx
      (.demoteRows account id selected remaining) := by
  have frame := write_leaves_others found ready seen version
  exact ⟨targets_frame frame relies.1,
    fun other listed => placed_in_frame frame (relies.2 other listed)⟩

theorem demote_row_carries (was : Invariant world) {account id : String}
    {selected position : Nat} {remaining : List Nat}
    (before : world.calls[tx]? = some (.demoteRows account id selected (position :: remaining)))
    {next : World}
    (stepped : demoteRow world tx account id selected position remaining = some next) :
    Carries tx world next := by
  obtain ⟨targets, placed⟩ := was.relies tx _ before
  have later : ∀ other ∈ remaining, PlacedIn world.rows account other := fun other listed =>
    placed other (List.mem_cons_of_mem _ listed)
  unfold demoteRow at stepped
  split at stepped
  · rw [← Option.some.inj stepped]
    exact carries_goto was before (fun _ _ _ holds => holds) ⟨targets, later⟩
  next row found =>
    split_ifs at stepped with busy seen
    · rw [← Option.some.inj stepped]
      have ready : row.busy tx = false := Bool.eq_false_iff.mpr busy
      have foreign : ∀ version, row.lock ≠ some (tx, version) := by
        intro version locked
        have holds := own_holds was before found locked
        rw [Row.visible, locked] at seen
        simp [holds.2.2] at seen
      rw [committed_of_visible foreign] at seen
      obtain ⟨other, isOther, isAccount⟩ := placed position List.mem_cons_self
      have same : other = row := Option.some.inj (isOther.symm.trans found)
      subst same
      have visible : (other.visible tx).isSome := by rw [committed_of_visible foreign, seen]; rfl
      refine carries_write was before found ready visible ?_ ⟨isAccount, by simp [seen], rfl⟩
        (fun _ _ _ _ holds => holds) (relies_write found ready visible _ ⟨targets, later⟩)
      exact write_index_sound was.sound tx (some false) found ready fun _ has =>
        absurd has (by simp [defaultIndex])
    · rw [← Option.some.inj stepped]
      exact carries_goto was before (fun _ _ _ holds => holds) ⟨targets, later⟩

theorem promote_scan_carries (was : Invariant world) {account id : String} {selected : Nat}
    (before : world.calls[tx]? = some (.promoteScan account id selected))
    (stands : targetStands world (.advance tx) = true) :
    Carries tx world (promoteScan world tx account id selected) := by
  unfold promoteScan
  split
  · exact carries_abort was before
  next position chosen =>
    have same : position = selected := by simpa [targetStands, before, chosen] using stands
    exact carries_goto was before (fun _ _ _ holds => holds) ⟨same, was.relies tx _ before⟩

theorem promote_row_carries (was : Invariant world) {account : String}
    {selected position : Nat}
    (before : world.calls[tx]? = some (.promoteRow account selected position)) {next : World}
    (stepped : promoteRow world tx account selected position = some next) : Carries tx world next := by
  unfold promoteRow at stepped
  split at stepped
  · rw [← Option.some.inj stepped]
    exact carries_abort was before
  next row found =>
    split_ifs at stepped with busy gone
    · rw [← Option.some.inj stepped]
      exact carries_abort was before
    split at stepped
    · rw [← Option.some.inj stepped]
      exact carries_abort was before
    · simp at stepped
    next checked =>
      rw [← Option.some.inj stepped]
      obtain ⟨rfl, target, isTarget, isAccount, _⟩ := was.relies tx _ before
      have same : target = row := Option.some.inj (isTarget.symm.trans found)
      subst same
      have ready : target.busy tx = false := Bool.eq_false_iff.mpr busy
      have seen : (target.visible tx).isSome := by simpa [Option.isSome_iff_ne_none] using gone
      have present : target.committed ≠ none := by
        by_cases held : ∃ version, target.lock = some (tx, version)
        · obtain ⟨version, held⟩ := held
          exact (own_holds was before found held).2.1
        · rw [committed_of_visible fun version locked => held ⟨version, locked⟩] at seen
          exact Option.isSome_iff_ne_none.mp seen
      refine carries_write was before found ready seen ?_ ⟨isAccount, present, by simp⟩ ?_
        ⟨rfl, target.write tx (some true), ?_, isAccount, rfl⟩
      · refine write_index_sound was.sound tx (some true) found ready
          fun wanted has other right there apart => ?_
        rw [Option.bind_some] at has
        rw [has] at checked
        exact conflict_free (index_check_free checked there apart)
      · intro other right version apart holds
        refine ⟨holds.1, holds.2.1, ?_⟩
        rw [decide_eq_false apart]
        exact holds.2.2
      · exact List.getElem?_set_self (List.getElem?_eq_some_iff.mp found).1

theorem lock_account_carries (was : Invariant world) {account : String}
    (before : world.calls[tx]? = some (.lockAccount account)) {next : World}
    (stepped : lockAccount world tx account = some next) : Carries tx world next := by
  unfold lockAccount at stepped
  split_ifs at stepped with locked present
  · rw [← Option.some.inj stepped]
    rw [Bool.or_eq_true, not_or] at locked
    have unshared := locked_in_false (Bool.eq_false_iff.mpr locked.2)
    refine carries_of_quiet was before (leaves_others_refl tx world.rows) (fun _ => rfl) rfl rfl
      (fun _ _ _ => Iff.rfl) ?_ was.sound
      (fun position row version found locked => own_holds was before found locked)
      List.mem_cons_self was.alive ?_
    · intro other named foreign
      simp [World.goto, foreign]
    · intro first second named deletes shares
      rcases List.mem_cons.mp deletes with isNew | kept
      · have isNamed : named = account := (Prod.mk.inj isNew).2
        subst isNamed
        exact unshared second shares
      · exact was.apart first second named kept shares
  · rw [← Option.some.inj stepped]
    exact carries_abort was before

theorem cascade_scan_carries (was : Invariant world) {account : String}
    (before : world.calls[tx]? = some (.cascadeScan account)) :
    Carries tx world (world.goto tx (.cascadeRows account
      (rowsWhere world.rows (cascaded tx account)))) := by
  refine carries_goto was before (fun _ _ _ none => none.elim)
    ⟨was.relies tx _ before, ?_, ?_⟩
  · intro position listed
    obtain ⟨row, found, selects⟩ := mem_rows_where.mp listed
    simp only [cascaded, Bool.and_eq_true, beq_iff_eq] at selects
    exact ⟨row, found, selects.1⟩
  · intro position row found isAccount present
    left
    have visible := committed_of_visible
      (lock_free_of_empty was before (fun _ _ _ none => none.elim) found)
    exact mem_rows_where.mpr ⟨row, found, by
      simp [cascaded, isAccount, visible, Option.isSome_iff_ne_none, present]⟩

theorem cascade_row_carries (was : Invariant world) {account : String} {position : Nat}
    {remaining : List Nat}
    (before : world.calls[tx]? = some (.cascadeRows account (position :: remaining)))
    {next : World}
    (stepped : cascadeRow world tx account position remaining = some next) : Carries tx world next := by
  obtain ⟨deletes, placed, cover⟩ := was.relies tx _ before
  have later : ∀ other ∈ remaining, PlacedIn world.rows account other := fun other listed =>
    placed other (List.mem_cons_of_mem _ listed)
  obtain ⟨row, found, isAccount⟩ := placed position List.mem_cons_self
  unfold cascadeRow at stepped
  simp only [found] at stepped
  split_ifs at stepped with busy seen
  · rw [← Option.some.inj stepped]
    have ready : row.busy tx = false := Bool.eq_false_iff.mpr busy
    have foreign : ∀ version, row.lock ≠ some (tx, version) := by
      intro version locked
      have holds := own_holds was before found locked
      rw [Row.visible, locked] at seen
      simp [holds.2.2] at seen
    have frame := write_leaves_others found ready seen none
    refine carries_write was before found ready seen ?_ ⟨isAccount, ?_, rfl⟩
      (fun _ _ _ _ holds => holds)
      ⟨deletes, fun other listed => placed_in_frame frame (later other listed), ?_⟩
    · exact write_index_sound was.sound tx none found ready fun _ has => absurd has (by simp)
    · rw [committed_of_visible foreign] at seen
      exact Option.isSome_iff_ne_none.mp seen
    · intro other right there isNamed present
      rcases slot_of_set there with ⟨rfl, rfl⟩ | ⟨apart, wasThere⟩
      · exact Or.inr rfl
      · rcases cover other right wasThere isNamed present with listed | locked
        · rcases List.mem_cons.mp listed with isHead | listed
          · exact absurd isHead apart
          · exact Or.inl listed
        · exact Or.inr locked
  · rw [← Option.some.inj stepped]
    refine carries_goto was before (fun _ _ _ holds => holds) ⟨deletes, later, ?_⟩
    intro other right there isNamed present
    rcases cover other right there isNamed present with listed | locked
    · rcases List.mem_cons.mp listed with rfl | listed
      · right
        have same : row = right := Option.some.inj (found.symm.trans there)
        subst same
        by_cases held : ∃ version, row.lock = some (tx, version)
        · obtain ⟨version, held⟩ := held
          rw [held, (own_holds was before found held).2.2]
        · rw [committed_of_visible fun version locked => held ⟨version, locked⟩] at seen
          exact absurd (Option.isSome_iff_ne_none.mpr present) seen
      · exact Or.inl listed
    · exact Or.inr locked

theorem cascade_done_carries (was : Invariant world) {account : String}
    (before : world.calls[tx]? = some (.cascadeRows account [])) :
    Carries tx world (world.goto tx (.commitAccountDeletion account)) := by
  obtain ⟨deletes, _, cover⟩ := was.relies tx _ before
  refine carries_goto was before (fun _ _ _ holds => holds) ⟨deletes, ?_⟩
  intro position row found isAccount present
  exact (cover position row found isAccount present).resolve_left List.not_mem_nil

end Steps

end LightbridgeAuthz.Access.DefaultProjects
