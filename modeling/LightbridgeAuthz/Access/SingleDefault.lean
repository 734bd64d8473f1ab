import LightbridgeAuthz.Access.DefaultSteps

/-!
# Exactly one default project

Every commit keeps the invariant of the committed table, and so does every run, under
one condition: between the first and the last statement of a `set_default_project`
nobody deletes the target and creates another project under its id.
-/

namespace LightbridgeAuthz.Access.DefaultProjects

open Library.EventRun Library.CallSlots Library.RowVersions

set_option autoImplicit false

section Commits

variable {world : World} {tx : Nat} {old : Point}

theorem carries_commit (was : Invariant world) (before : world.calls[tx]? = some old)
    {accounts : List String} (fewer : ∀ account ∈ accounts, account ∈ world.accounts)
    (alive : ∀ other account, other ≠ tx → (other, account) ∈ world.sharing →
      account ∈ accounts)
    (projects : ∀ account ∈ accounts, HasProject world.rows account →
      HasProject (world.rows.map (Row.commit tx)) account)
    (arrivals : ∀ (position : Nat) (row : ProjectRow) (isDefault : Bool),
      world.rows[position]? = some row → row.lock = some (tx, some isDefault) →
        row.committed = none → ∀ other, (other, row.key.accountId) ∉ world.deleting)
    (covered : ∀ account, HasProject (world.rows.map (Row.commit tx)) account →
      ∃ position, IsDefault (world.rows.map (Row.commit tx)) account position) :
    Carries tx world { world.commit tx with accounts := accounts } := by
  refine carries_of_frame was ⟨commit_leaves_others tx world.rows, ?_, ?_, ?_, ?_, ?_⟩
    (List.getElem?_set_self (List.getElem?_eq_some_iff.mp before).1)
    (commit_index_sound was.sound tx) covered ?_ trivial ?_ ?_
  · intro other foreign
    exact List.getElem?_set_ne (Ne.symm foreign)
  · intro other account foreign
    exact ⟨fun kept => (mem_drop_locks.mp kept).1, fun kept => mem_drop_locks.mpr ⟨kept, foreign⟩⟩
  · intro other account foreign
    exact ⟨fun kept => (mem_drop_locks.mp kept).1, fun kept => mem_drop_locks.mpr ⟨kept, foreign⟩⟩
  · intro account present
    exact ⟨fewer account present, projects account present⟩
  · intro other account _ deletes position row there isAccount present
    obtain ⟨value, isValue⟩ := Option.ne_none_iff_exists'.mp present
    obtain ⟨left, found, keyed, from_⟩ := committed_at_commit (committed_at_of_row there isValue)
    rcases from_ with written | ⟨_, seen⟩
    · refine ⟨left, found, fun arrives => ?_⟩
      refine arrivals position left value found written arrives other ?_
      rw [keyed, isAccount]
      exact deletes
    · obtain ⟨same, foundSame, _, wasValue⟩ := committed_at_some seen
      exact ⟨same, foundSame, by simp [wasValue]⟩
  · intro position row version there locked
    rw [World.commit, List.getElem?_map] at there
    obtain ⟨left, _, rfl⟩ := Option.map_eq_some_iff.mp there
    exact absurd rfl (commit_lock locked).1
  · intro other account shares
    obtain ⟨kept, foreign⟩ := mem_drop_locks.mp shares
    exact alive other account foreign kept
  · intro first second account deletes shares
    exact was.apart first second account (mem_drop_locks.mp deletes).1 (mem_drop_locks.mp shares).1

theorem committed_stays {position : Nat} {found : ProjectKey × Bool}
    (there : committedAt world.rows position = some found)
    (free : ∀ row, world.rows[position]? = some row → row.key = found.1 →
      row.committed = some found.2 → ∀ version, row.lock ≠ some (tx, version)) :
    committedAt (world.rows.map (Row.commit tx)) position = some found := by
  obtain ⟨row, isRow, isKey, isValue⟩ := committed_at_some there
  rw [committed_at_commit_free isRow (free row isRow isKey isValue)]
  exact there

theorem commit_create_carries (was : Invariant world) {account : String}
    (before : world.calls[tx]? = some (.commitCreate account)) :
    Carries tx world (world.commit tx) := by
  obtain ⟨shares, joins⟩ := was.relies tx _ before
  have stays : ∀ (position : Nat) (found : ProjectKey × Bool),
      committedAt world.rows position = some found →
        committedAt (world.rows.map (Row.commit tx)) position = some found := by
    intro position found there
    refine committed_stays there fun row isRow _ isValue version locked => ?_
    rw [(own_holds was before isRow locked).2.1] at isValue
    simp at isValue
  have keeps : ∀ named position, IsDefault world.rows named position →
      IsDefault (world.rows.map (Row.commit tx)) named position := by
    rintro named position ⟨key, there, isNamed⟩
    exact ⟨key, stays position _ there, isNamed⟩
  refine carries_commit was before (fun _ present => present)
    (fun other named _ kept => was.alive other named kept) ?_ ?_ ?_
  · rintro named _ ⟨position, key, isDefault, there, isNamed⟩
    exact ⟨position, key, isDefault, stays position _ there, isNamed⟩
  · intro position row isDefault found locked _ other deletes
    rw [(own_holds was before found locked).1] at deletes
    exact was.apart other tx account deletes shares
  · rintro named ⟨position, key, isDefault, there, isNamed⟩
    obtain ⟨row, found, keyed, written | ⟨_, seen⟩⟩ := committed_at_commit there
    · cases isDefault with
      | true => exact ⟨position, key, there, isNamed⟩
      | false =>
          have isAccount : named = account := by
            rw [← isNamed, ← (own_holds was before found written).1, keyed]
          subst isAccount
          obtain ⟨other, isOther⟩ := was.covered named
            (joins ⟨position, row, found, written⟩ (was.alive tx named shares))
          exact ⟨other, keeps named other isOther⟩
    · obtain ⟨other, isOther⟩ := was.covered named ⟨position, key, isDefault, seen, isNamed⟩
      exact ⟨other, keeps named other isOther⟩

theorem commit_delete_carries (was : Invariant world)
    (before : world.calls[tx]? = some .commitDelete) : Carries tx world (world.commit tx) := by
  have keeps : ∀ named position, IsDefault world.rows named position →
      IsDefault (world.rows.map (Row.commit tx)) named position := by
    rintro named position ⟨key, there, isNamed⟩
    refine ⟨key, committed_stays there fun row isRow _ isValue version locked => ?_, isNamed⟩
    rw [(own_holds was before isRow locked).1] at isValue
    simp at isValue
  have covers : ∀ named, HasProject world.rows named →
      ∃ position, IsDefault (world.rows.map (Row.commit tx)) named position := by
    intro named has
    obtain ⟨position, isDefault⟩ := was.covered named has
    exact ⟨position, keeps named position isDefault⟩
  refine carries_commit was before (fun _ present => present)
    (fun other named _ kept => was.alive other named kept) ?_ ?_ ?_
  · intro named _ has
    obtain ⟨position, key, there, isNamed⟩ := covers named has
    exact ⟨position, key, true, there, isNamed⟩
  · intro position row isDefault found locked _
    exact absurd (own_holds was before found locked).2 (by simp)
  · rintro named ⟨position, key, isDefault, there, isNamed⟩
    obtain ⟨row, found, _, written | ⟨_, seen⟩⟩ := committed_at_commit there
    · exact absurd (own_holds was before found written).2 (by simp)
    · exact covers named ⟨position, key, isDefault, seen, isNamed⟩

theorem commit_default_carries (was : Invariant world) {account : String}
    {selected position : Nat}
    (before : world.calls[tx]? = some (.commitDefault account selected position)) :
    Carries tx world (world.commit tx) := by
  obtain ⟨_, row, found, isAccount, locked⟩ := was.relies tx _ before
  have promoted : IsDefault (world.rows.map (Row.commit tx)) account position :=
    ⟨row.key, by rw [committed_at_commit_held found locked]; rfl, isAccount⟩
  refine carries_commit was before (fun _ present => present)
    (fun other named _ kept => was.alive other named kept) ?_ ?_ ?_
  · rintro named _ ⟨place, key, isDefault, there, isNamed⟩
    obtain ⟨left, isLeft, isKey, isValue⟩ := committed_at_some there
    by_cases held : ∃ version, left.lock = some (tx, version)
    · obtain ⟨version, held⟩ := held
      have holds := own_holds was before isLeft held
      refine ⟨place, key, decide (place = position), ?_, isNamed⟩
      rw [committed_at_commit_held isLeft held, holds.2.2, isKey]
      rfl
    · refine ⟨place, key, isDefault, ?_, isNamed⟩
      rw [committed_at_commit_free isLeft fun version own => held ⟨version, own⟩]
      exact there
  · intro place left isDefault isLeft held gone
    exact absurd gone (own_holds was before isLeft held).2.1
  · rintro named ⟨place, key, isDefault, there, isNamed⟩
    by_cases same : named = account
    · subst same
      exact ⟨position, promoted⟩
    · obtain ⟨left, isLeft, keyed, written | ⟨_, seen⟩⟩ := committed_at_commit there
      · have belongs := (own_holds was before isLeft written).1
        rw [keyed, isNamed] at belongs
        exact absurd belongs same
      · obtain ⟨other, isOther, there, isOthers⟩ :=
          was.covered named ⟨place, key, isDefault, seen, isNamed⟩
        refine ⟨other, isOther, ?_, isOthers⟩
        refine committed_stays there fun right isRight isKey _ version own => same ?_
        rw [← (own_holds was before isRight own).1, isKey, isOthers]

theorem commit_account_deletion_carries (was : Invariant world) {account : String}
    (before : world.calls[tx]? = some (.commitAccountDeletion account)) :
    Carries tx world (removeAccount (world.commit tx) account) := by
  obtain ⟨deletes, cover⟩ := was.relies tx _ before
  have stays : ∀ (position : Nat) (found : ProjectKey × Bool), found.1.accountId ≠ account →
      committedAt world.rows position = some found →
        committedAt (world.rows.map (Row.commit tx)) position = some found := by
    intro position found elsewhere there
    refine committed_stays there fun row isRow isKey _ version locked => elsewhere ?_
    rw [← (own_holds was before isRow locked).1, isKey]
  refine carries_commit was before (fun _ kept => (List.mem_filter.mp kept).1) ?_ ?_ ?_ ?_
  · intro other named _ shares
    refine List.mem_filter.mpr ⟨was.alive other named shares, ?_⟩
    rw [bne_iff_ne]
    rintro rfl
    exact was.apart tx other named deletes shares
  · rintro named kept ⟨position, key, isDefault, there, isNamed⟩
    have elsewhere : named ≠ account := by simpa using (List.mem_filter.mp kept).2
    exact ⟨position, key, isDefault, stays position _ (isNamed ▸ elsewhere) there, isNamed⟩
  · intro position row isDefault found locked _
    exact absurd (own_holds was before found locked).2.2 (by simp)
  · rintro named ⟨position, key, isDefault, there, isNamed⟩
    obtain ⟨row, found, keyed, written | ⟨free, seen⟩⟩ := committed_at_commit there
    · exact absurd (own_holds was before found written).2.2 (by simp)
    · have elsewhere : named ≠ account := by
        rintro rfl
        obtain ⟨left, isLeft, isKey, isValue⟩ := committed_at_some seen
        have same : row = left := Option.some.inj (found.symm.trans isLeft)
        subst same
        exact free none (cover position row found (by rw [isKey, isNamed]) (by simp [isValue]))
      obtain ⟨other, isOther, wasThere, isOthers⟩ :=
        was.covered named ⟨position, key, isDefault, seen, isNamed⟩
      exact ⟨other, isOther, stays other _ (isOthers ▸ elsewhere) wasThere, isOthers⟩

end Commits

theorem advance_carries {world next : World} {tx : Nat} {point : Point}
    (was : Invariant world) (before : world.calls[tx]? = some point)
    (stands : targetStands world (.advance tx) = true)
    (stepped : advance world tx point = some next) : Carries tx world next := by
  cases point with
  | createScan id account =>
      rw [← Option.some.inj stepped]
      exact create_scan_carries was before
  | createInsert id account isDefault => exact create_insert_carries was before stepped
  | createReference account => exact create_reference_carries was before stepped
  | commitCreate account =>
      rw [← Option.some.inj stepped]
      exact commit_create_carries was before
  | deleteScan id owner =>
      rw [← Option.some.inj stepped]
      exact delete_scan_carries was before
  | deleteRow position => exact delete_row_carries was before stepped
  | commitDelete =>
      rw [← Option.some.inj stepped]
      exact commit_delete_carries was before
  | selectProject subject id =>
      rw [← Option.some.inj stepped]
      exact select_project_carries was before
  | demoteScan account id selected =>
      rw [← Option.some.inj stepped]
      exact demote_scan_carries was before
  | demoteRows account id selected remaining =>
      cases remaining with
      | nil =>
          rw [← Option.some.inj stepped]
          exact carries_goto was before (fun _ _ _ holds => holds) (was.relies tx _ before).1
      | cons position remaining => exact demote_row_carries was before stepped
  | promoteScan account id selected =>
      rw [← Option.some.inj stepped]
      exact promote_scan_carries was before stands
  | promoteRow account selected position => exact promote_row_carries was before stepped
  | commitDefault account selected position =>
      rw [← Option.some.inj stepped]
      exact commit_default_carries was before
  | lockAccount account => exact lock_account_carries was before stepped
  | cascadeScan account =>
      rw [← Option.some.inj stepped]
      exact cascade_scan_carries was before
  | cascadeRows account remaining =>
      cases remaining with
      | nil =>
          rw [← Option.some.inj stepped]
          exact cascade_done_carries was before
      | cons position remaining => exact cascade_row_carries was before stepped
  | commitAccountDeletion account =>
      rw [← Option.some.inj stepped]
      exact commit_account_deletion_carries was before
  | ended committed => simp [advance] at stepped

theorem step_invariant {world next : World} {event : Event} (was : Invariant world)
    (stands : targetStands world event = true) (stepped : step world event = some next) :
    Invariant next := by
  cases event with
  | advance tx =>
      obtain ⟨point, before, advanced⟩ := Option.bind_eq_some_iff.mp stepped
      exact (advance_carries was before stands advanced).invariant
  | abort tx =>
      obtain ⟨point, before, aborted⟩ := Option.bind_eq_some_iff.mp stepped
      split_ifs at aborted
      rw [← Option.some.inj aborted]
      exact (carries_abort was before).invariant
  | roster members =>
      rw [← Option.some.inj stepped]
      exact ⟨was.sound, was.covered, was.held, was.relies, was.alive, was.apart⟩

variable {world : World}

theorem one_default (was : Invariant world) : OneDefault world.rows := by
  intro account has
  obtain ⟨position, key, there, isAccount⟩ := was.covered account has
  refine ⟨position, ⟨key, there, isAccount⟩, ?_⟩
  rintro other ⟨otherKey, otherThere, isAccountToo⟩
  have entered : defaultIndex key true = some account := by simp [defaultIndex, isAccount]
  have enteredToo : defaultIndex otherKey true = some account := by
    simp [defaultIndex, isAccountToo]
  exact committed_place_unique was.sound otherThere there enteredToo entered

/-- Nothing is locked and no request has done anything. -/
structure AtRest (world : World) : Prop where
  unlocked : ∀ row ∈ world.rows, row.lock = none
  unshared : world.sharing = []
  undeleted : world.deleting = []
  requests : ∀ point ∈ world.calls, point.isRequest = true
  oneDefault : OneDefault world.rows

theorem at_rest_invariant (rest : AtRest world) : Invariant world := by
  have unlocked : ∀ (position : Nat) (row : ProjectRow), world.rows[position]? = some row →
      row.lock = none := fun _ row found => rest.unlocked row (List.mem_of_getElem? found)
  have pendingNone : ∀ (position : Nat) (row : ProjectRow), world.rows[position]? = some row →
      row.pendingEntry defaultIndex = none := fun position row found => by
    simp [Row.pendingEntry, unlocked position row found]
  refine ⟨⟨?_, ?_, ?_⟩, ?_, ?_, ?_, ?_, ?_⟩
  · intro first second left right account inFirst inSecond apart has hasToo
    have isDefault : ∀ (position : Nat) (row : ProjectRow), world.rows[position]? = some row →
        row.committedEntry defaultIndex = some account →
          IsDefault world.rows account position := by
      intro position row found entered
      obtain ⟨value, isValue, isEntry⟩ := Option.bind_eq_some_iff.mp entered
      unfold defaultIndex at isEntry
      split_ifs at isEntry with isDefault
      subst isDefault
      exact ⟨row.key, committed_at_of_row found isValue, Option.some.inj isEntry⟩
    have one := isDefault first left inFirst has
    have two := isDefault second right inSecond hasToo
    obtain ⟨key, there, isAccount⟩ := one
    obtain ⟨position, _, only⟩ := rest.oneDefault account ⟨first, key, true, there, isAccount⟩
    exact apart ((only first ⟨key, there, isAccount⟩).trans (only second two).symm)
  · intro first second left right account inFirst _ _ has
    rw [pendingNone first left inFirst] at has
    exact absurd has (by simp)
  · intro first second left right tx version account inFirst _ _ locked
    rw [unlocked first left inFirst] at locked
    exact absurd locked (by simp)
  · intro account has
    exact (rest.oneDefault account has).exists
  · intro position row tx version found locked
    rw [unlocked position row found] at locked
    exact absurd locked (by simp)
  · intro tx point called
    have request := rest.requests point (List.mem_of_getElem? called)
    cases point <;> trivial
  · intro tx account shares
    rw [rest.unshared] at shares
    exact absurd shares List.not_mem_nil
  · intro tx other account deletes
    rw [rest.undeleted] at deletes
    exact absurd deletes List.not_mem_nil

/-- The account and the row that a `set_default_project` has read, once it has. -/
def Point.target : Point → Option (String × Nat)
  | .demoteScan account _ selected | .demoteRows account _ selected _
  | .promoteScan account _ selected | .promoteRow account selected _
  | .commitDefault account selected _ => some (account, selected)
  | _ => none

/-- What the commit of a `set_default_project` makes of the project in a place. -/
def movedDefault (account : String) (selected position : Nat) (project : ProjectKey × Bool) :
    ProjectKey × Bool :=
  (project.1,
    if position = selected then true
    else if project.1.accountId = account then false else project.2)

/-- Another project has become the default one since the demotion. -/
def LosesRace (world : World) (tx : Nat) : Prop :=
  ∃ account selected position other row,
    world.calls[tx]? = some (.promoteRow account selected position) ∧ other ≠ selected ∧
      world.rows[other]? = some row ∧ row.key.accountId = account ∧
        row.committed = some true ∧ ∀ version, row.lock ≠ some (tx, version)

/-- A step of a `set_default_project`. -/
structure MovesOrKeeps (world next : World) (tx : Nat) (account : String) (selected : Nat) :
    Prop where
  moves : next.calls[tx]? = some (.ended true) →
    committedAt world.rows selected ≠ none ∧
      ∀ position, committedAt next.rows position =
        (committedAt world.rows position).map (movedDefault account selected position)
  keeps : next.calls[tx]? ≠ some (.ended true) →
    ∀ position, committedAt next.rows position = committedAt world.rows position
  aborts : LosesRace world tx → next.calls[tx]? = some (.ended false)

/-- Where a step that is no commit leaves its own call. -/
structure Goes (world next : World) (tx : Nat) (point : Point) : Prop where
  same : ∀ position, committedAt next.rows position = committedAt world.rows position
  here : next.calls[tx]? = some point

section SetDefault

variable {next : World} {tx : Nat} {old point : Point}

theorem goes_goto (before : world.calls[tx]? = some old) (point : Point) :
    Goes world (world.goto tx point) tx point :=
  ⟨fun _ => rfl, List.getElem?_set_self (List.getElem?_eq_some_iff.mp before).1⟩

theorem goes_write (before : world.calls[tx]? = some old) {position : Nat} {row : ProjectRow}
    (found : world.rows[position]? = some row) (version : Option Bool) (point : Point) :
    Goes world ((world.write tx position row version).goto tx point) tx point :=
  ⟨committed_at_write found tx version,
    List.getElem?_set_self (List.getElem?_eq_some_iff.mp before).1⟩

theorem goes_abort (before : world.calls[tx]? = some old) :
    Goes world (world.abort tx) tx (.ended false) :=
  ⟨committed_at_abort tx world.rows,
    List.getElem?_set_self (List.getElem?_eq_some_iff.mp before).1⟩

theorem targets_of_relies (was : Invariant world) {account : String} {selected : Nat}
    (before : world.calls[tx]? = some point) (targets : point.target = some (account, selected)) :
    Targets world.rows account selected := by
  have relied := was.relies tx point before
  cases point with
  | demoteScan named id place =>
      obtain ⟨rfl, rfl⟩ := Prod.mk.inj (Option.some.inj targets)
      exact relied
  | demoteRows named id place remaining =>
      obtain ⟨rfl, rfl⟩ := Prod.mk.inj (Option.some.inj targets)
      exact relied.1
  | promoteScan named id place =>
      obtain ⟨rfl, rfl⟩ := Prod.mk.inj (Option.some.inj targets)
      exact relied
  | promoteRow named place position =>
      obtain ⟨rfl, rfl⟩ := Prod.mk.inj (Option.some.inj targets)
      exact relied.2
  | commitDefault named place position =>
      obtain ⟨rfl, rfl⟩ := Prod.mk.inj (Option.some.inj targets)
      obtain ⟨rfl, row, found, isAccount, locked⟩ := relied
      exact ⟨row, found, isAccount, fun gone =>
        absurd gone (own_holds was before found locked).2.1⟩
  | _ => simp [Point.target] at targets

theorem set_default_advance {account : String} {selected : Nat}
    (before : world.calls[tx]? = some point) (targets : point.target = some (account, selected))
    (stepped : advance world tx point = some next) :
    (∃ position, point = .commitDefault account selected position ∧ next = world.commit tx) ∨
      Goes world next tx (.ended false) ∨
        ∃ after, after.target = some (account, selected) ∧ Goes world next tx after := by
  cases point with
  | demoteScan named id place =>
      obtain ⟨rfl, rfl⟩ := Prod.mk.inj (Option.some.inj targets)
      rw [← Option.some.inj stepped]
      exact Or.inr (Or.inr ⟨_, rfl, goes_goto before _⟩)
  | demoteRows named id place remaining =>
      obtain ⟨rfl, rfl⟩ := Prod.mk.inj (Option.some.inj targets)
      right; right
      cases remaining with
      | nil =>
          rw [← Option.some.inj stepped]
          exact ⟨_, rfl, goes_goto before _⟩
      | cons position remaining =>
          simp only [advance, demoteRow] at stepped
          split at stepped
          · rw [← Option.some.inj stepped]
            exact ⟨_, rfl, goes_goto before _⟩
          next row found =>
            split_ifs at stepped
            · rw [← Option.some.inj stepped]
              exact ⟨_, rfl, goes_write before found _ _⟩
            · rw [← Option.some.inj stepped]
              exact ⟨_, rfl, goes_goto before _⟩
  | promoteScan named id place =>
      obtain ⟨rfl, rfl⟩ := Prod.mk.inj (Option.some.inj targets)
      right
      rw [← Option.some.inj stepped]
      unfold promoteScan
      split
      · exact Or.inl (goes_abort before)
      · exact Or.inr ⟨_, rfl, goes_goto before _⟩
  | promoteRow named place position =>
      obtain ⟨rfl, rfl⟩ := Prod.mk.inj (Option.some.inj targets)
      right
      simp only [advance, promoteRow] at stepped
      split at stepped
      · rw [← Option.some.inj stepped]
        exact Or.inl (goes_abort before)
      next row found =>
        split_ifs at stepped
        · rw [← Option.some.inj stepped]
          exact Or.inl (goes_abort before)
        split at stepped
        · rw [← Option.some.inj stepped]
          exact Or.inl (goes_abort before)
        · simp at stepped
        · rw [← Option.some.inj stepped]
          exact Or.inr ⟨_, rfl, goes_write before found _ _⟩
  | commitDefault named place position =>
      obtain ⟨rfl, rfl⟩ := Prod.mk.inj (Option.some.inj targets)
      exact Or.inl ⟨position, rfl, (Option.some.inj stepped).symm⟩
  | _ => simp [Point.target] at targets

/-- The committed table after the commit of a `set_default_project`: its target is the only
default project of the account, and nothing else has changed. -/
theorem commit_default_table (was : Invariant world) {account : String}
    {selected position : Nat}
    (before : world.calls[tx]? = some (.commitDefault account selected position)) (place : Nat) :
    committedAt (world.commit tx).rows place =
      (committedAt world.rows place).map (movedDefault account selected place) := by
  obtain ⟨rfl, row, found, isAccount, locked⟩ := was.relies tx _ before
  have after := (commit_default_carries was before).invariant
  have promoted : committedAt (world.commit tx).rows position = some (row.key, true) :=
    committed_at_commit_held found locked
  cases there : world.rows[place]? with
  | none =>
      have gone : (world.commit tx).rows[place]? = none := by
        simp [World.commit, List.getElem?_map, there]
      simp [committedAt, there, gone]
  | some left =>
      by_cases held : ∃ version, left.lock = some (tx, version)
      · obtain ⟨version, held⟩ := held
        obtain ⟨belongs, present, isVersion⟩ := own_holds was before there held
        obtain ⟨value, isValue⟩ := Option.ne_none_iff_exists'.mp present
        rw [committed_at_of_row there isValue]
        refine (committed_at_commit_held there held).trans ?_
        rw [isVersion]
        by_cases same : place = position <;> simp [movedDefault, belongs, same]
      · have free : ∀ version, left.lock ≠ some (tx, version) := fun version own =>
          held ⟨version, own⟩
        have elsewhere : place ≠ position := by
          rintro rfl
          rw [Option.some.inj (there.symm.trans found)] at free
          exact free _ locked
        have stays : committedAt (world.commit tx).rows place = committedAt world.rows place :=
          committed_at_commit_free there free
        rw [stays]
        cases seen : committedAt world.rows place with
        | none => rfl
        | some project =>
            obtain ⟨key, isDefault⟩ := project
            cases isDefault with
            | false => simp [movedDefault, elsewhere]
            | true =>
                have other : key.accountId ≠ account := by
                  intro isNamed
                  rw [seen] at stays
                  have entered : defaultIndex row.key true = some account := by
                    simp [defaultIndex, isAccount]
                  have enteredToo : defaultIndex key true = some account := by
                    simp [defaultIndex, isNamed]
                  exact elsewhere
                    (committed_place_unique after.sound stays promoted enteredToo entered)
                simp [movedDefault, elsewhere, other]

theorem lost_race_aborts (was : Invariant world) (lost : LosesRace world tx)
    (stepped : step world (.advance tx) = some next) : Goes world next tx (.ended false) := by
  obtain ⟨account, selected, position, other, rival, before, apart, isRival, isNamed, isDefault,
    foreign⟩ := lost
  obtain ⟨rfl, row, found, isAccount, _⟩ := was.relies tx _ before
  simp only [step, before, Option.bind_some, advance, promoteRow, found] at stepped
  split_ifs at stepped
  · rw [← Option.some.inj stepped]
    exact goes_abort before
  split at stepped
  · rw [← Option.some.inj stepped]
    exact goes_abort before
  · simp at stepped
  next checked =>
    have entered : defaultIndex row.key true = some account := by simp [defaultIndex, isAccount]
    rw [entered] at checked
    have takes : rival.committedEntry defaultIndex = some account := by
      simp [Row.committedEntry, isDefault, defaultIndex, isNamed]
    obtain ⟨version, own⟩ := (conflict_free (index_check_free checked isRival apart)).2 takes
    exact absurd own (foreign version)

theorem set_default_moves_or_keeps (was : Invariant world) {event : Event} {account : String}
    {selected : Nat}
    (targets : (world.calls[tx]?).bind Point.target = some (account, selected))
    (mine : event = .advance tx ∨ event = .abort tx) (stepped : step world event = some next) :
    MovesOrKeeps world next tx account selected := by
  obtain ⟨point, before, isTarget⟩ := Option.bind_eq_some_iff.mp targets
  have quiet : ∀ after, after ≠ .ended true → Goes world next tx after →
      (LosesRace world tx → next.calls[tx]? = some (.ended false)) →
        MovesOrKeeps world next tx account selected := by
    intro after unfinished goes aborts
    refine ⟨fun commits => ?_, fun _ => goes.same, aborts⟩
    exact absurd (Option.some.inj (goes.here.symm.trans commits)) unfinished
  rcases mine with rfl | rfl
  · have loses : LosesRace world tx → next.calls[tx]? = some (.ended false) := fun lost =>
      (lost_race_aborts was lost stepped).here
    have advanced : advance world tx point = some next := by
      simpa only [step, before, Option.bind_some] using stepped
    rcases set_default_advance before isTarget advanced with
      ⟨position, rfl, rfl⟩ | aborted | ⟨after, stillTargets, goes⟩
    · obtain ⟨rfl, row, found, _, locked⟩ := was.relies tx _ before
      obtain ⟨value, isValue⟩ :=
        Option.ne_none_iff_exists'.mp (own_holds was before found locked).2.1
      refine ⟨fun _ => ⟨?_, commit_default_table was before⟩, fun open_ => ?_, loses⟩
      · rw [committed_at_of_row found isValue]
        simp
      · exact absurd (List.getElem?_set_self (List.getElem?_eq_some_iff.mp before).1) open_
    · exact quiet _ (by decide) aborted loses
    · refine quiet after ?_ goes loses
      rintro rfl
      simp [Point.target] at stillTargets
  · simp only [step, before, Option.bind_some] at stepped
    split_ifs at stepped
    have isNext : world.abort tx = next := Option.some.inj stepped
    subst isNext
    exact quiet _ (by decide) (goes_abort before) fun _ => (goes_abort before).here

/-- The project that a `set_default_project` has read is gone, and the call has not ended
otherwise than by an abort. -/
structure TargetGone (tx selected : Nat) (world : World) : Prop where
  row : ∃ row, world.rows[selected]? = some row ∧ row.committed = none ∧ row.lock = none
  call : ∃ point, world.calls[tx]? = some point ∧
    (point = .ended false ∨ ∃ account, point.target = some (account, selected))

theorem target_gone_carries {caller selected : Nat} (carries : Carries caller world next)
    (gone : TargetGone tx selected world)
    (call : ∃ point, next.calls[tx]? = some point ∧
      (point = .ended false ∨ ∃ account, point.target = some (account, selected))) :
    TargetGone tx selected next := by
  obtain ⟨row, found, isNone, free⟩ := gone.row
  obtain ⟨moved, there, keeps⟩ := carries.places selected row found
  have stillNone := keeps.gone isNone free
  exact ⟨⟨moved, there, stillNone, keeps.settled (fun _ => free) stillNone⟩, call⟩

theorem target_gone_step (was : Invariant world) {event : Event} {selected : Nat}
    (stands : targetStands world event = true) (gone : TargetGone tx selected world)
    (stepped : step world event = some next) : TargetGone tx selected next := by
  obtain ⟨point, before, standing⟩ := gone.call
  cases event with
  | advance caller =>
      obtain ⟨called, isCalled, advanced⟩ := Option.bind_eq_some_iff.mp stepped
      have carries := advance_carries was isCalled stands advanced
      refine target_gone_carries carries gone ?_
      by_cases mine : tx = caller
      · subst mine
        have same : called = point := Option.some.inj (isCalled.symm.trans before)
        subst same
        rcases standing with rfl | ⟨account, targets⟩
        · simp [advance] at advanced
        rcases set_default_advance before targets advanced with
          ⟨position, rfl, rfl⟩ | aborted | ⟨after, stillTargets, goes⟩
        · obtain ⟨rfl, row, found, _, locked⟩ := was.relies tx _ before
          obtain ⟨left, isLeft, _, free⟩ := gone.row
          rw [Option.some.inj (found.symm.trans isLeft)] at locked
          rw [free] at locked
          simp at locked
        · exact ⟨_, aborted.here, Or.inl rfl⟩
        · exact ⟨after, goes.here, Or.inr ⟨account, stillTargets⟩⟩
      · rw [carries.calls tx mine]
        exact ⟨point, before, standing⟩
  | abort caller =>
      obtain ⟨called, isCalled, aborted⟩ := Option.bind_eq_some_iff.mp stepped
      split_ifs at aborted
      rw [← Option.some.inj aborted]
      have carries := carries_abort was isCalled
      refine target_gone_carries carries gone ?_
      by_cases mine : tx = caller
      · subst mine
        exact ⟨_, (goes_abort isCalled).here, Or.inl rfl⟩
      · rw [carries.calls tx mine]
        exact ⟨point, before, standing⟩
  | roster members =>
      rw [← Option.some.inj stepped]
      exact ⟨gone.row, gone.call⟩

end SetDefault

theorem run_invariant {start last : World} {events : List Event} (was : Invariant start)
    (stands : Meets step (fun world event => targetStands world event = true) start events)
    (ran : runFrom step start events = some last) : Invariant last :=
  run_preserves_of_meets Invariant (fun _ _ _ was stands stepped =>
    step_invariant was stands stepped) was stands ran

theorem gone_target_never_commits {middle last : World} {events : List Event} {tx : Nat}
    {account : String} {selected : Nat} (was : Invariant middle)
    (targets : (middle.calls[tx]?).bind Point.target = some (account, selected))
    (deleted : committedAt middle.rows selected = none)
    (stands : Meets step (fun world event => targetStands world event = true) middle events)
    (ran : runFrom step middle events = some last) : last.calls[tx]? ≠ some (.ended true) := by
  obtain ⟨point, before, isTarget⟩ := Option.bind_eq_some_iff.mp targets
  obtain ⟨row, found, _, settled⟩ := targets_of_relies was before isTarget
  have isNone : row.committed = none := by
    unfold committedAt at deleted
    rw [found] at deleted
    simpa using deleted
  have gone : TargetGone tx selected middle :=
    ⟨⟨row, found, isNone, settled isNone⟩, point, before, Or.inr ⟨account, isTarget⟩⟩
  have after := run_preserves_of_meets
    (fun world => Invariant world ∧ TargetGone tx selected world)
    (fun _ _ _ now stands stepped => ⟨step_invariant now.1 stands stepped,
      target_gone_step now.1 stands now.2 stepped⟩)
    ⟨was, gone⟩ stands ran
  obtain ⟨ended, isEnded, standing⟩ := after.2.call
  intro commits
  have same : ended = .ended true := Option.some.inj (isEnded.symm.trans commits)
  subst same
  simp [Point.target] at standing

/-- Every interleaving of creations, deletions, reassignments and account deletions. -/
theorem one_default_project {start last : World} {events : List Event} (rest : AtRest start)
    (stands : Meets step (fun world event => targetStands world event = true) start events)
    (ran : runFrom step start events = some last) :
    OneDefault last.rows ∧
      (∀ (tx : Nat) (account : String) (selected : Nat) (event : Event) (next : World),
        (last.calls[tx]?).bind Point.target = some (account, selected) →
          (event = .advance tx ∨ event = .abort tx) → step last event = some next →
            MovesOrKeeps last next tx account selected) ∧
      ∀ (front back : List Event) (middle : World) (tx : Nat) (account : String)
        (selected : Nat), events = front ++ back →
        runFrom step start front = some middle →
          (middle.calls[tx]?).bind Point.target = some (account, selected) →
            committedAt middle.rows selected = none →
              last.calls[tx]? ≠ some (Point.ended true) := by
  have was := run_invariant (at_rest_invariant rest) stands ran
  refine ⟨one_default was, ?_, ?_⟩
  · intro tx account selected event next targets mine stepped
    exact set_default_moves_or_keeps was targets mine stepped
  · rintro front back middle tx account selected rfl ranFront targets deleted
    obtain ⟨same, ranSame, ranBack⟩ := run_append_some ran
    have isSame : same = middle := Option.some.inj (ranSame.symm.trans ranFront)
    subst isSame
    obtain ⟨standsFront, standsBack⟩ := meets_append_some stands ranFront
    exact gone_target_never_commits
      (run_invariant (at_rest_invariant rest) standsFront ranFront) targets deleted standsBack
      ranBack

def requestsOf (accounts : List String) (calls : List Point) : World where
  rows := []
  accounts := accounts
  deleting := []
  sharing := []
  members := []
  calls := calls

theorem requests_at_rest {accounts : List String} {calls : List Point}
    (requests : calls.all Point.isRequest = true) : AtRest (requestsOf accounts calls) := by
  refine ⟨by simp [requestsOf], rfl, rfl, List.all_eq_true.mp requests, ?_⟩
  rintro account ⟨position, key, isDefault, there, _⟩
  simp [committedAt, requestsOf] at there

/-- Three projects, two reassignments that race, and the deletion of the project that lost. -/
def racingRequests : World :=
  requestsOf ["ada"]
    [.createScan "p0" "ada", .createScan "p1" "ada", .createScan "p2" "ada",
      .selectProject "ada" "p1", .selectProject "ada" "p2", .deleteScan "p2" "ada"]

def racingEvents : List Event :=
  [0, 0, 0, 0, 1, 1, 1, 1, 2, 2, 2, 2, 3, 4, 3, 4, 3, 3, 3, 3, 3, 4, 4, 4, 4, 5, 5, 5].map
    Event.advance

theorem one_default_project_race : ∃ last,
    runFrom step racingRequests racingEvents = some last ∧
      last.calls = [.ended true, .ended true, .ended true, .ended true, .ended false,
        .ended true] ∧
      HasProject last.rows "ada" ∧ OneDefault last.rows := by
  have passed : reaches step racingRequests racingEvents (fun last =>
      decide (last.calls = [.ended true, .ended true, .ended true, .ended true, .ended false,
        .ended true]) && decide (committedAt last.rows 1 = some (⟨"p1", "ada"⟩, true))) =
      true := by decide +kernel
  obtain ⟨last, ran, checked⟩ := exists_of_reaches passed
  rw [Bool.and_eq_true, decide_eq_true_iff, decide_eq_true_iff] at checked
  have stands : Meets step (fun world event => targetStands world event = true) racingRequests
      racingEvents := by decide +kernel
  exact ⟨last, ran, checked.1, ⟨1, _, true, checked.2, rfl⟩,
    (one_default_project (requests_at_rest (by decide)) stands ran).1⟩

/-- The target is deleted and its id taken by the first project of another account. -/
def takenRequests : World :=
  requestsOf ["ada", "bob"]
    [.createScan "p0" "ada", .createScan "p1" "ada", .selectProject "ada" "p1",
      .deleteScan "p1" "ada", .createScan "p1" "bob"]

def takenEvents : List Event :=
  [0, 0, 0, 0, 1, 1, 1, 1, 2, 3, 3, 3, 4, 4, 4, 4, 2, 2, 2, 2, 2, 2].map Event.advance

theorem taken_id_leaves_no_default : AtRest takenRequests ∧ ∃ last,
    runFrom step takenRequests takenEvents = some last ∧
      last.calls = [.ended true, .ended true, .ended true, .ended true, .ended true] ∧
      HasProject last.rows "ada" ∧ ¬ OneDefault last.rows := by
  have passed : reaches step takenRequests takenEvents (fun last =>
      decide (last.calls = [.ended true, .ended true, .ended true, .ended true, .ended true]) &&
        decide (last.rows = [⟨⟨"p0", "ada"⟩, some false, none⟩, ⟨⟨"p1", "ada"⟩, none, none⟩,
          ⟨⟨"p1", "bob"⟩, some true, none⟩])) = true := by decide +kernel
  obtain ⟨last, ran, checked⟩ := exists_of_reaches passed
  rw [Bool.and_eq_true, decide_eq_true_iff, decide_eq_true_iff] at checked
  obtain ⟨ended, rows⟩ := checked
  have has : HasProject last.rows "ada" :=
    ⟨0, ⟨"p0", "ada"⟩, false, by simp [committedAt, rows], rfl⟩
  refine ⟨requests_at_rest (by decide), last, ran, ended, has, fun one => ?_⟩
  obtain ⟨position, ⟨key, there, isAccount⟩, _⟩ := one "ada" has
  obtain ⟨row, found, isKey, isDefault⟩ := committed_at_some there
  have listed : row ∈ last.rows := List.mem_of_getElem? found
  have none : ∀ row ∈ last.rows, row.committed = some true → row.key.accountId ≠ "ada" := by
    rw [rows]
    decide
  exact none row listed isDefault (isKey ▸ isAccount)

end LightbridgeAuthz.Access.DefaultProjects
