import LightbridgeAuthz.Library.CallSlots

/-!
# Row versions under READ COMMITTED

Every row has its committed version and, while a transaction is writing it, a lock
with the version of that transaction; no version means that the row is not there.
A statement sees the committed versions and its own. A partial unique index gives
some versions an entry: a write is refused where its entry is taken, and waits
where another transaction has still to decide whether it is.
-/

namespace LightbridgeAuthz.Library.RowVersions

open CallSlots

set_option autoImplicit false

structure Row (Key Value : Type*) where
  key : Key
  committed : Option Value
  lock : Option (Nat × Option Value)
  deriving DecidableEq, Repr

variable {Key Value Entry : Type*}

/-- The version that the statements of a transaction see. -/
def Row.visible (tx : Nat) (row : Row Key Value) : Option Value :=
  match row.lock with
  | some (holder, version) => if holder = tx then version else row.committed
  | none => row.committed

def Row.busy (tx : Nat) (row : Row Key Value) : Bool :=
  row.lock.any fun lock => decide (lock.1 ≠ tx)

def Row.write (tx : Nat) (version : Option Value) (row : Row Key Value) : Row Key Value :=
  { row with lock := some (tx, version) }

def Row.commit (tx : Nat) (row : Row Key Value) : Row Key Value :=
  match row.lock with
  | some (holder, version) => if holder = tx then ⟨row.key, version, none⟩ else row
  | none => row

def Row.abort (tx : Nat) (row : Row Key Value) : Row Key Value :=
  match row.lock with
  | some (holder, _) => if holder = tx then { row with lock := none } else row
  | none => row

def freshRow (tx : Nat) (key : Key) (value : Value) : Row Key Value :=
  ⟨key, none, some (tx, some value)⟩

def committedAt (rows : List (Row Key Value)) (position : Nat) : Option (Key × Value) :=
  rows[position]?.bind fun row => row.committed.map fun value => (row.key, value)

theorem lock_of_not_busy {tx holder : Nat} {version : Option Value} {row : Row Key Value}
    (ready : row.busy tx = false) (locked : row.lock = some (holder, version)) : holder = tx := by
  simpa [Row.busy, locked] using ready

/-- The row was there, and nobody writes it if it no longer is. -/
def Row.Settled (row : Row Key Value) : Prop :=
  row.committed = none → row.lock = none

structure Keeps (row moved : Row Key Value) : Prop where
  key : moved.key = row.key
  settled : row.Settled → moved.Settled
  gone : row.committed = none → row.lock = none → moved.committed = none

theorem keeps_refl (row : Row Key Value) : Keeps row row :=
  ⟨rfl, id, fun gone _ => gone⟩

/-- A transaction does nothing to the rows that the others have locked, and brings no row
back that is gone. -/
structure LeavesOthers (tx : Nat) (rows after : List (Row Key Value)) : Prop where
  locked : ∀ (position : Nat) (row : Row Key Value) (holder : Nat) (version : Option Value),
    row.lock = some (holder, version) → holder ≠ tx →
      (after[position]? = some row ↔ rows[position]? = some row)
  places : ∀ (position : Nat) (row : Row Key Value), rows[position]? = some row →
    ∃ moved, after[position]? = some moved ∧ Keeps row moved

section Frame

variable {rows : List (Row Key Value)} {tx position : Nat} {row : Row Key Value}
  {version : Option Value}

theorem leaves_others_refl (tx : Nat) (rows : List (Row Key Value)) :
    LeavesOthers tx rows rows :=
  ⟨fun _ _ _ _ _ _ => Iff.rfl, fun _ row found => ⟨row, found, keeps_refl row⟩⟩

theorem visible_of_gone (gone : row.committed = none) (free : row.lock = none) :
    row.visible tx = none := by
  simp [Row.visible, free, gone]

theorem keeps_write (seen : (row.visible tx).isSome) (version : Option Value) :
    Keeps row (row.write tx version) := by
  have present : row.lock = none → row.committed ≠ none := by
    intro free gone
    simp [visible_of_gone gone free] at seen
  refine ⟨rfl, ?_, ?_⟩
  · intro settled gone
    exact absurd gone (present (settled gone))
  · intro gone free
    exact absurd gone (present free)

theorem write_leaves_others (found : rows[position]? = some row) (ready : row.busy tx = false)
    (seen : (row.visible tx).isSome) (version : Option Value) : LeavesOthers tx rows (rows.set position (row.write tx version)) := by
  constructor
  · intro other right holder held locked foreign
    by_cases same : other = position
    · subst same
      rw [List.getElem?_set_self (List.getElem?_eq_some_iff.mp found).1, found]
      constructor
      · intro isWritten
        rw [← Option.some.inj isWritten] at locked
        exact absurd (congrArg Prod.fst (Option.some.inj locked)).symm foreign
      · intro isRow
        rw [← Option.some.inj isRow] at locked
        exact absurd (lock_of_not_busy ready locked) foreign
    · rw [List.getElem?_set_ne (Ne.symm same)]
  · intro other right there
    refine ⟨_, slot_set_of_some there position _, ?_⟩
    split_ifs with same
    · subst same
      rw [Option.some.inj (there.symm.trans found)]
      exact keeps_write seen version
    · exact keeps_refl right

theorem insert_leaves_others (tx : Nat) (rows : List (Row Key Value)) (key : Key)
    (value : Value) : LeavesOthers tx rows (rows ++ [freshRow tx key value]) := by
  constructor
  · intro other right holder held locked foreign
    constructor
    · intro there
      rcases slot_of_append there with before | isFresh
      · exact before
      · rw [isFresh] at locked
        exact absurd (congrArg Prod.fst (Option.some.inj locked)).symm foreign
    · intro there
      exact slot_append_of_some there _
  · intro other right there
    exact ⟨right, slot_append_of_some there _, keeps_refl right⟩

theorem commit_of_held (held : row.lock = some (tx, version)) :
    row.commit tx = ⟨row.key, version, none⟩ := by
  simp [Row.commit, held]

theorem commit_of_free (free : ∀ version, row.lock ≠ some (tx, version)) :
    row.commit tx = row := by
  unfold Row.commit
  split
  next holder version held =>
    split_ifs with own
    · subst own
      exact absurd held (free version)
    · rfl
  next => rfl

theorem abort_of_held (held : row.lock = some (tx, version)) :
    row.abort tx = { row with lock := none } := by
  simp [Row.abort, held]

theorem abort_of_free (free : ∀ version, row.lock ≠ some (tx, version)) :
    row.abort tx = row := by
  unfold Row.abort
  split
  next holder version held =>
    split_ifs with own
    · subst own
      exact absurd held (free version)
    · rfl
  next => rfl

theorem keeps_commit (tx : Nat) (row : Row Key Value) : Keeps row (row.commit tx) := by
  by_cases held : ∃ version, row.lock = some (tx, version)
  · obtain ⟨version, held⟩ := held
    rw [commit_of_held held]
    refine ⟨rfl, fun _ _ => rfl, ?_⟩
    intro _ free
    rw [held] at free
    exact absurd free (by simp)
  · rw [commit_of_free fun version locked => held ⟨version, locked⟩]
    exact keeps_refl row

theorem keeps_abort (tx : Nat) (row : Row Key Value) : Keeps row (row.abort tx) := by
  by_cases held : ∃ version, row.lock = some (tx, version)
  · obtain ⟨version, held⟩ := held
    rw [abort_of_held held]
    exact ⟨rfl, fun _ _ => rfl, fun gone _ => gone⟩
  · rw [abort_of_free fun version locked => held ⟨version, locked⟩]
    exact keeps_refl row

theorem abort_committed (tx : Nat) (row : Row Key Value) :
    (row.abort tx).committed = row.committed := by
  unfold Row.abort
  split
  next => split_ifs <;> rfl
  next => rfl

theorem commit_lock {holder : Nat} (locked : (row.commit tx).lock = some (holder, version)) :
    holder ≠ tx ∧ row.commit tx = row := by
  by_cases held : ∃ kept, row.lock = some (tx, kept)
  · obtain ⟨kept, held⟩ := held
    rw [commit_of_held held] at locked
    simp at locked
  · have same : row.commit tx = row := commit_of_free fun kept own => held ⟨kept, own⟩
    refine ⟨?_, same⟩
    rintro rfl
    rw [same] at locked
    exact held ⟨version, locked⟩

theorem abort_lock {holder : Nat} (locked : (row.abort tx).lock = some (holder, version)) :
    holder ≠ tx ∧ row.abort tx = row := by
  by_cases held : ∃ kept, row.lock = some (tx, kept)
  · obtain ⟨kept, held⟩ := held
    rw [abort_of_held held] at locked
    simp at locked
  · have same : row.abort tx = row := abort_of_free fun kept own => held ⟨kept, own⟩
    refine ⟨?_, same⟩
    rintro rfl
    rw [same] at locked
    exact held ⟨version, locked⟩

theorem map_leaves_others {ending : Row Key Value → Row Key Value}
    (free : ∀ row : Row Key Value, (∀ version, row.lock ≠ some (tx, version)) → ending row = row)
    (ended : ∀ (row : Row Key Value) (holder : Nat) (version : Option Value),
      (ending row).lock = some (holder, version) → holder ≠ tx ∧ ending row = row)
    (keeps : ∀ row, Keeps row (ending row)) (rows : List (Row Key Value)) :
    LeavesOthers tx rows (rows.map ending) := by
  constructor
  · intro other right holder held locked foreign
    rw [List.getElem?_map]
    constructor
    · intro there
      obtain ⟨before, was, isRight⟩ := Option.map_eq_some_iff.mp there
      rw [← isRight] at locked
      rw [was, ← isRight, (ended before holder held locked).2]
    · intro there
      rw [there, Option.map_some, free right]
      intro version own
      rw [locked] at own
      exact foreign (congrArg Prod.fst (Option.some.inj own))
  · intro other right there
    exact ⟨ending right, by rw [List.getElem?_map, there]; rfl, keeps right⟩

theorem commit_leaves_others (tx : Nat) (rows : List (Row Key Value)) :
    LeavesOthers tx rows (rows.map (Row.commit tx)) :=
  map_leaves_others (fun _ => commit_of_free) (fun _ _ _ => commit_lock) (keeps_commit tx) rows

theorem abort_leaves_others (tx : Nat) (rows : List (Row Key Value)) :
    LeavesOthers tx rows (rows.map (Row.abort tx)) :=
  map_leaves_others (fun _ => abort_of_free) (fun _ _ _ => abort_lock) (keeps_abort tx) rows

theorem committed_at_write (found : rows[position]? = some row) (tx : Nat)
    (version : Option Value) (other : Nat) :
    committedAt (rows.set position (row.write tx version)) other = committedAt rows other := by
  unfold committedAt
  by_cases same : other = position
  · subst same
    rw [List.getElem?_set_self (List.getElem?_eq_some_iff.mp found).1, found]
    rfl
  · rw [List.getElem?_set_ne (Ne.symm same)]

theorem committed_at_insert (rows : List (Row Key Value)) (tx : Nat) (key : Key)
    (value : Value) (other : Nat) :
    committedAt (rows ++ [freshRow tx key value]) other = committedAt rows other := by
  unfold committedAt
  rw [List.getElem?_append]
  split_ifs with inside
  · rfl
  · rw [List.getElem?_eq_none (Nat.le_of_not_lt inside)]
    cases slot : [freshRow tx key value][other - rows.length]? with
    | none => rfl
    | some fresh =>
        rw [List.mem_singleton.mp (List.mem_of_getElem? slot)]
        rfl

theorem committed_at_abort (tx : Nat) (rows : List (Row Key Value)) (other : Nat) :
    committedAt (rows.map (Row.abort tx)) other = committedAt rows other := by
  unfold committedAt
  rw [List.getElem?_map]
  cases rows[other]? with
  | none => rfl
  | some row => simp [abort_committed, (keeps_abort tx row).key]

theorem committed_at_commit_held (found : rows[position]? = some row)
    (held : row.lock = some (tx, version)) :
    committedAt (rows.map (Row.commit tx)) position = version.map fun value => (row.key, value) := by
  simp [committedAt, List.getElem?_map, found, commit_of_held held]

theorem committed_at_commit_free (found : rows[position]? = some row)
    (free : ∀ version, row.lock ≠ some (tx, version)) :
    committedAt (rows.map (Row.commit tx)) position = committedAt rows position := by
  simp [committedAt, List.getElem?_map, found, commit_of_free free]

theorem committed_at_commit {found : Key × Value}
    (there : committedAt (rows.map (Row.commit tx)) position = some found) :
    ∃ row, rows[position]? = some row ∧ row.key = found.1 ∧
      (row.lock = some (tx, some found.2) ∨
        ((∀ version, row.lock ≠ some (tx, version)) ∧
          committedAt rows position = some found)) := by
  cases was : rows[position]? with
  | none => simp [committedAt, was] at there
  | some row =>
      by_cases held : ∃ version, row.lock = some (tx, version)
      · obtain ⟨version, held⟩ := held
        rw [committed_at_commit_held was held] at there
        obtain ⟨value, isValue, pair⟩ := Option.map_eq_some_iff.mp there
        subst isValue
        exact ⟨row, rfl, congrArg Prod.fst pair, Or.inl (by rw [held, ← pair])⟩
      · have free : ∀ version, row.lock ≠ some (tx, version) := fun version own =>
          held ⟨version, own⟩
        rw [committed_at_commit_free was free] at there
        have keyed : row.key = found.1 := by
          unfold committedAt at there
          rw [was] at there
          obtain ⟨_, _, pair⟩ := Option.map_eq_some_iff.mp there
          exact congrArg Prod.fst pair
        exact ⟨row, rfl, keyed, Or.inr ⟨free, there⟩⟩

theorem committed_at_some {key : Key} {value : Value}
    (there : committedAt rows position = some (key, value)) :
    ∃ row, rows[position]? = some row ∧ row.key = key ∧ row.committed = some value := by
  unfold committedAt at there
  obtain ⟨row, found, mapped⟩ := Option.bind_eq_some_iff.mp there
  obtain ⟨kept, isKept, pair⟩ := Option.map_eq_some_iff.mp mapped
  obtain ⟨rfl, rfl⟩ := Prod.mk.inj pair
  exact ⟨row, found, rfl, isKept⟩

theorem committed_at_of_row {value : Value} (found : rows[position]? = some row)
    (has : row.committed = some value) : committedAt rows position = some (row.key, value) := by
  simp [committedAt, found, has]

end Frame

section Index

variable (entry : Key → Value → Option Entry)

def Row.committedEntry (row : Row Key Value) : Option Entry :=
  row.committed.bind (entry row.key)

def Row.pendingEntry (row : Row Key Value) : Option Entry :=
  row.lock.bind fun lock => lock.2.bind (entry row.key)

inductive Verdict where
  | free
  | wait
  | violation
  deriving DecidableEq, Repr

variable [DecidableEq Entry]

/-- What one row says to an entry that a transaction wants. -/
def conflict (tx : Nat) (wanted : Entry) (row : Row Key Value) : Verdict :=
  match row.lock with
  | none => if row.committedEntry entry = some wanted then .violation else .free
  | some (holder, _) =>
      if holder = tx then
        if row.pendingEntry entry = some wanted then .violation else .free
      else if row.committedEntry entry = some wanted ∨ row.pendingEntry entry = some wanted then
        .wait
      else .free

/-- The check of the entry of the row at `own`, if it has one. -/
def indexCheck (tx own : Nat) (wanted : Option Entry) (rows : List (Row Key Value)) : Verdict :=
  match wanted with
  | none => .free
  | some wanted =>
      let verdicts := rows.mapIdx fun position row =>
        if position = own then .free else conflict entry tx wanted row
      if .violation ∈ verdicts then .violation
      else if .wait ∈ verdicts then .wait
      else .free

/-- No entry is taken twice, now or by what is being written: a version in writing may
only replace an entry that its own transaction gives up. -/
structure IndexSound (rows : List (Row Key Value)) : Prop where
  committedApart : ∀ (first second : Nat) (left right : Row Key Value) (wanted : Entry),
    rows[first]? = some left → rows[second]? = some right → first ≠ second →
      left.committedEntry entry = some wanted → right.committedEntry entry ≠ some wanted
  pendingApart : ∀ (first second : Nat) (left right : Row Key Value) (wanted : Entry),
    rows[first]? = some left → rows[second]? = some right → first ≠ second →
      left.pendingEntry entry = some wanted → right.pendingEntry entry ≠ some wanted
  pendingOver : ∀ (first second : Nat) (left right : Row Key Value) (tx : Nat)
    (version : Option Value) (wanted : Entry), rows[first]? = some left →
      rows[second]? = some right → first ≠ second → left.lock = some (tx, version) →
        left.pendingEntry entry = some wanted → right.committedEntry entry = some wanted →
          ∃ other, right.lock = some (tx, other)

variable {entry}

theorem conflict_free {tx : Nat} {wanted : Entry} {row : Row Key Value}
    (free : conflict entry tx wanted row = .free) :
    row.pendingEntry entry ≠ some wanted ∧
      (row.committedEntry entry = some wanted → ∃ version, row.lock = some (tx, version)) := by
  unfold conflict at free
  cases locked : row.lock with
  | none =>
      simp only [locked] at free
      split_ifs at free with taken
      exact ⟨by simp [Row.pendingEntry, locked], fun has => absurd has taken⟩
  | some lock =>
      obtain ⟨holder, version⟩ := lock
      simp only [locked] at free
      split_ifs at free with own taken taken
      · subst own
        exact ⟨taken, fun _ => ⟨version, rfl⟩⟩
      · exact ⟨fun has => taken (Or.inr has), fun has => absurd (Or.inl has) taken⟩

theorem index_check_free {tx own : Nat} {wanted : Entry} {rows : List (Row Key Value)}
    (free : indexCheck entry tx own (some wanted) rows = .free) {position : Nat}
    {row : Row Key Value} (found : rows[position]? = some row) (other : position ≠ own) :
    conflict entry tx wanted row = .free := by
  simp only [indexCheck] at free
  split_ifs at free with violated waits
  have listed : conflict entry tx wanted row ∈ rows.mapIdx fun position row =>
      if position = own then .free else conflict entry tx wanted row := by
    rw [List.mem_mapIdx]
    obtain ⟨inside, isRow⟩ := List.getElem?_eq_some_iff.mp found
    exact ⟨position, inside, by rw [if_neg other, isRow]⟩
  cases verdict : conflict entry tx wanted row with
  | free => rfl
  | wait => exact absurd (verdict ▸ listed) waits
  | violation => exact absurd (verdict ▸ listed) violated

variable {rows : List (Row Key Value)} {tx : Nat}

omit [DecidableEq Entry] in
/-- A write keeps the index where no other row has the entry, or is about to, unless the
writer itself has taken it away there. -/
theorem write_index_sound (sound : IndexSound entry rows) (tx : Nat) (version : Option Value)
    {position : Nat} {row : Row Key Value} (found : rows[position]? = some row)
    (ready : row.busy tx = false)
    (free : ∀ wanted, version.bind (entry row.key) = some wanted →
      ∀ (other : Nat) (right : Row Key Value), rows[other]? = some right → other ≠ position →
        right.pendingEntry entry ≠ some wanted ∧
          (right.committedEntry entry = some wanted → ∃ held, right.lock = some (tx, held))) :
    IndexSound entry (rows.set position (row.write tx version)) := by
  constructor
  · intro first second left right wanted inFirst inSecond apart has
    rcases slot_of_set inFirst with ⟨rfl, rfl⟩ | ⟨_, wasFirst⟩
    · rcases slot_of_set inSecond with ⟨rfl, _⟩ | ⟨_, wasSecond⟩
      · exact absurd rfl apart
      · exact sound.committedApart _ _ row right wanted found wasSecond apart has
    · rcases slot_of_set inSecond with ⟨rfl, rfl⟩ | ⟨_, wasSecond⟩
      · exact sound.committedApart _ _ left row wanted wasFirst found apart has
      · exact sound.committedApart _ _ left right wanted wasFirst wasSecond apart has
  · intro first second left right wanted inFirst inSecond apart has
    rcases slot_of_set inFirst with ⟨rfl, rfl⟩ | ⟨_, wasFirst⟩
    · rcases slot_of_set inSecond with ⟨rfl, _⟩ | ⟨elsewhere, wasSecond⟩
      · exact absurd rfl apart
      · exact (free wanted has second right wasSecond elsewhere).1
    · rcases slot_of_set inSecond with ⟨rfl, rfl⟩ | ⟨_, wasSecond⟩
      · intro hasToo
        exact (free wanted hasToo first left wasFirst apart).1 has
      · exact sound.pendingApart _ _ left right wanted wasFirst wasSecond apart has
  · intro first second left right writer held wanted inFirst inSecond apart locked pending has
    rcases slot_of_set inFirst with ⟨rfl, rfl⟩ | ⟨_, wasFirst⟩
    · have isWriter : tx = writer := congrArg Prod.fst (Option.some.inj locked)
      subst isWriter
      rcases slot_of_set inSecond with ⟨rfl, _⟩ | ⟨elsewhere, wasSecond⟩
      · exact absurd rfl apart
      · exact (free wanted pending second right wasSecond elsewhere).2 has
    · rcases slot_of_set inSecond with ⟨rfl, rfl⟩ | ⟨_, wasSecond⟩
      · obtain ⟨other, lockedToo⟩ :=
          sound.pendingOver _ _ left row writer held wanted wasFirst found apart locked pending has
        have isWriter : writer = tx := lock_of_not_busy ready lockedToo
        subst isWriter
        exact ⟨version, rfl⟩
      · exact sound.pendingOver _ _ left right writer held wanted wasFirst wasSecond apart
          locked pending has

omit [DecidableEq Entry] in
theorem place_index_sound (sound : IndexSound entry rows) (key : Key) :
    IndexSound entry (rows ++ [⟨key, none, none⟩]) := by
  constructor
  · intro first second left right wanted inFirst inSecond apart has hasToo
    rcases slot_of_append inFirst with wasFirst | rfl
    · rcases slot_of_append inSecond with wasSecond | rfl
      · exact sound.committedApart _ _ left right wanted wasFirst wasSecond apart has hasToo
      · simp [Row.committedEntry] at hasToo
    · simp [Row.committedEntry] at has
  · intro first second left right wanted inFirst inSecond apart has hasToo
    rcases slot_of_append inFirst with wasFirst | rfl
    · rcases slot_of_append inSecond with wasSecond | rfl
      · exact sound.pendingApart _ _ left right wanted wasFirst wasSecond apart has hasToo
      · simp [Row.pendingEntry] at hasToo
    · simp [Row.pendingEntry] at has
  · intro first second left right writer held wanted inFirst inSecond apart locked pending has
    rcases slot_of_append inFirst with wasFirst | rfl
    · rcases slot_of_append inSecond with wasSecond | rfl
      · exact sound.pendingOver _ _ left right writer held wanted wasFirst wasSecond apart
          locked pending has
      · simp [Row.committedEntry] at has
    · simp at locked

omit [DecidableEq Entry] in
theorem insert_index_sound (sound : IndexSound entry rows) {key : Key} {value : Value}
    (free : ∀ wanted, entry key value = some wanted →
      ∀ (other : Nat) (right : Row Key Value), rows[other]? = some right →
        right.pendingEntry entry ≠ some wanted ∧
          (right.committedEntry entry = some wanted → ∃ held, right.lock = some (tx, held))) :
    IndexSound entry (rows ++ [freshRow tx key value]) := by
  have placed : (rows ++ [(⟨key, none, none⟩ : Row Key Value)])[rows.length]? =
      some ⟨key, none, none⟩ := List.getElem?_concat_length
  have written := write_index_sound (place_index_sound sound key) tx (some value) placed rfl
    fun wanted has other right there apart => by
      rcases slot_of_append there with before | isPlace
      · exact free wanted has other right before
      · subst isPlace
        exact ⟨by simp [Row.pendingEntry], by simp [Row.committedEntry]⟩
  rw [List.set_append_right _ _ (Nat.le_refl _), Nat.sub_self] at written
  exact written

omit [DecidableEq Entry] in
theorem commit_entry {row : Row Key Value} {wanted : Entry}
    (has : (row.commit tx).committedEntry entry = some wanted) :
    (∃ version, row.lock = some (tx, version) ∧ row.pendingEntry entry = some wanted) ∨
      ((∀ version, row.lock ≠ some (tx, version)) ∧
        row.committedEntry entry = some wanted) := by
  by_cases held : ∃ version, row.lock = some (tx, version)
  · obtain ⟨version, held⟩ := held
    rw [commit_of_held held] at has
    exact Or.inl ⟨version, held, by simpa [Row.pendingEntry, Row.committedEntry, held] using has⟩
  · have free : ∀ version, row.lock ≠ some (tx, version) := fun version own =>
      held ⟨version, own⟩
    rw [commit_of_free free] at has
    exact Or.inr ⟨free, has⟩

omit [DecidableEq Entry] in
theorem pending_locked {row : Row Key Value} {wanted : Entry}
    (has : row.pendingEntry entry = some wanted) :
    ∃ holder version, row.lock = some (holder, version) := by
  unfold Row.pendingEntry at has
  obtain ⟨lock, locked, _⟩ := Option.bind_eq_some_iff.mp has
  exact ⟨lock.1, lock.2, locked⟩

omit [DecidableEq Entry] in
theorem commit_index_sound (sound : IndexSound entry rows) (tx : Nat) :
    IndexSound entry (rows.map (Row.commit tx)) := by
  constructor
  · intro first second left right wanted inFirst inSecond apart has hasToo
    rw [List.getElem?_map] at inFirst inSecond
    obtain ⟨left, wasFirst, rfl⟩ := Option.map_eq_some_iff.mp inFirst
    obtain ⟨right, wasSecond, rfl⟩ := Option.map_eq_some_iff.mp inSecond
    rcases commit_entry has with ⟨version, held, pending⟩ | ⟨free, before⟩
    · rcases commit_entry hasToo with ⟨_, _, pendingToo⟩ | ⟨freeToo, beforeToo⟩
      · exact sound.pendingApart _ _ left right wanted wasFirst wasSecond apart pending pendingToo
      · obtain ⟨other, own⟩ := sound.pendingOver _ _ left right tx version wanted wasFirst
          wasSecond apart held pending beforeToo
        exact freeToo other own
    · rcases commit_entry hasToo with ⟨version, held, pendingToo⟩ | ⟨_, beforeToo⟩
      · obtain ⟨other, own⟩ := sound.pendingOver _ _ right left tx version wanted wasSecond
          wasFirst (Ne.symm apart) held pendingToo before
        exact free other own
      · exact sound.committedApart _ _ left right wanted wasFirst wasSecond apart before beforeToo
  · intro first second left right wanted inFirst inSecond apart has hasToo
    rw [List.getElem?_map] at inFirst inSecond
    obtain ⟨left, wasFirst, rfl⟩ := Option.map_eq_some_iff.mp inFirst
    obtain ⟨right, wasSecond, rfl⟩ := Option.map_eq_some_iff.mp inSecond
    obtain ⟨_, _, locked⟩ := pending_locked has
    obtain ⟨_, _, lockedToo⟩ := pending_locked hasToo
    rw [(commit_lock locked).2] at has
    rw [(commit_lock lockedToo).2] at hasToo
    exact sound.pendingApart _ _ left right wanted wasFirst wasSecond apart has hasToo
  · intro first second left right writer version wanted inFirst inSecond apart locked pending has
    rw [List.getElem?_map] at inFirst inSecond
    obtain ⟨left, wasFirst, rfl⟩ := Option.map_eq_some_iff.mp inFirst
    obtain ⟨right, wasSecond, rfl⟩ := Option.map_eq_some_iff.mp inSecond
    obtain ⟨foreign, same⟩ := commit_lock locked
    rw [same] at locked pending
    rcases commit_entry has with ⟨_, _, pendingToo⟩ | ⟨free, before⟩
    · exact absurd pendingToo (sound.pendingApart _ _ left right wanted wasFirst wasSecond apart
        pending)
    · rw [commit_of_free free]
      exact sound.pendingOver _ _ left right writer version wanted wasFirst wasSecond apart
        locked pending before

omit [DecidableEq Entry] in
theorem abort_index_sound (sound : IndexSound entry rows) (tx : Nat) :
    IndexSound entry (rows.map (Row.abort tx)) := by
  have keeps : ∀ row : Row Key Value,
      (row.abort tx).committedEntry entry = row.committedEntry entry := fun row => by
    simp [Row.committedEntry, abort_committed, (keeps_abort tx row).key]
  constructor
  · intro first second left right wanted inFirst inSecond apart has
    rw [List.getElem?_map] at inFirst inSecond
    obtain ⟨left, wasFirst, rfl⟩ := Option.map_eq_some_iff.mp inFirst
    obtain ⟨right, wasSecond, rfl⟩ := Option.map_eq_some_iff.mp inSecond
    rw [keeps] at has ⊢
    exact sound.committedApart _ _ left right wanted wasFirst wasSecond apart has
  · intro first second left right wanted inFirst inSecond apart has hasToo
    rw [List.getElem?_map] at inFirst inSecond
    obtain ⟨left, wasFirst, rfl⟩ := Option.map_eq_some_iff.mp inFirst
    obtain ⟨right, wasSecond, rfl⟩ := Option.map_eq_some_iff.mp inSecond
    obtain ⟨_, _, locked⟩ := pending_locked has
    obtain ⟨_, _, lockedToo⟩ := pending_locked hasToo
    rw [(abort_lock locked).2] at has
    rw [(abort_lock lockedToo).2] at hasToo
    exact sound.pendingApart _ _ left right wanted wasFirst wasSecond apart has hasToo
  · intro first second left right writer version wanted inFirst inSecond apart locked pending has
    rw [List.getElem?_map] at inFirst inSecond
    obtain ⟨left, wasFirst, rfl⟩ := Option.map_eq_some_iff.mp inFirst
    obtain ⟨right, wasSecond, rfl⟩ := Option.map_eq_some_iff.mp inSecond
    obtain ⟨foreign, same⟩ := abort_lock locked
    rw [same] at locked pending
    rw [keeps] at has
    obtain ⟨other, heldToo⟩ := sound.pendingOver _ _ left right writer version wanted wasFirst
      wasSecond apart locked pending has
    refine ⟨other, ?_⟩
    rw [abort_of_free]
    · exact heldToo
    · intro kept own
      rw [heldToo] at own
      exact foreign (congrArg Prod.fst (Option.some.inj own))

omit [DecidableEq Entry] in
theorem committed_place_unique (sound : IndexSound entry rows) {first second : Nat}
    {left right : Key × Value} {wanted : Entry} (inFirst : committedAt rows first = some left)
    (inSecond : committedAt rows second = some right) (has : entry left.1 left.2 = some wanted)
    (hasToo : entry right.1 right.2 = some wanted) : first = second := by
  obtain ⟨row, found, isKey, isValue⟩ := committed_at_some inFirst
  obtain ⟨other, foundToo, isKeyToo, isValueToo⟩ := committed_at_some inSecond
  by_contra apart
  refine sound.committedApart _ _ row other wanted found foundToo apart ?_ ?_
  · simpa [Row.committedEntry, isKey, isValue] using has
  · simpa [Row.committedEntry, isKeyToo, isValueToo] using hasToo

end Index

end LightbridgeAuthz.Library.RowVersions
