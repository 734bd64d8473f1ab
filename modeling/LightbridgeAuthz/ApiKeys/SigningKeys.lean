import LightbridgeAuthz.Library.CallSlots
import LightbridgeAuthz.Library.ChronoTime
import LightbridgeAuthz.Library.EventRun
import LightbridgeAuthz.Library.KeyedRows
import Mathlib.Data.List.Nodup
import Mathlib.Data.List.Perm.Basic
import Mathlib.Order.Basic

/-!
# Signing keys

Every service calls `bootstrap_signing_key` at its start. The call reads the
clock, then takes an advisory lock, and only then reads the active key and
replaces it. Clock readings are in nanoseconds; a stored instant has lost
everything below a microsecond. A token is signed with the key that is active in
the committed table.
-/

namespace LightbridgeAuthz.ApiKeys.SigningKeys

open Library.EventRun Library.CallSlots Library.ChronoTime Library.KeyedRows

set_option autoImplicit false

inductive KeyStatus where
  | active
  | stale
  deriving DecidableEq, Repr

structure PublicJwk where
  kty : String
  use : String
  alg : String
  kid : String
  n : String
  e : String
  deriving DecidableEq, Repr

structure SigningKeyRow where
  kid : String
  algorithm : String
  privateKeyPem : String
  publicJwk : PublicJwk
  status : KeyStatus
  createdAt : Int
  retiredAt : Option Int
  deriving DecidableEq, Repr

structure GeneratedKey where
  kid : String
  privateKeyPem : String
  n : String
  e : String
  deriving DecidableEq, Repr

def GeneratedKey.publicJwk (key : GeneratedKey) : PublicJwk where
  kty := "RSA"
  use := "sig"
  alg := "RS256"
  kid := key.kid
  n := key.n
  e := key.e

structure NewSigningKey where
  kid : String
  algorithm : String
  privateKeyPem : String
  publicJwk : PublicJwk
  createdAt : Int
  deriving DecidableEq, Repr

def GeneratedKey.intoCandidate (key : GeneratedKey) (createdAt : Int) : NewSigningKey where
  kid := key.kid
  algorithm := "RS256"
  privateKeyPem := key.privateKeyPem
  publicJwk := key.publicJwk
  createdAt := createdAt

def dayNanos : Int := 86400000000000

/-- `now - Duration::days(max_key_age_days.max(1))`; `none` is a panic. -/
def rotationCutoff (now maxKeyAgeDays : Int) : Option Int :=
  (durationDays (max maxKeyAgeDays 1)).bind fun age =>
    if minUtc * 1000 ≤ now - age * 1000 then some (now - age * 1000) else none

/-- The first instant of the year 2000, from which a `timestamptz` counts. -/
def postgresEpoch : Int := 946684800000000000

/-- A clock reading as it comes back from a `timestamptz` column. -/
def storedInstant (reading : Int) : Int :=
  postgresEpoch + (reading - postgresEpoch).tdiv 1000 * 1000

def NewSigningKey.row (candidate : NewSigningKey) : SigningKeyRow where
  kid := candidate.kid
  algorithm := candidate.algorithm
  privateKeyPem := candidate.privateKeyPem
  publicJwk := candidate.publicJwk
  status := .active
  createdAt := storedInstant candidate.createdAt
  retiredAt := none

def SigningKeyRow.isActive (row : SigningKeyRow) : Bool :=
  row.status == .active

/-- `SELECT … WHERE status = 'active' LIMIT 1`. -/
def activeKey (table : List SigningKeyRow) : Option SigningKeyRow :=
  table.find? SigningKeyRow.isActive

/-- `ORDER BY status = 'active' DESC, created_at DESC`. -/
def listedBefore (left right : SigningKeyRow) : Bool :=
  if left.isActive == right.isActive then decide (right.createdAt ≤ left.createdAt)
  else left.isActive

def listVerificationJwks (table : List SigningKeyRow) : List PublicJwk :=
  (table.mergeSort listedBefore).map SigningKeyRow.publicJwk

/-- The key a verifier picks for a token's `kid`. -/
def jwkByKid (jwks : List PublicJwk) (kid : String) : Option PublicJwk :=
  findKey (fun jwk => some jwk.kid) jwks kid

/-- `SET status = 'stale', retired_at = $2 WHERE kid = $1`. -/
def retire (kid : String) (retiredAt : Int) (row : SigningKeyRow) : SigningKeyRow :=
  if row.kid = kid then { row with status := .stale, retiredAt := some retiredAt } else row

/-- What a transaction has written and not yet committed. -/
structure TxWrites where
  retired : Option (String × Int)
  inserted : Option SigningKeyRow
  deriving DecidableEq, Repr

def TxWrites.none : TxWrites := ⟨Option.none, Option.none⟩

def retiredTable (retired : Option (String × Int)) (table : List SigningKeyRow) :
    List SigningKeyRow :=
  match retired with
  | .none => table
  | some (kid, retiredAt) => table.map (retire kid retiredAt)

/-- The table as the transaction itself sees it, and as its commit leaves it. -/
def TxWrites.apply (writes : TxWrites) (table : List SigningKeyRow) : List SigningKeyRow :=
  retiredTable writes.retired table ++ writes.inserted.toList

/-- Where a call stands. From `readActive` to its end it holds the advisory lock. -/
inductive BootstrapPoint where
  | lock (candidate : NewSigningKey) (cutoff : Int)
  | readActive (candidate : NewSigningKey) (cutoff : Int)
  | updateStale (candidate : NewSigningKey) (current : SigningKeyRow)
  | insertActive (candidate : NewSigningKey) (writes : TxWrites)
  | commit (result : SigningKeyRow) (writes : TxWrites)
  | returned (result : SigningKeyRow)
  | failed
  deriving DecidableEq, Repr

/-- `signed` logs the key of every token; no statement reads it. -/
structure SigningWorld where
  table : List SigningKeyRow
  lockHolder : Option Nat
  calls : List BootstrapPoint
  signed : List SigningKeyRow
  deriving DecidableEq, Repr

inductive BootstrapEvent where
  | arrive (now maxKeyAgeDays : Int) (generated : Option GeneratedKey)
  | advance (slot : Nat)
  | abort (slot : Nat)
  | sign
  deriving DecidableEq, Repr

/-- The part of `bootstrap_signing_key` before the transaction. -/
def bootstrapSigningKey (now maxKeyAgeDays : Int) (generated : Option GeneratedKey) :
    BootstrapPoint :=
  match rotationCutoff now maxKeyAgeDays, generated with
  | some cutoff, some key => .lock (key.intoCandidate now) cutoff
  | _, _ => .failed

def needsRotation (active : Option SigningKeyRow) (cutoff : Int) : Bool :=
  match active with
  | none => true
  | some current => decide (current.createdAt ≤ cutoff)

def afterRead (candidate : NewSigningKey) (cutoff : Int) (active : Option SigningKeyRow) :
    BootstrapPoint :=
  match active with
  | none => .insertActive candidate .none
  | some current =>
      if needsRotation (some current) cutoff then .updateStale candidate current
      else .commit current .none

/-- The primary key and the partial unique index on the active status. -/
def insertAllowed (view : List SigningKeyRow) (candidate : NewSigningKey) : Bool :=
  !(view.any fun row => row.kid == candidate.kid) && !(view.any SigningKeyRow.isActive)

def SigningWorld.moveTo (world : SigningWorld) (slot : Nat) (point : BootstrapPoint) :
    SigningWorld :=
  { world with calls := world.calls.set slot point }

def SigningWorld.finish (world : SigningWorld) (slot : Nat) (point : BootstrapPoint) :
    SigningWorld :=
  { world with lockHolder := none, calls := world.calls.set slot point }

/-- One statement of `ensure_active_signing_key`. A statement that fails aborts the
transaction, which gives the lock back. -/
def advance (world : SigningWorld) (slot : Nat) : BootstrapPoint → Option SigningWorld
  | .lock candidate cutoff =>
      match world.lockHolder with
      | some _ => none
      | none => some { world.moveTo slot (.readActive candidate cutoff) with lockHolder := slot }
  | .readActive candidate cutoff =>
      some (world.moveTo slot (afterRead candidate cutoff (activeKey world.table)))
  | .updateStale candidate current =>
      some (world.moveTo slot
        (.insertActive candidate ⟨some (current.kid, storedInstant candidate.createdAt), none⟩))
  | .insertActive candidate writes =>
      if insertAllowed (writes.apply world.table) candidate then
        some (world.moveTo slot
          (.commit candidate.row { writes with inserted := some candidate.row }))
      else some (world.finish slot .failed)
  | .commit result writes =>
      some { world.finish slot (.returned result) with table := writes.apply world.table }
  | .returned _ => none
  | .failed => none

def BootstrapPoint.inTransaction : BootstrapPoint → Bool
  | .readActive .. | .updateStale .. | .insertActive .. | .commit .. => true
  | _ => false

def abort (world : SigningWorld) (slot : Nat) : BootstrapPoint → Option SigningWorld
  | .returned _ => none
  | .failed => none
  | point =>
      if point.inTransaction then some (world.finish slot .failed)
      else some (world.moveTo slot .failed)

/-- `ApiKeyJwtSigner::token_manager`: the key that is active in the committed table. -/
def tokenManager (world : SigningWorld) : Option SigningKeyRow :=
  activeKey world.table

def bootstrapStep (world : SigningWorld) : BootstrapEvent → Option SigningWorld
  | .arrive now maxKeyAgeDays generated =>
      some { world with
        calls := world.calls ++ [bootstrapSigningKey now maxKeyAgeDays generated] }
  | .advance slot => world.calls[slot]?.bind (advance world slot)
  | .abort slot => world.calls[slot]?.bind (abort world slot)
  | .sign => (tokenManager world).map fun key => { world with signed := world.signed ++ [key] }

def SigningWorld.start (table : List SigningKeyRow) : SigningWorld :=
  ⟨table, none, [], []⟩

def SameKey (kept key : SigningKeyRow) : Prop :=
  kept.kid = key.kid ∧ kept.privateKeyPem = key.privateKeyPem ∧ kept.publicJwk = key.publicJwk

def Keeps (table later : List SigningKeyRow) : Prop :=
  ∀ row ∈ table, ∃ kept ∈ later, SameKey kept row

structure TableSound (table : List SigningKeyRow) : Prop where
  unique : (table.map SigningKeyRow.kid).Nodup
  staleIff : ∀ row ∈ table, row.status = .stale ↔ row.retiredAt.isSome
  jwkKid : ∀ row ∈ table, row.publicJwk.kid = row.kid
  oneActive : table.countP SigningKeyRow.isActive ≤ 1

theorem keeps_refl (table : List SigningKeyRow) : Keeps table table :=
  fun row member => ⟨row, member, rfl, rfl, rfl⟩

theorem Keeps.trans {table middle later : List SigningKeyRow} (first : Keeps table middle)
    (second : Keeps middle later) : Keeps table later := by
  intro row member
  obtain ⟨kept, keptMember, sameKid, samePem, sameJwk⟩ := first row member
  obtain ⟨last, lastMember, lastKid, lastPem, lastJwk⟩ := second kept keptMember
  exact ⟨last, lastMember, lastKid.trans sameKid, lastPem.trans samePem, lastJwk.trans sameJwk⟩

theorem retire_same_key (kid : String) (retiredAt : Int) (row : SigningKeyRow) :
    SameKey (retire kid retiredAt row) row := by
  unfold retire
  split <;> exact ⟨rfl, rfl, rfl⟩

theorem retired_table_eq_map (retired : Option (String × Int)) (table : List SigningKeyRow) :
    ∃ change : SigningKeyRow → SigningKeyRow, retiredTable retired table = table.map change ∧
      ∀ row, SameKey (change row) row ∧
        ((row.status = .stale ↔ row.retiredAt.isSome) →
          ((change row).status = .stale ↔ (change row).retiredAt.isSome)) := by
  cases retired with
  | none => exact ⟨id, (List.map_id table).symm, fun row => ⟨⟨rfl, rfl, rfl⟩, id⟩⟩
  | some update =>
      obtain ⟨kid, retiredAt⟩ := update
      refine ⟨retire kid retiredAt, rfl, fun row => ⟨retire_same_key kid retiredAt row, ?_⟩⟩
      intro sound
      unfold retire
      split
      · simp
      · exact sound

theorem applied_kids (writes : TxWrites) (table : List SigningKeyRow) :
    (writes.apply table).map SigningKeyRow.kid =
      table.map SigningKeyRow.kid ++ writes.inserted.toList.map SigningKeyRow.kid := by
  obtain ⟨change, isMap, keeps⟩ := retired_table_eq_map writes.retired table
  have sameKids : (table.map change).map SigningKeyRow.kid = table.map SigningKeyRow.kid := by
    rw [List.map_map]
    exact List.map_congr_left fun row _ => (keeps row).1.1
  rw [TxWrites.apply, isMap, List.map_append, sameKids]

theorem applied_keeps (writes : TxWrites) (table : List SigningKeyRow) :
    Keeps table (writes.apply table) := by
  obtain ⟨change, isMap, keeps⟩ := retired_table_eq_map writes.retired table
  intro row member
  refine ⟨change row, ?_, (keeps row).1⟩
  rw [TxWrites.apply, isMap]
  exact List.mem_append_left _ (List.mem_map_of_mem member)

theorem insert_allowed_iff (view : List SigningKeyRow) (candidate : NewSigningKey) :
    insertAllowed view candidate = true ↔
      candidate.kid ∉ view.map SigningKeyRow.kid ∧ view.countP SigningKeyRow.isActive = 0 := by
  simp only [insertAllowed, Bool.and_eq_true, Bool.not_eq_true', List.any_eq_false, beq_iff_eq,
    List.mem_map, not_exists, not_and, List.countP_eq_zero]

theorem inserted_sound {table : List SigningKeyRow} (sound : TableSound table)
    {candidate : NewSigningKey} (jwkKid : candidate.publicJwk.kid = candidate.kid)
    {retired : Option (String × Int)}
    (allowed : insertAllowed (retiredTable retired table) candidate = true) :
    TableSound ((TxWrites.mk retired (some candidate.row)).apply table) ∧
      ((TxWrites.mk retired (some candidate.row)).apply table).countP SigningKeyRow.isActive =
        1 := by
  obtain ⟨fresh, noActive⟩ := (insert_allowed_iff _ _).mp allowed
  have kids := applied_kids (TxWrites.mk retired (some candidate.row)) table
  have retiredKids := applied_kids (TxWrites.mk retired none) table
  simp only [TxWrites.apply, Option.toList_none, List.map_nil, List.append_nil] at retiredKids
  rw [retiredKids] at fresh
  obtain ⟨change, isMap, keeps⟩ := retired_table_eq_map retired table
  have count : ((TxWrites.mk retired (some candidate.row)).apply table).countP
      SigningKeyRow.isActive = 1 := by
    simp only [TxWrites.apply, List.countP_append, noActive]
    rfl
  refine ⟨⟨?_, ?_, ?_, Nat.le_of_eq count⟩, count⟩
  · rw [kids, List.nodup_append]
    refine ⟨sound.unique, List.nodup_singleton _, ?_⟩
    intro kid member other inserted same
    have isNew : other = candidate.kid := by
      simpa [NewSigningKey.row] using inserted
    exact fresh (isNew ▸ same ▸ member)
  · intro row member
    simp only [TxWrites.apply, isMap, List.mem_append, List.mem_map, Option.mem_toList,
      Option.some.injEq] at member
    rcases member with ⟨old, oldMember, rfl⟩ | rfl
    · exact (keeps old).2 (sound.staleIff old oldMember)
    · simp [NewSigningKey.row]
  · intro row member
    simp only [TxWrites.apply, isMap, List.mem_append, List.mem_map, Option.mem_toList,
      Option.some.injEq] at member
    rcases member with ⟨old, oldMember, rfl⟩ | rfl
    · obtain ⟨sameKid, _, sameJwk⟩ := (keeps old).1
      rw [sameJwk, sameKid]
      exact sound.jwkKid old oldMember
    · exact jwkKid

/-- What the rotation of a call rests on, in the table it has read: no key was
active, or the active one was at least a day older than the call's clock reading. -/
def Rotates (table : List SigningKeyRow) (reading : Int) (retired : Option (String × Int)) :
    Prop :=
  (retired = none ∧ ∀ row ∈ table, row.isActive = false) ∨
    ∃ current ∈ table, current.isActive = true ∧
      retired = some (current.kid, storedInstant reading) ∧
      current.createdAt + dayNanos ≤ reading

/-- What a call at each point knows of the committed table. `Read` holds of the clock
readings of the run. -/
def PointSound (Read : Int → Prop) (table : List SigningKeyRow) : BootstrapPoint → Prop
  | .lock candidate cutoff | .readActive candidate cutoff =>
      Read candidate.createdAt ∧ candidate.publicJwk.kid = candidate.kid ∧
        cutoff + dayNanos ≤ candidate.createdAt
  | .updateStale candidate current =>
      Read candidate.createdAt ∧ candidate.publicJwk.kid = candidate.kid ∧ current ∈ table ∧
        current.isActive = true ∧ current.createdAt + dayNanos ≤ candidate.createdAt
  | .insertActive candidate writes =>
      Read candidate.createdAt ∧ candidate.publicJwk.kid = candidate.kid ∧
        writes.inserted = none ∧ Rotates table candidate.createdAt writes.retired
  | .commit result writes =>
      (writes = .none ∧ result ∈ table ∧ result.isActive = true) ∨
        ∃ candidate retired, Read candidate.createdAt ∧
          candidate.publicJwk.kid = candidate.kid ∧ result = candidate.row ∧
          writes = ⟨retired, some candidate.row⟩ ∧ Rotates table candidate.createdAt retired ∧
          insertAllowed (retiredTable retired table) candidate = true
  | .returned _ => True
  | .failed => True

structure WorldSound (Read : Int → Prop) (world : SigningWorld) : Prop where
  table : TableSound world.table
  points : ∀ (slot : Nat) (point : BootstrapPoint), world.calls[slot]? = some point →
    PointSound Read world.table point
  holder : ∀ (slot : Nat) (point : BootstrapPoint), world.calls[slot]? = some point →
    point.inTransaction = true → world.lockHolder = some slot
  success : ∀ (slot : Nat) (result : SigningKeyRow),
    world.calls[slot]? = some (.returned result) →
      world.table.countP SigningKeyRow.isActive = 1
  signed : ∀ key ∈ world.signed, ∃ kept ∈ world.table, SameKey kept key

theorem start_sound (Read : Int → Prop) {table : List SigningKeyRow} (sound : TableSound table) :
    WorldSound Read (SigningWorld.start table) where
  table := sound
  points := by simp [SigningWorld.start]
  holder := by simp [SigningWorld.start]
  success := by simp [SigningWorld.start]
  signed := by simp [SigningWorld.start]

theorem point_sound_outside {Read : Int → Prop} {table : List SigningKeyRow}
    {point : BootstrapPoint} (outside : point.inTransaction = false)
    (sound : PointSound Read table point) (later : List SigningKeyRow) :
    PointSound Read later point := by
  cases point with
  | lock candidate cutoff => exact sound
  | returned result => trivial
  | failed => trivial
  | readActive candidate cutoff => cases outside
  | updateStale candidate current => cases outside
  | insertActive candidate writes => cases outside
  | commit result writes => cases outside

theorem moved_sound {Read : Int → Prop} {world next : SigningWorld} {slot : Nat}
    {old point : BootstrapPoint} (sound : WorldSound Read world)
    (was : world.calls[slot]? = some old) (calls : next.calls = world.calls.set slot point)
    (log : next.signed = world.signed) (table : TableSound next.table)
    (keeps : Keeps world.table next.table)
    (locked : next.table = world.table ∨ world.lockHolder = some slot)
    (pointSound : PointSound Read next.table point)
    (own : point.inTransaction = true → next.lockHolder = some slot)
    (others : ∀ other, other ≠ slot → world.lockHolder = some other →
      next.lockHolder = some other)
    (active : (∃ result, point = .returned result) ∨
        world.table.countP SigningKeyRow.isActive = 1 →
      next.table.countP SigningKeyRow.isActive = 1) : WorldSound Read next where
  table := table
  points := by
    intro other found there
    rw [calls] at there
    rcases slot_of_set there with ⟨_, rfl⟩ | ⟨apart, there⟩
    · exact pointSound
    · have before := sound.points other found there
      rcases locked with same | held
      · rw [same]
        exact before
      · have outside : found.inTransaction = false := by
          by_contra inside
          have holds := sound.holder other found there (by simpa using inside)
          rw [held] at holds
          exact apart (Option.some.inj holds).symm
        exact point_sound_outside outside before _
  holder := by
    intro other found there inside
    rw [calls] at there
    rcases slot_of_set there with ⟨rfl, rfl⟩ | ⟨apart, there⟩
    · exact own inside
    · exact others other apart (sound.holder other found there inside)
  success := by
    intro other result there
    rw [calls] at there
    rcases slot_of_set there with ⟨_, isPoint⟩ | ⟨_, there⟩
    · exact active (.inl ⟨result, isPoint.symm⟩)
    · exact active (.inr (sound.success other result there))
  signed := by
    rw [log]
    intro key member
    obtain ⟨kept, keptMember, same⟩ := sound.signed key member
    obtain ⟨last, lastMember, lastSame⟩ := keeps kept keptMember
    exact ⟨last, lastMember, lastSame.1.trans same.1, lastSame.2.1.trans same.2.1,
      lastSame.2.2.trans same.2.2⟩

theorem rotation_cutoff_some {now maxKeyAgeDays cutoff : Int}
    (computed : rotationCutoff now maxKeyAgeDays = some cutoff) : cutoff + dayNanos ≤ now := by
  simp only [rotationCutoff, durationDays, durationSeconds] at computed
  split at computed
  · simp only [Option.bind_some, Option.ite_none_right_eq_some, Option.some.injEq] at computed
    have atLeastOne : 1 ≤ max maxKeyAgeDays 1 := Int.le_max_right _ _
    unfold dayNanos
    omega
  · cases computed

theorem arrival_sound {Read : Int → Prop} {now : Int} (read : Read now) (maxKeyAgeDays : Int)
    (generated : Option GeneratedKey) (table : List SigningKeyRow) :
    PointSound Read table (bootstrapSigningKey now maxKeyAgeDays generated) ∧
      (bootstrapSigningKey now maxKeyAgeDays generated).inTransaction = false ∧
      ∀ result, bootstrapSigningKey now maxKeyAgeDays generated ≠ .returned result := by
  unfold bootstrapSigningKey
  cases computed : rotationCutoff now maxKeyAgeDays with
  | none => exact ⟨trivial, rfl, fun _ => BootstrapPoint.noConfusion⟩
  | some cutoff =>
      cases generated with
      | none => exact ⟨trivial, rfl, fun _ => BootstrapPoint.noConfusion⟩
      | some key =>
          exact ⟨⟨read, rfl, rotation_cutoff_some computed⟩, rfl,
            fun _ => BootstrapPoint.noConfusion⟩

theorem active_key_some {table : List SigningKeyRow} {current : SigningKeyRow}
    (found : activeKey table = some current) : current ∈ table ∧ current.isActive = true :=
  ⟨List.mem_of_find?_eq_some found, List.find?_some found⟩

theorem after_read_sound {Read : Int → Prop} {table : List SigningKeyRow}
    {candidate : NewSigningKey} {cutoff : Int}
    (sound : PointSound Read table (.readActive candidate cutoff)) :
    PointSound Read table (afterRead candidate cutoff (activeKey table)) := by
  obtain ⟨read, jwkKid, aDay⟩ := sound
  cases found : activeKey table with
  | none =>
      refine ⟨read, jwkKid, rfl, .inl ⟨rfl, ?_⟩⟩
      intro row member
      simpa using List.find?_eq_none.mp found row member
  | some current =>
      obtain ⟨member, isActive⟩ := active_key_some found
      simp only [afterRead, needsRotation, decide_eq_true_eq]
      split
      case isTrue due => exact ⟨read, jwkKid, member, isActive, by omega⟩
      case isFalse fresh => exact .inl ⟨rfl, member, isActive⟩

theorem commit_sound {Read : Int → Prop} {table : List SigningKeyRow} (sound : TableSound table)
    {result : SigningKeyRow} {writes : TxWrites}
    (point : PointSound Read table (.commit result writes)) :
    TableSound (writes.apply table) ∧
      (writes.apply table).countP SigningKeyRow.isActive = 1 := by
  rcases point with ⟨rfl, member, isActive⟩ | ⟨candidate, retired, _, jwkKid, _, rfl, _, allowed⟩
  · have unchanged : TxWrites.none.apply table = table := List.append_nil table
    have positive : 0 < table.countP SigningKeyRow.isActive :=
      List.countP_pos_iff.mpr ⟨result, member, isActive⟩
    have atMost := sound.oneActive
    rw [unchanged]
    exact ⟨sound, by omega⟩
  · exact inserted_sound sound jwkKid allowed

theorem stayed_sound {Read : Int → Prop} {world next : SigningWorld} {slot : Nat}
    {old point : BootstrapPoint} (sound : WorldSound Read world)
    (was : world.calls[slot]? = some old) (calls : next.calls = world.calls.set slot point)
    (log : next.signed = world.signed) (table : next.table = world.table)
    (pointSound : PointSound Read world.table point)
    (pending : ∀ result, point ≠ .returned result)
    (own : point.inTransaction = true → next.lockHolder = some slot)
    (others : ∀ other, other ≠ slot → world.lockHolder = some other →
      next.lockHolder = some other) : WorldSound Read next := by
  refine moved_sound sound was calls log ?_ ?_ (.inl table) ?_ own others ?_
  · rw [table]
    exact sound.table
  · rw [table]
    exact keeps_refl _
  · rw [table]
    exact pointSound
  · rw [table]
    rintro (⟨result, returned⟩ | same)
    · exact absurd returned (pending result)
    · exact same

theorem after_read_pending (candidate : NewSigningKey) (cutoff : Int)
    (active : Option SigningKeyRow) (result : SigningKeyRow) :
    afterRead candidate cutoff active ≠ .returned result := by
  cases active with
  | none => exact BootstrapPoint.noConfusion
  | some current =>
      rw [afterRead]
      split <;> exact BootstrapPoint.noConfusion

theorem released {held : Option Nat} {slot : Nat} (holds : held = some slot) (other : Nat)
    (apart : other ≠ slot) (holdsOther : held = some other) : (none : Option Nat) = some other := by
  rw [holds] at holdsOther
  exact absurd (Option.some.inj holdsOther).symm apart

theorem advance_sound {Read : Int → Prop} {world next : SigningWorld} {slot : Nat}
    {point : BootstrapPoint} (sound : WorldSound Read world)
    (was : world.calls[slot]? = some point) (stepped : advance world slot point = some next) :
    WorldSound Read next := by
  have known := sound.points slot point was
  have held := sound.holder slot point was
  cases point with
  | lock candidate cutoff =>
      cases free : world.lockHolder with
      | some holder =>
          rw [advance, free] at stepped
          cases stepped
      | none =>
          rw [advance, free] at stepped
          cases stepped
          refine stayed_sound sound was rfl rfl rfl known (fun _ => BootstrapPoint.noConfusion)
            (fun _ => rfl) ?_
          intro other _ holds
          rw [free] at holds
          cases holds
  | readActive candidate cutoff =>
      cases stepped
      exact stayed_sound sound was rfl rfl rfl (after_read_sound known)
        (after_read_pending candidate cutoff _) (fun _ => held rfl) (fun _ _ same => same)
  | updateStale candidate current =>
      obtain ⟨read, jwkKid, member, isActive, aDay⟩ := known
      cases stepped
      exact stayed_sound sound was rfl rfl rfl
        ⟨read, jwkKid, rfl, .inr ⟨current, member, isActive, rfl, aDay⟩⟩
        (fun _ => BootstrapPoint.noConfusion) (fun _ => held rfl) (fun _ _ same => same)
  | insertActive candidate writes =>
      obtain ⟨read, jwkKid, nothing, rotates⟩ := known
      have view : writes.apply world.table = retiredTable writes.retired world.table := by
        rw [TxWrites.apply, nothing]
        exact List.append_nil _
      simp only [advance, view] at stepped
      split at stepped
      case isTrue allowed =>
        cases stepped
        exact stayed_sound sound was rfl rfl rfl
          (.inr ⟨candidate, writes.retired, read, jwkKid, rfl, rfl, rotates, allowed⟩)
          (fun _ => BootstrapPoint.noConfusion) (fun _ => held rfl) (fun _ _ same => same)
      case isFalse refused =>
        cases stepped
        exact stayed_sound sound was rfl rfl rfl trivial (fun _ => BootstrapPoint.noConfusion)
          (fun inside => by cases inside) (released (held rfl))
  | commit result writes =>
      obtain ⟨tableSound, one⟩ := commit_sound sound.table known
      cases stepped
      exact moved_sound sound was rfl rfl tableSound (applied_keeps writes _) (.inr (held rfl))
        trivial (fun inside => by cases inside) (released (held rfl)) (fun _ => one)
  | returned result => cases stepped
  | failed => cases stepped

theorem abort_sound {Read : Int → Prop} {world next : SigningWorld} {slot : Nat}
    {point : BootstrapPoint} (sound : WorldSound Read world)
    (was : world.calls[slot]? = some point) (stepped : abort world slot point = some next) :
    WorldSound Read next := by
  have held := sound.holder slot point was
  have ends : ∀ holder, (∀ other, other ≠ slot → world.lockHolder = some other →
      holder = some other) →
      WorldSound Read
        { world with lockHolder := holder, calls := world.calls.set slot .failed } := by
    intro holder others
    exact stayed_sound sound was rfl rfl rfl trivial (fun _ => BootstrapPoint.noConfusion)
      (fun inside => by cases inside) others
  cases point with
  | lock candidate cutoff =>
      cases stepped
      exact ends world.lockHolder (fun _ _ same => same)
  | readActive candidate cutoff =>
      cases stepped
      exact ends none (released (held rfl))
  | updateStale candidate current =>
      cases stepped
      exact ends none (released (held rfl))
  | insertActive candidate writes =>
      cases stepped
      exact ends none (released (held rfl))
  | commit result writes =>
      cases stepped
      exact ends none (released (held rfl))
  | returned result => cases stepped
  | failed => cases stepped

def ReadsIn (Read : Int → Prop) (_ : SigningWorld) : BootstrapEvent → Prop
  | .arrive now _ _ => Read now
  | _ => True

theorem bootstrap_step_sound {Read : Int → Prop} (world : SigningWorld) (event : BootstrapEvent)
    (next : SigningWorld) (sound : WorldSound Read world) (reads : ReadsIn Read world event)
    (stepped : bootstrapStep world event = some next) : WorldSound Read next := by
  cases event with
  | arrive now maxKeyAgeDays generated =>
      obtain ⟨arrived, outside, pending⟩ :=
        arrival_sound reads maxKeyAgeDays generated world.table
      cases stepped
      refine ⟨sound.table, ?_, ?_, ?_, sound.signed⟩
      · intro slot point there
        rcases slot_of_append there with before | rfl
        · exact sound.points slot point before
        · exact arrived
      · intro slot point there inside
        rcases slot_of_append there with before | rfl
        · exact sound.holder slot point before inside
        · rw [outside] at inside
          cases inside
      · intro slot result there
        rcases slot_of_append there with before | same
        · exact sound.success slot result before
        · exact absurd same.symm (pending result)
  | advance slot =>
      obtain ⟨point, was, advanced⟩ := Option.bind_eq_some_iff.mp stepped
      exact advance_sound sound was advanced
  | abort slot =>
      obtain ⟨point, was, aborted⟩ := Option.bind_eq_some_iff.mp stepped
      exact abort_sound sound was aborted
  | sign =>
      obtain ⟨key, read, rfl⟩ := Option.map_eq_some_iff.mp stepped
      refine ⟨sound.table, sound.points, sound.holder, sound.success, ?_⟩
      intro logged member
      rcases List.mem_append.mp member with before | now
      · exact sound.signed logged before
      · rw [List.mem_singleton.mp now]
        exact ⟨key, (active_key_some read).1, rfl, rfl, rfl⟩

theorem bootstrap_step_table {world next : SigningWorld} {event : BootstrapEvent}
    (stepped : bootstrapStep world event = some next) :
    next.table = world.table ∨ ∃ (slot : Nat) (result : SigningKeyRow) (writes : TxWrites),
      world.calls[slot]? = some (.commit result writes) ∧
        next.table = writes.apply world.table := by
  cases event with
  | arrive now maxKeyAgeDays generated =>
      cases stepped
      exact .inl rfl
  | advance slot =>
      obtain ⟨point, was, advanced⟩ := Option.bind_eq_some_iff.mp stepped
      cases point with
      | lock candidate cutoff =>
          simp only [advance] at advanced
          split at advanced <;> cases advanced
          exact .inl rfl
      | readActive candidate cutoff =>
          cases advanced
          exact .inl rfl
      | updateStale candidate current =>
          cases advanced
          exact .inl rfl
      | insertActive candidate writes =>
          simp only [advance] at advanced
          split at advanced <;> cases advanced <;> exact .inl rfl
      | commit result writes =>
          cases advanced
          exact .inr ⟨slot, result, writes, was, rfl⟩
      | returned result => cases advanced
      | failed => cases advanced
  | abort slot =>
      obtain ⟨point, was, aborted⟩ := Option.bind_eq_some_iff.mp stepped
      cases point <;> cases aborted <;> exact .inl rfl
  | sign =>
      obtain ⟨key, read, rfl⟩ := Option.map_eq_some_iff.mp stepped
      exact .inl rfl

theorem run_keeps {world last : SigningWorld} {events : List BootstrapEvent}
    (ran : runFrom bootstrapStep world events = some last) : Keeps world.table last.table := by
  refine run_preserves (fun current => Keeps world.table current.table) ?_ (keeps_refl _) ran
  intro current event next keeps stepped
  rcases bootstrap_step_table stepped with same | ⟨slot, result, writes, _, applied⟩
  · rw [same]
    exact keeps
  · rw [applied]
    exact keeps.trans (applied_keeps writes _)

theorem jwk_listed {table : List SigningKeyRow} {row : SigningKeyRow} (member : row ∈ table) :
    row.publicJwk ∈ listVerificationJwks table :=
  List.mem_map_of_mem (List.mem_mergeSort.mpr member)

theorem jwk_by_kid_listed {table : List SigningKeyRow} (sound : TableSound table)
    {row : SigningKeyRow} (member : row ∈ table) :
    jwkByKid (listVerificationJwks table) row.kid = some row.publicJwk := by
  have sorted := List.mergeSort_perm table listedBefore
  have jwkKids : (listVerificationJwks table).map PublicJwk.kid =
      (table.mergeSort listedBefore).map SigningKeyRow.kid := by
    rw [listVerificationJwks, List.map_map]
    exact List.map_congr_left fun found listed =>
      sound.jwkKid found (sorted.mem_iff.mp listed)
  have distinct : ((listVerificationJwks table).map PublicJwk.kid).Nodup := by
    rw [jwkKids]
    exact (sorted.map SigningKeyRow.kid).nodup_iff.mpr sound.unique
  have unique : UniqueKeys (fun jwk : PublicJwk => some jwk.kid) (listVerificationJwks table) := by
    refine (List.pairwise_map.mp distinct).imp ?_
    intro left right apart
    exact .inr fun same => apart (Option.some.inj same)
  exact find_key_eq_of_unique unique (jwk_listed member)
    (congrArg some (sound.jwkKid row member))

/-- Every reading is less than a day after every other as the table stores it. -/
def LessThanADayApart (Read : Int → Prop) : Prop :=
  ∀ earlier later, Read earlier → Read later → later - storedInstant earlier < dayNanos

/-- Since `first` at most one key was added, and if one was, it is the active one. -/
def OneNew (Read : Int → Prop) (first : List SigningKeyRow) (world : SigningWorld) : Prop :=
  ∃ new, world.table.map SigningKeyRow.kid = first.map SigningKeyRow.kid ++ new ∧
    (new = [] ∨ new.length = 1 ∧
      (∃ row ∈ world.table, row.isActive = true) ∧
      ∀ row ∈ world.table, row.isActive = true →
        ∃ reading, Read reading ∧ row.createdAt = storedInstant reading)

theorem not_rotates_new {Read : Int → Prop} (close : LessThanADayApart Read)
    {table : List SigningKeyRow} {reading : Int} (read : Read reading)
    {retired : Option (String × Int)} (rotates : Rotates table reading retired)
    (present : ∃ row ∈ table, row.isActive = true)
    (added : ∀ row ∈ table, row.isActive = true →
      ∃ earlier, Read earlier ∧ row.createdAt = storedInstant earlier) : False := by
  rcases rotates with ⟨_, noneActive⟩ | ⟨current, member, isActive, _, aDay⟩
  · obtain ⟨row, member, isActive⟩ := present
    rw [noneActive row member] at isActive
    cases isActive
  · obtain ⟨earlier, readEarlier, created⟩ := added current member isActive
    have less := close earlier reading readEarlier read
    omega

theorem active_of_inserted {table : List SigningKeyRow} {candidate : NewSigningKey}
    {retired : Option (String × Int)}
    (allowed : insertAllowed (retiredTable retired table) candidate = true)
    {row : SigningKeyRow}
    (member : row ∈ (TxWrites.mk retired (some candidate.row)).apply table)
    (isActive : row.isActive = true) : row = candidate.row := by
  rcases List.mem_append.mp member with old | new
  · have none := List.countP_eq_zero.mp ((insert_allowed_iff _ _).mp allowed).2 row old
    exact absurd isActive none
  · simpa using new

theorem one_new_step {Read : Int → Prop} (close : LessThanADayApart Read)
    {first : List SigningKeyRow} {world next : SigningWorld} {event : BootstrapEvent}
    (sound : WorldSound Read world) (one : OneNew Read first world)
    (stepped : bootstrapStep world event = some next) : OneNew Read first next := by
  rcases bootstrap_step_table stepped with same | ⟨slot, result, writes, was, applied⟩
  · unfold OneNew at one ⊢
    rw [same]
    exact one
  obtain ⟨new, kids, before⟩ := one
  rcases sound.points slot _ was with
    ⟨rfl, _, _⟩ | ⟨candidate, retired, read, _, _, rfl, rotates, allowed⟩
  · have unchanged : TxWrites.none.apply world.table = world.table := List.append_nil _
    exact ⟨new, by rw [applied, unchanged, kids], by rw [applied, unchanged]; exact before⟩
  rcases before with rfl | ⟨_, present, added⟩
  · refine ⟨[candidate.kid], ?_, .inr ⟨rfl, ?_, ?_⟩⟩
    · rw [applied, applied_kids, kids, List.append_nil]
      rfl
    · refine ⟨candidate.row, ?_, rfl⟩
      rw [applied]
      exact List.mem_append_right _ (by simp)
    · intro row member isActive
      rw [applied] at member
      rw [active_of_inserted allowed member isActive]
      exact ⟨candidate.createdAt, read, rfl⟩
  · exact (not_rotates_new close read rotates present added).elim

def clockReading : BootstrapEvent → Option Int
  | .arrive now _ _ => some now
  | _ => none

def readings (events : List BootstrapEvent) : List Int :=
  events.filterMap clockReading

theorem run_reads_in (world : SigningWorld) (events : List BootstrapEvent) :
    Meets bootstrapStep (ReadsIn (· ∈ readings events)) world events := by
  refine meets_of_forall_mem ?_
  intro event member current
  cases event with
  | arrive now maxKeyAgeDays generated => exact List.mem_filterMap.mpr ⟨_, member, rfl⟩
  | advance slot => trivial
  | abort slot => trivial
  | sign => trivial

theorem run_sound {table : List SigningKeyRow} (sound : TableSound table)
    {events : List BootstrapEvent} {last : SigningWorld}
    (ran : runFrom bootstrapStep (.start table) events = some last) :
    WorldSound (· ∈ readings events) last :=
  run_preserves_of_meets (WorldSound (· ∈ readings events)) bootstrap_step_sound
    (start_sound _ sound) (run_reads_in _ events) ran

theorem run_one_new {table : List SigningKeyRow} (sound : TableSound table)
    {events : List BootstrapEvent} {last : SigningWorld}
    (ran : runFrom bootstrapStep (.start table) events = some last)
    (close : LessThanADayApart (· ∈ readings events)) :
    OneNew (· ∈ readings events) table last := by
  have both := run_preserves_of_meets
    (fun world => WorldSound (· ∈ readings events) world ∧
      OneNew (· ∈ readings events) table world)
    (fun world event next holds reads stepped =>
      ⟨bootstrap_step_sound world event next holds.1 reads stepped,
        one_new_step close holds.1 holds.2 stepped⟩)
    ⟨start_sound _ sound, [], (List.append_nil _).symm, .inl rfl⟩ (run_reads_in _ events) ran
  exact both.2

/-- After the first success exactly one key is active; a key is stale exactly when
it has been retired; what was active stays listed, and what was signed stays
verifiable by its `kid`; callers whose readings lie less than a day apart, as the
table stores them, add at most one key. -/
theorem bootstrap_keeps_one_active_key (table : List SigningKeyRow) (sound : TableSound table)
    (events : List BootstrapEvent) (last : SigningWorld)
    (ran : runFrom bootstrapStep (.start table) events = some last) :
    ((∃ (slot : Nat) (result : SigningKeyRow), last.calls[slot]? = some (.returned result)) →
        last.table.countP SigningKeyRow.isActive = 1) ∧
      (∀ row ∈ last.table, row.status = .stale ↔ row.retiredAt.isSome) ∧
      (∀ before after middle, events = before ++ after →
        runFrom bootstrapStep (.start table) before = some middle →
        ∀ row ∈ middle.table, row.isActive = true →
          row.publicJwk ∈ listVerificationJwks last.table) ∧
      (∀ key ∈ last.signed,
        jwkByKid (listVerificationJwks last.table) key.kid = some key.publicJwk) ∧
      (LessThanADayApart (· ∈ readings events) →
        ∃ new, last.table.map SigningKeyRow.kid = table.map SigningKeyRow.kid ++ new ∧
          new.length ≤ 1) := by
  have lastSound := run_sound sound ran
  refine ⟨?_, lastSound.table.staleIff, ?_, ?_, ?_⟩
  · rintro ⟨slot, result, returned⟩
    exact lastSound.success slot result returned
  · intro before after middle split ranBefore row member _
    rw [split] at ran
    obtain ⟨_, ranTo, ranAfter⟩ := run_append_some ran
    rw [ranBefore] at ranTo
    cases ranTo
    obtain ⟨kept, keptMember, _, _, sameJwk⟩ := run_keeps ranAfter row member
    rw [← sameJwk]
    exact jwk_listed keptMember
  · intro key member
    obtain ⟨kept, keptMember, sameKid, _, sameJwk⟩ := lastSound.signed key member
    rw [← sameKid, ← sameJwk]
    exact jwk_by_kid_listed lastSound.table keptMember
  · intro close
    obtain ⟨new, kids, atMost⟩ := run_one_new sound ran close
    refine ⟨new, kids, ?_⟩
    rcases atMost with rfl | ⟨one, _⟩
    · exact Nat.zero_le _
    · exact Nat.le_of_eq one

theorem empty_table_sound : TableSound [] where
  unique := List.nodup_nil
  staleIff := by simp
  jwkKid := by simp
  oneActive := Nat.zero_le _

/-- Two services start on an empty table and both read the clock before either takes
the lock; a token is signed in between. -/
def racingBootstraps : List BootstrapEvent :=
  [.arrive postgresEpoch 1 (some ⟨"k1", "pem1", "n1", "e"⟩),
    .arrive (postgresEpoch + 5) 30 (some ⟨"k2", "pem2", "n2", "e"⟩),
    .advance 1, .advance 1, .advance 1, .advance 1, .sign,
    .advance 0, .advance 0, .advance 0]

theorem bootstrap_keeps_one_active_key_racing :
    ∃ last, runFrom bootstrapStep (.start []) racingBootstraps = some last ∧
      last.table.countP SigningKeyRow.isActive = 1 ∧
      jwkByKid (listVerificationJwks last.table) "k2" =
        some (GeneratedKey.publicJwk ⟨"k2", "pem2", "n2", "e"⟩) ∧
      ∃ new : List String, last.table.map SigningKeyRow.kid = new ∧ new.length ≤ 1 := by
  have run : reaches bootstrapStep (.start []) racingBootstraps (fun last =>
      decide (last.calls[0]? = last.calls[1]? ∧
        last.calls[1]? = some (.returned (NewSigningKey.row
          (GeneratedKey.intoCandidate ⟨"k2", "pem2", "n2", "e"⟩ (postgresEpoch + 5)))) ∧
        last.signed = [NewSigningKey.row
          (GeneratedKey.intoCandidate ⟨"k2", "pem2", "n2", "e"⟩ (postgresEpoch + 5))])) = true := by
    decide +kernel
  obtain ⟨last, ran, ends⟩ := exists_of_reaches run
  obtain ⟨_, returned, signed⟩ := of_decide_eq_true ends
  have result := bootstrap_keeps_one_active_key [] empty_table_sound racingBootstraps last ran
  have close : LessThanADayApart (· ∈ readings racingBootstraps) := by
    intro earlier later readEarlier readLater
    have each : ∀ left ∈ readings racingBootstraps, ∀ right ∈ readings racingBootstraps,
        right - storedInstant left < dayNanos := by decide +kernel
    exact each earlier readEarlier later readLater
  obtain ⟨new, kids, atMost⟩ := result.2.2.2.2 close
  refine ⟨last, ran, result.1 ⟨1, _, returned⟩, ?_, new, kids, atMost⟩
  have listed := result.2.2.2.1 _ (by rw [signed]; exact List.mem_singleton_self _)
  exact listed

/-- One caller reads the clock 400 ns less than a day after the other. The stored
instant has lost 900 ns, so the key is a day old at the second reading. -/
def bootstrapsWithinADay : List BootstrapEvent :=
  [.arrive (postgresEpoch + 900) 1 (some ⟨"k1", "pem1", "n1", "e"⟩),
    .arrive (postgresEpoch + 900 + dayNanos - 400) 1 (some ⟨"k2", "pem2", "n2", "e"⟩),
    .advance 0, .advance 0, .advance 0, .advance 0,
    .advance 1, .advance 1, .advance 1, .advance 1, .advance 1]

theorem bootstrap_adds_two_within_a_day :
    (∀ left ∈ readings bootstrapsWithinADay, ∀ right ∈ readings bootstrapsWithinADay,
        right - left < dayNanos) ∧
      ∃ last, runFrom bootstrapStep (.start []) bootstrapsWithinADay = some last ∧
        last.table.map SigningKeyRow.kid = ["k1", "k2"] := by
  refine ⟨by decide +kernel, ?_⟩
  have run : reaches bootstrapStep (.start []) bootstrapsWithinADay (fun last =>
      decide (last.table.map SigningKeyRow.kid = ["k1", "k2"])) = true := by
    decide +kernel
  obtain ⟨last, ran, ends⟩ := exists_of_reaches run
  exact ⟨last, ran, of_decide_eq_true ends⟩

end LightbridgeAuthz.ApiKeys.SigningKeys
