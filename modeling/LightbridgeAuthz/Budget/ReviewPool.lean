import LightbridgeAuthz.Budget.ReviewLock

/-!
# Reviews and the connection pool

A review keeps one connection for the transaction of its advisory lock, also
while it waits for the lock, and takes a second one from the same pool for each
call of a repository. With as many lock transactions open as the pool has
connections, every review waits for a connection that only a review could give
back. Along every run in which a lock transaction is opened only while another
connection stays over, the reviews never all wait.
-/

namespace LightbridgeAuthz.Budget.ReviewPool

open Library.EventRun
open Domain GrantLedger AugmentationRequests
open ServiceWorld ServiceSteps ServiceWrites ReviewLock

set_option autoImplicit false

/-- What holds a connection: the lock transaction of a review, the repository
call a review is making, or a statement of some other call. -/
inductive Holder where
  | lockTransaction (caller : Nat)
  | repositoryCall (caller : Nat)
  | statement (id : Nat)
  deriving DecidableEq, Repr

structure PoolWorld where
  world : World
  size : Nat
  held : List Holder

inductive PoolEvent where
  | arrive (caller : Nat) (review : Review)
  | acquire (caller : Nat)
  | advance (caller : Nat) (input : StepInput)
  | stop (caller : Nat)
  | statementBegins (id : Nat)
  | statementEnds (id : Nat)

/-- The connection the next step of a review has to take from the pool. The end
of the lock transaction runs on the connection it has. -/
def runsOn (caller : Nat) : ReviewPoint → Option Holder
  | .acquireLock => some (.lockTransaction caller)
  | .get => some (.repositoryCall caller)
  | .grant _ => some (.repositoryCall caller)
  | .recordReview _ => some (.repositoryCall caller)
  | _ => none

def nextConnection (pool : PoolWorld) (caller : Nat) : Option Holder :=
  match pool.world.calls caller with
  | some (.review _ point) => runsOn caller point
  | _ => none

def hasReturned (world : World) (caller : Nat) : Bool :=
  match world.calls caller with
  | some (.review _ (.returned _)) => true
  | _ => false

/-- A repository call gives its connection back when it ends, the lock transaction
when the review returns. -/
def giveBack (held : List Holder) (caller : Nat) (returned : Bool) : List Holder :=
  held.filter fun holder =>
    holder ≠ .repositoryCall caller && !(returned && holder == .lockTransaction caller)

/-- One step of a process with its pool. A call that needs a connection the pool
does not have, or a lock that another call holds, takes no step. -/
def poolStep (lockKey : String → Int64) (pool : PoolWorld) : PoolEvent → Option PoolWorld
  | .arrive caller review =>
      (step lockKey pool.world (.arrive caller (.review review))).map fun next =>
        { pool with world := next }
  | .acquire caller =>
      match nextConnection pool caller with
      | none => none
      | some holder =>
          if holder ∉ pool.held ∧ pool.held.length < pool.size then
            some { pool with held := holder :: pool.held }
          else none
  | .advance caller input =>
      if ∀ holder ∈ nextConnection pool caller, holder ∈ pool.held then
        (step lockKey pool.world (.advance caller input)).map fun next =>
          { pool with
            world := next
            held := giveBack pool.held caller (hasReturned next caller) }
      else none
  | .stop caller =>
      (step lockKey pool.world (.stop caller)).map fun next =>
        { pool with world := next, held := giveBack pool.held caller true }
  | .statementBegins id =>
      if pool.held.length < pool.size then
        some { pool with held := .statement id :: pool.held }
      else none
  | .statementEnds id => some { pool with held := pool.held.erase (.statement id) }

def Unfinished (pool : PoolWorld) (caller : Nat) : Prop :=
  ∃ review point, pool.world.calls caller = some (.review review point) ∧
    ∀ result, point ≠ .returned result

/-- The next step of the review needs a connection, and none is free. -/
def WaitsForConnection (pool : PoolWorld) (caller : Nat) : Prop :=
  ∃ holder, nextConnection pool caller = some holder ∧ holder ∉ pool.held ∧
    pool.size ≤ pool.held.length

/-- The review has its transaction and waits for the lock that another call
holds. -/
def WaitsForLock (lockKey : String → Int64) (pool : PoolWorld) (caller : Nat) : Prop :=
  ∃ review other, pool.world.calls caller = some (.review review .acquireLock) ∧
    Holder.lockTransaction caller ∈ pool.held ∧
    pool.world.locks (lockKey review.requestId) = some other ∧ other ≠ caller

/-- There are unfinished reviews and all of them wait, for a connection or for
the lock of another one. A statement of another call would end and give its
connection back, so there is none. -/
structure Deadlocked (lockKey : String → Int64) (pool : PoolWorld) : Prop where
  unfinished : ∃ caller, Unfinished pool caller
  allWait : ∀ caller, Unfinished pool caller →
    WaitsForConnection pool caller ∨ WaitsForLock lockKey pool caller
  noStatement : ∀ id, Holder.statement id ∉ pool.held

def isLockTransaction : Holder → Bool
  | .lockTransaction _ => true
  | _ => false

def openLocks (held : List Holder) : Nat := held.countP isLockTransaction

/-- A review opens its lock transaction only if a connection stays over that no
lock transaction holds. -/
def LeavesOne (pool : PoolWorld) : PoolEvent → Prop
  | .acquire caller =>
      ∀ holder ∈ nextConnection pool caller, isLockTransaction holder = true →
        openLocks pool.held + 2 ≤ pool.size
  | _ => True

instance (pool : PoolWorld) : (event : PoolEvent) → Decidable (LeavesOne pool event)
  | .acquire _ => inferInstanceAs (Decidable (∀ holder ∈ _, _))
  | .arrive _ _ => isTrue trivial
  | .advance _ _ => isTrue trivial
  | .stop _ => isTrue trivial
  | .statementBegins _ => isTrue trivial
  | .statementEnds _ => isTrue trivial

structure PoolInvariant (lockKey : String → Int64) (pool : PoolWorld) : Prop where
  lock : LockInvariant lockKey pool.world
  room : openLocks pool.held + 1 ≤ pool.size
  working : ∀ caller, Holder.repositoryCall caller ∈ pool.held →
    ∃ review point, pool.world.calls caller = some (.review review point) ∧
      ReviewPoint.inside point = true

theorem open_locks_give_back (held : List Holder) (caller : Nat) (returned : Bool) :
    openLocks (giveBack held caller returned) ≤ openLocks held :=
  List.Sublist.countP_le List.filter_sublist

theorem mem_give_back {held : List Holder} {caller : Nat} {returned : Bool} {other : Nat}
    (kept : Holder.repositoryCall other ∈ giveBack held caller returned) :
    Holder.repositoryCall other ∈ held ∧ other ≠ caller := by
  obtain ⟨member, passes⟩ := List.mem_filter.mp kept
  refine ⟨member, ?_⟩
  intro same
  rw [same] at passes
  simp at passes

theorem runs_on_repository {caller other : Nat} {point : ReviewPoint}
    (runs : runsOn caller point = some (.repositoryCall other)) :
    other = caller ∧ ReviewPoint.inside point = true := by
  cases point with
  | acquireLock => cases runs
  | get =>
      cases runs
      exact ⟨rfl, rfl⟩
  | grant request =>
      cases runs
      exact ⟨rfl, rfl⟩
  | recordReview grantId =>
      cases runs
      exact ⟨rfl, rfl⟩
  | validateReason => cases runs
  | releaseLock result => cases runs
  | returned result => cases runs

theorem next_connection_some {pool : PoolWorld} {caller : Nat} {holder : Holder}
    (next : nextConnection pool caller = some holder) :
    ∃ review point, pool.world.calls caller = some (.review review point) ∧
      runsOn caller point = some holder := by
  unfold nextConnection at next
  split at next
  · rename_i review point running
    exact ⟨review, point, running, next⟩
  · cases next

theorem working_kept {lockKey : String → Int64} {world next : World} {event : Event}
    (outcome : StepOutcome lockKey world event next) {other : Nat}
    (still : ∀ input, event ≠ .advance other input) (notStopped : event ≠ .stop other)
    (working : ∃ review point, world.calls other = some (.review review point) ∧
      ReviewPoint.inside point = true) :
    ∃ review point, next.calls other = some (.review review point) ∧
      ReviewPoint.inside point = true := by
  obtain ⟨review, point, running, inside⟩ := working
  exact ⟨review, point, call_kept outcome running still notStopped, inside⟩

theorem step_pool_invariant {lockKey : String → Int64} {pool next : PoolWorld}
    {event : PoolEvent} (inv : PoolInvariant lockKey pool) (leaves : LeavesOne pool event)
    (stepped : poolStep lockKey pool event = some next) : PoolInvariant lockKey next := by
  cases event with
  | arrive caller review =>
      obtain ⟨world, ran, isNext⟩ := Option.map_eq_some_iff.mp stepped
      rw [← isNext]
      refine ⟨step_lock_invariant inv.lock rfl ran, inv.room, ?_⟩
      intro other held
      exact working_kept (step_outcome ran) (by simp) (by simp) (inv.working other held)
  | acquire caller =>
      simp only [poolStep] at stepped
      split at stepped
      · cases stepped
      · rename_i holder needs
        split at stepped
        · cases stepped
          obtain ⟨review, point, running, runs⟩ := next_connection_some needs
          refine ⟨inv.lock, ?_, ?_⟩
          · have room := inv.room
            have opened : openLocks (holder :: pool.held) =
                openLocks pool.held + if isLockTransaction holder = true then 1 else 0 :=
              List.countP_cons
            rw [opened]
            split
            · rename_i isLock
              exact leaves holder needs isLock
            · exact room
          · intro other held
            rcases List.mem_cons.mp held with isHolder | old
            · rw [← isHolder] at runs
              obtain ⟨same, inside⟩ := runs_on_repository runs
              rw [same]
              exact ⟨review, point, running, inside⟩
            · exact inv.working other old
        · cases stepped
  | advance caller input =>
      simp only [poolStep] at stepped
      split at stepped
      · obtain ⟨world, ran, isNext⟩ := Option.map_eq_some_iff.mp stepped
        rw [← isNext]
        refine ⟨step_lock_invariant inv.lock rfl ran, ?_, ?_⟩
        · exact Nat.le_trans (Nat.succ_le_succ (open_locks_give_back _ _ _)) inv.room
        · intro other held
          obtain ⟨member, different⟩ := mem_give_back held
          exact working_kept (step_outcome ran) (by simp [different.symm]) (by simp)
            (inv.working other member)
      · cases stepped
  | stop caller =>
      obtain ⟨world, ran, isNext⟩ := Option.map_eq_some_iff.mp stepped
      rw [← isNext]
      refine ⟨step_lock_invariant inv.lock rfl ran, ?_, ?_⟩
      · exact Nat.le_trans (Nat.succ_le_succ (open_locks_give_back _ _ _)) inv.room
      · intro other held
        obtain ⟨member, different⟩ := mem_give_back held
        exact working_kept (step_outcome ran) (by simp) (by simp [different.symm])
          (inv.working other member)
  | statementBegins id =>
      simp only [poolStep] at stepped
      split at stepped
      · cases stepped
        refine ⟨inv.lock, ?_, ?_⟩
        · have unopened : openLocks (.statement id :: pool.held) = openLocks pool.held :=
            List.countP_cons_of_neg (by simp [isLockTransaction])
          rw [unopened]
          exact inv.room
        · intro other held
          rcases List.mem_cons.mp held with isStatement | old
          · cases isStatement
          · exact inv.working other old
      · cases stepped
  | statementEnds id =>
      cases stepped
      refine ⟨inv.lock, ?_, ?_⟩
      · exact Nat.le_trans (Nat.succ_le_succ (List.Sublist.countP_le List.erase_sublist))
          inv.room
      · intro other held
        exact inv.working other (List.mem_of_mem_erase held)

theorem connection_left {lockKey : String → Int64} {pool : PoolWorld}
    (inv : PoolInvariant lockKey pool)
    (noCall : ∀ caller, Holder.repositoryCall caller ∉ pool.held)
    (noStatement : ∀ id, Holder.statement id ∉ pool.held) : pool.held.length < pool.size := by
  have onlyLocks : openLocks pool.held = pool.held.length := by
    apply List.countP_eq_length.mpr
    intro holder member
    cases holder with
    | lockTransaction caller => rfl
    | repositoryCall caller => exact absurd member (noCall caller)
    | statement id => exact absurd member (noStatement id)
  have room := inv.room
  omega

theorem holds_lock_not_acquiring {point : ReviewPoint}
    (holds : ReviewPoint.holdsLock point = true) : point ≠ .acquireLock := by
  intro same
  rw [same] at holds
  cases holds

theorem holds_lock_unreturned {point : ReviewPoint}
    (holds : ReviewPoint.holdsLock point = true) : ∀ result, point ≠ .returned result := by
  intro result same
  rw [same] at holds
  cases holds

theorem not_deadlocked {lockKey : String → Int64} {pool : PoolWorld}
    (inv : PoolInvariant lockKey pool) : ¬ Deadlocked lockKey pool := by
  intro stuck
  have noCall : ∀ caller, Holder.repositoryCall caller ∉ pool.held := by
    intro caller held
    obtain ⟨review, point, running, inside⟩ := inv.working caller held
    have holds := inside_holds_lock inside
    rcases stuck.allWait caller ⟨review, point, running, holds_lock_unreturned holds⟩ with
      ⟨holder, needs, notHeld, _⟩ | ⟨other, _, waiting, _⟩
    · obtain ⟨same, samePoint, sameRunning, runs⟩ := next_connection_some needs
      rw [running] at sameRunning
      cases sameRunning
      cases point with
      | get =>
          cases runs
          exact notHeld held
      | grant request =>
          cases runs
          exact notHeld held
      | recordReview grantId =>
          cases runs
          exact notHeld held
      | _ => cases inside
    · rw [running] at waiting
      cases waiting
      cases inside
  have left := connection_left inv noCall stuck.noStatement
  have waitsForLock : ∀ caller, Unfinished pool caller → WaitsForLock lockKey pool caller := by
    intro caller unfinished
    rcases stuck.allWait caller unfinished with ⟨_, _, _, full⟩ | waits
    · omega
    · exact waits
  obtain ⟨caller, unfinished⟩ := stuck.unfinished
  obtain ⟨review, other, _, _, locked, _⟩ := waitsForLock caller unfinished
  obtain ⟨otherReview, point, running, holds⟩ := inv.lock.owned _ other locked
  obtain ⟨_, _, acquiring, _⟩ :=
    waitsForLock other ⟨otherReview, point, running, holds_lock_unreturned holds⟩
  rw [running] at acquiring
  cases acquiring
  exact holds_lock_not_acquiring holds rfl

structure PoolStart (pool : PoolWorld) : Prop where
  rest : AtRest pool.world
  size : 2 ≤ pool.size
  idle : pool.held = []

/-- Along every run of reviews on any requests, which fail and stop anywhere and
share the pool with other statements, if a lock transaction is opened only while
another connection stays over then no deadlock is reached. -/
theorem reviews_never_deadlock (lockKey : String → Int64) (start : PoolWorld)
    (starts : PoolStart start) (events : List PoolEvent)
    (leaves : Meets (poolStep lockKey) LeavesOne start events) (pool : PoolWorld)
    (ran : runFrom (poolStep lockKey) start events = some pool) :
    ¬ Deadlocked lockKey pool := by
  have invariantAtStart : PoolInvariant lockKey start := by
    refine ⟨at_rest_lock_invariant lockKey starts.rest, ?_, ?_⟩
    · have size := starts.size
      rw [starts.idle]
      simp [openLocks]
      omega
    · intro caller held
      rw [starts.idle] at held
      cases held
  exact not_deadlocked (run_preserves_of_meets (PoolInvariant lockKey)
    (fun _ _ _ inv leaves stepped => step_pool_invariant inv leaves stepped)
    invariantAtStart leaves ran)

def arrivesBelow (bound : Nat) : PoolEvent → Bool
  | .arrive caller _ => caller < bound
  | _ => true

theorem late_callers_absent {lockKey : String → Int64} {start pool : PoolWorld} {bound : Nat}
    (absent : ∀ caller, bound ≤ caller → start.world.calls caller = none)
    {events : List PoolEvent} (below : ∀ event ∈ events, arrivesBelow bound event = true)
    (ran : runFrom (poolStep lockKey) start events = some pool) :
    ∀ caller, bound ≤ caller → pool.world.calls caller = none := by
  have bounded : Meets (poolStep lockKey) (fun _ event => arrivesBelow bound event = true) start
      events := by
    apply meets_of_forall_mem
    intro event member _
    exact below event member
  refine run_preserves_of_meets
    (fun current => ∀ caller, bound ≤ caller → current.world.calls caller = none) ?_ absent
    bounded ran
  intro current event next absent below stepped caller late
  cases event with
  | arrive arriver review =>
      obtain ⟨world, moved, isNext⟩ := Option.map_eq_some_iff.mp stepped
      rw [← isNext]
      apply absent_after (step_outcome moved) (absent caller late)
      intro operation arrives
      cases arrives
      have early : caller < bound := of_decide_eq_true below
      omega
  | acquire acquirer =>
      simp only [poolStep] at stepped
      split at stepped
      · cases stepped
      · split at stepped
        · cases stepped
          exact absent caller late
        · cases stepped
  | advance mover input =>
      simp only [poolStep] at stepped
      split at stepped
      · obtain ⟨world, moved, isNext⟩ := Option.map_eq_some_iff.mp stepped
        rw [← isNext]
        exact absent_after (step_outcome moved) (absent caller late) (by simp)
      · cases stepped
  | stop stopper =>
      obtain ⟨world, moved, isNext⟩ := Option.map_eq_some_iff.mp stepped
      rw [← isNext]
      exact absent_after (step_outcome moved) (absent caller late) (by simp)
  | statementBegins id =>
      simp only [poolStep] at stepped
      split at stepped
      · cases stepped
        exact absent caller late
      · cases stepped
  | statementEnds id =>
      cases stepped
      exact absent caller late

def smallPool : PoolWorld where
  world := pendingWorld
  size := 2
  held := []

theorem small_pool_starts : PoolStart smallPool where
  rest := pending_world_at_rest
  size := by decide
  idle := rfl

def twoLocks (id : String) : Int64 := if id = "r1" then 1 else 2

/-- Two reviews of different requests open their lock transactions and take their
locks. -/
def crowdedRun : List PoolEvent :=
  [.arrive 0 ⟨"r1", "first", .approve⟩, .arrive 1 ⟨"r2", "second", .approve⟩, .acquire 0,
    .acquire 1, .advance 0 (plainStep "" 1), .advance 1 (plainStep "" 2)]

/-- Whether the next step of the caller needs a connection and none is free. -/
def starved (pool : PoolWorld) (caller : Nat) : Bool :=
  (nextConnection pool caller).any fun holder =>
    holder ∉ pool.held && pool.size ≤ pool.held.length

theorem starved_waits {pool : PoolWorld} {caller : Nat} (waits : starved pool caller = true) :
    WaitsForConnection pool caller := by
  obtain ⟨holder, needs, none⟩ := (Option.any_eq_true _ _).mp waits
  simp only [Bool.and_eq_true, decide_eq_true_eq] at none
  exact ⟨holder, needs, none.1, none.2⟩

/-- With two connections, two reviews wait for each other's forever. -/
theorem crowded_reviews_deadlock :
    ¬ ∀ (lockKey : String → Int64) (start : PoolWorld) (events : List PoolEvent)
        (pool : PoolWorld), PoolStart start →
        runFrom (poolStep lockKey) start events = some pool → ¬ Deadlocked lockKey pool := by
  intro claimed
  have reached : reaches (poolStep twoLocks) smallPool crowdedRun (fun pool =>
      starved pool 0 && starved pool 1 &&
        pool.held == [.lockTransaction 1, .lockTransaction 0]) = true := by
    decide +kernel
  obtain ⟨pool, ran, found⟩ := exists_of_reaches reached
  simp only [Bool.and_eq_true, beq_iff_eq] at found
  obtain ⟨⟨first, second⟩, held⟩ := found
  have absent := late_callers_absent (fun _ _ => rfl) (by decide : ∀ event ∈ crowdedRun,
    arrivesBelow 2 event = true) ran
  apply claimed twoLocks smallPool crowdedRun pool small_pool_starts ran
  constructor
  · obtain ⟨holder, needs, _⟩ := starved_waits first
    obtain ⟨review, point, running, runs⟩ := next_connection_some needs
    refine ⟨0, review, point, running, ?_⟩
    intro result same
    rw [same] at runs
    cases runs
  · rintro caller ⟨review, point, running, _⟩
    left
    by_cases isFirst : caller = 0
    · rw [isFirst]
      exact starved_waits first
    · by_cases isSecond : caller = 1
      · rw [isSecond]
        exact starved_waits second
      · rw [absent caller (by omega)] at running
        cases running
  · intro id member
    rw [held] at member
    simp at member

/-- One review at a time gets through, the second connection its own. -/
def quietRun : List PoolEvent :=
  [.arrive 0 ⟨"r1", "first", .approve⟩, .arrive 1 ⟨"r2", "second", .approve⟩, .acquire 0,
    .advance 0 (plainStep "" 1), .acquire 0, .advance 0 (plainStep "" 2), .acquire 0,
    .advance 0 (plainStep "g1" 3), .acquire 0, .advance 0 (plainStep "" 4),
    .advance 0 (plainStep "" 5), .acquire 1]

theorem quiet_reviews_not_deadlocked :
    ∃ pool, runFrom (poolStep twoLocks) smallPool quietRun = some pool ∧
      hasReturned pool.world 0 = true ∧ ¬ Deadlocked twoLocks pool := by
  have reached : reaches (poolStep twoLocks) smallPool quietRun
      (fun pool => hasReturned pool.world 0) = true := by
    decide +kernel
  obtain ⟨pool, ran, returned⟩ := exists_of_reaches reached
  exact ⟨pool, ran, returned,
    reviews_never_deadlock twoLocks smallPool small_pool_starts quietRun (by decide +kernel)
      pool ran⟩

end LightbridgeAuthz.Budget.ReviewPool
