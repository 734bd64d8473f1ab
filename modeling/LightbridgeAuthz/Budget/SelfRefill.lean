import LightbridgeAuthz.Budget.AccountRows
import Mathlib.Algebra.Order.Ring.Int

/-!
# Whom a self-service refill reaches

A refill names its budget account, the account whose spend it is judged by and
its idempotency key, and the procedure compares none of them with the caller.
`privateWorld` is what there would be if only one subject existed. As long as
every refill stays on its side of the border, a step of the subject is a step of
its private world and a step of anybody else is none, so a whole run is the run
of the subject's own events there.
-/

namespace LightbridgeAuthz.Budget.SelfRefill

open Library.EventRun Library.KeyedRows
open Domain GrantLedger LedgerReplay Revocation EffectiveBalance AugmentationRequests RuleData
open ServiceWorld ServiceSteps ServiceWrites AccountRows RefillProcedure

set_option autoImplicit false

variable {Cost : Type}

def isAccount (subject : String) : String → Bool := fun account => account = subject

def accountPart (db : BudgetDb) (subject : String) : BudgetDb := partOf db (isAccount subject)

/-- The call is made by `subject`. -/
def madeBy (deployment : Deployment Cost) (subject : String) (caller : Nat) : Bool :=
  (deployment.contextOf caller).id = some subject

def privateCalls (deployment : Deployment Cost) (subject : String)
    (calls : Nat → Option Call) : Nat → Option Call :=
  fun caller => if madeBy deployment subject caller then calls caller else none

def privateService (deployment : Deployment Cost) (subject : String) (world : World) :
    World where
  db := accountPart world.db subject
  engine := world.engine
  locks := fun _ => none
  calls := privateCalls deployment subject world.calls

/-- The rows, the usage and the calls of one subject, under the active policy. -/
def privateWorld (deployment : Deployment Cost) (subject : String)
    (world : MeteredWorld Cost) : MeteredWorld Cost where
  service := privateService deployment subject world.service
  usage := world.usage.filter fun event => event.accountId = some subject

/-- The events of a subject's private world: its calls, its usage and the policy. -/
def isPrivate (deployment : Deployment Cost) (subject : String) : MeteredEvent Cost → Bool
  | .requestBudgetRefill caller _ _ => madeBy deployment subject caller
  | .advance caller _ _ => madeBy deployment subject caller
  | .observe event => event.accountId = some subject
  | .elsewhere (.stop caller) => madeBy deployment subject caller
  | .elsewhere (.swapEngine _) => true
  | .elsewhere _ => false

/-- A step of a `requestBudgetRefill` call that `subject` did not make. -/
def isOthersRefill (deployment : Deployment Cost) (subject : String) :
    MeteredEvent Cost → Bool
  | .requestBudgetRefill caller _ _ => !madeBy deployment subject caller
  | .advance caller _ _ => !madeBy deployment subject caller
  | _ => false

/-- A refill of `subject` is for its own budget account and is judged by its own
spend; a refill of anybody else is for another budget account. Neither finds a
row across the border by its key or its generated id. -/
def SelfScoped (deployment : Deployment Cost) (subject : String) (world : MeteredWorld Cost) :
    MeteredEvent Cost → Prop
  | .advance caller stamp _ =>
      match world.service.calls caller with
      | some (.refill request point) =>
          if madeBy deployment subject caller then
            request.budgetAccountId = subject ∧ request.accountId = subject ∧
              LookupsWithin (isAccount subject) world.service.db request stamp point
          else
            request.budgetAccountId ≠ subject ∧
              KeyApart (isAccount subject) world.service.db request point
      | _ => True
  | _ => True

instance (deployment : Deployment Cost) (subject : String) (world : MeteredWorld Cost)
    (event : MeteredEvent Cost) : Decidable (SelfScoped deployment subject world event) :=
  match event with
  | .advance caller stamp _ =>
      match running : world.service.calls caller with
      | some (.refill request point) =>
          if own : madeBy deployment subject caller then
            decidable_of_iff (request.budgetAccountId = subject ∧ request.accountId = subject ∧
              LookupsWithin (isAccount subject) world.service.db request stamp point)
              (by simp [SelfScoped, running, own])
          else
            decidable_of_iff (request.budgetAccountId ≠ subject ∧
              KeyApart (isAccount subject) world.service.db request point)
              (by simp [SelfScoped, running, own])
      | some (.review _ _) => isTrue (by simp [SelfScoped, running])
      | none => isTrue (by simp [SelfScoped, running])
  | .requestBudgetRefill _ _ _ => isTrue trivial
  | .observe _ => isTrue trivial
  | .elsewhere _ => isTrue trivial

/-- What reviewers and administrators do meanwhile is about other accounts. -/
def ReviewsOthers (deployment : Deployment Cost) (subject : String)
    (world : MeteredWorld Cost) : MeteredEvent Cost → Prop
  | .elsewhere (.arrive caller _) => madeBy deployment subject caller = false
  | .elsewhere (.advance caller _) =>
      madeBy deployment subject caller = false ∧
        ∀ review point, world.service.calls caller = some (.review review point) →
          (∀ row ∈ world.service.db.requests, row.id = review.requestId →
            row.budgetAccountId ≠ subject) ∧
          ∀ request, point = .grant request → request.budgetAccountId ≠ subject
  | .elsewhere (.grantBudget order _) => order.budgetAccountId ≠ subject
  | .elsewhere (.revokeBudgetGrant _ id _ _) =>
      ∀ row ∈ world.service.db.grants, row.id = id → row.budgetAccountId ≠ subject
  | _ => True

theorem keeps_within_of_scoped {deployment : Deployment Cost} {subject : String}
    {world : MeteredWorld Cost} {caller : Nat} {stamp : Stamp} {fault : Option Fault}
    {request : RefillRequest} {point : RefillPoint}
    (within : SelfScoped deployment subject world (.advance caller stamp fault))
    (running : world.service.calls caller = some (.refill request point)) :
    KeepsWithin (isAccount subject) world.service.db request stamp point := by
  simp only [SelfScoped, running] at within
  split at within
  · exact ⟨fun _ => within.2.2, fun elsewhere =>
      absurd within.1 (of_decide_eq_false elsewhere)⟩
  · exact ⟨fun own => absurd (of_decide_eq_true own) within.1, fun _ => within.2⟩

theorem step_borders_kept {deployment : Deployment Cost} {subject : String}
    {world next : MeteredWorld Cost} {event : MeteredEvent Cost}
    (kept : BordersKept (isAccount subject) world.service)
    (within : SelfScoped deployment subject world event)
    (stepped : meteredStep deployment world event = some next) :
    BordersKept (isAccount subject) next.service := by
  refine metered_borders_kept kept ?_ stepped
  intro caller stamp fault request point moves running
  rw [moves] at within
  exact keeps_within_of_scoped within running

theorem reachable_borders_kept {deployment : Deployment Cost} {subject : String}
    {accounts projects : List String} {engine : PolicyEngine}
    {events : List (MeteredEvent Cost)} {world : MeteredWorld Cost}
    (met : Meets (meteredStep deployment) (SelfScoped deployment subject)
      (MeteredWorld.initial accounts projects engine) events)
    (ran : runFrom (meteredStep deployment) (MeteredWorld.initial accounts projects engine)
      events = some world) : BordersKept (isAccount subject) world.service := by
  refine run_preserves_of_meets
    (fun current => BordersKept (isAccount subject) current.service) ?_ ?_ met ran
  · intro current event next kept within stepped
    exact step_borders_kept kept within stepped
  · exact initial_borders_kept (isAccount subject) accounts projects engine

section PrivateCalls

variable (deployment : Deployment Cost) {subject : String} (calls : Nat → Option Call)
  {caller : Nat} (entry : Option Call)

theorem private_calls_own (own : madeBy deployment subject caller = true) :
    privateCalls deployment subject calls caller = calls caller := by
  simp [privateCalls, own]

theorem private_calls_set_own (own : madeBy deployment subject caller = true) :
    privateCalls deployment subject (setCall calls caller entry) =
      setCall (privateCalls deployment subject calls) caller entry := by
  funext other
  by_cases same : other = caller
  · simp [privateCalls, setCall, same, own]
  · simp [privateCalls, setCall, same]

theorem private_calls_set_other (foreign : madeBy deployment subject caller = false) :
    privateCalls deployment subject (setCall calls caller entry) =
      privateCalls deployment subject calls := by
  funext other
  by_cases same : other = caller
  · simp [privateCalls, same, foreign]
  · simp [privateCalls, setCall, same]

end PrivateCalls

theorem spend_for_account_own (totalMicros : List Cost → Option Int64)
    (usage : List (UsageEvent Cost)) (fault : Option Fault) (accountId : String)
    (period : Period) :
    spendForAccount totalMicros (usage.filter fun event => event.accountId = some accountId)
        fault accountId period =
      spendForAccount totalMicros usage fault accountId period := by
  cases fault with
  | some fault => rfl
  | none =>
      have same : (usage.filter fun event => event.accountId = some accountId).filter
            (fun event => event.accountId = some accountId ∧
              (periodBoundsUtc period).1 ≤ event.observedAt ∧
              event.observedAt < (periodBoundsUtc period).2) =
          usage.filter fun event => event.accountId = some accountId ∧
            (periodBoundsUtc period).1 ≤ event.observedAt ∧
            event.observedAt < (periodBoundsUtc period).2 := by
        rw [List.filter_filter]
        apply List.filter_congr
        intro event _
        by_cases own : event.accountId = some accountId
        · simp [own]
        · simp [own]
      simp only [spendForAccount, same]

theorem step_input_own (deployment : Deployment Cost) (usage : List (UsageEvent Cost))
    (request : RefillRequest) (stamp : Stamp) (fault : Option Fault) (point : RefillPoint) :
    stepInput deployment (usage.filter fun event => event.accountId = some request.accountId)
        request stamp fault point =
      stepInput deployment usage request stamp fault point := by
  cases point <;> simp only [stepInput, spend_for_account_own]

section OwnSteps

variable {deployment : Deployment Cost} {subject : String} {world next : World} {caller : Nat}

theorem arrive_own {operation : Operation} (own : madeBy deployment subject caller = true)
    (stepped : step deployment.lockKey world (.arrive caller operation) = some next) :
    step deployment.lockKey (privateService deployment subject world)
        (.arrive caller operation) = some (privateService deployment subject next) := by
  cases step_outcome stepped with
  | arrived free =>
      have privateFree : (privateService deployment subject world).calls caller = none := by
        rw [← free]
        exact private_calls_own deployment world.calls own
      simp only [step, privateFree]
      simp only [privateService, private_calls_set_own deployment world.calls _ own]

theorem stop_own (own : madeBy deployment subject caller = true)
    (stepped : step deployment.lockKey world (.stop caller) = some next) :
    step deployment.lockKey (privateService deployment subject world) (.stop caller) =
      some (privateService deployment subject next) := by
  cases step_outcome stepped with
  | stopped running =>
      have privateRunning : (privateService deployment subject world).calls caller =
          some _ := (private_calls_own deployment world.calls own).trans running
      simp only [step, privateRunning]
      simp only [privateService, private_calls_set_own deployment world.calls _ own]
      rfl

theorem advance_own {request : RefillRequest} {point : RefillPoint} {input : StepInput}
    (own : madeBy deployment subject caller = true) (kept : BordersKept (isAccount subject) world)
    (running : world.calls caller = some (.refill request point))
    (onOwn : request.budgetAccountId = subject)
    (lookups : LookupsWithin (isAccount subject) world.db request input.stamp point)
    (stepped : step deployment.lockKey world (.advance caller input) = some next) :
    step deployment.lockKey (privateService deployment subject world) (.advance caller input) =
      some (privateService deployment subject next) := by
  have works := kept.works caller request point running
  have commutes := @refill_step_own _ world.engine _ _ _ _ kept.sound (decide_eq_true onOwn)
    lookups works
  have privateRunning : (privateService deployment subject world).calls caller =
      some (.refill request point) :=
    (private_calls_own deployment world.calls own).trans running
  simp only [step, running] at stepped
  simp only [step, privateRunning]
  have unfinished := advance_refill_unfinished stepped
  rw [advance_refill_eq unfinished] at stepped ⊢
  cases stepped
  simp only [privateService, accountPart, commutes,
    private_calls_set_own deployment world.calls _ own]

end OwnSteps

section OthersSteps

variable {deployment : Deployment Cost} {subject : String} {world next : World} {caller : Nat}

theorem private_service_other {db : BudgetDb} {locks : Int64 → Option Nat}
    {entry : Option Call} (foreign : madeBy deployment subject caller = false)
    (part : accountPart db subject = accountPart world.db subject) :
    privateService deployment subject
        { world with db := db, locks := locks, calls := setCall world.calls caller entry } =
      privateService deployment subject world := by
  simp only [privateService, part, private_calls_set_other deployment world.calls _ foreign]

theorem advance_refill_other {request : RefillRequest} {point : RefillPoint} {input : StepInput}
    (foreign : madeBy deployment subject caller = false)
    (kept : BordersKept (isAccount subject) world)
    (running : world.calls caller = some (.refill request point))
    (elsewhere : request.budgetAccountId ≠ subject)
    (stepped : step deployment.lockKey world (.advance caller input) = some next) :
    privateService deployment subject next = privateService deployment subject world := by
  have works := kept.works caller request point running
  simp only [step, running] at stepped
  cases advance_refill_outcome deployment.lockKey running stepped with
  | refillMoved asked unfinished move =>
      rw [running] at asked
      cases asked
      exact private_service_other foreign
        (refill_move_other kept.sound move (decide_eq_false elsewhere) works)
  | _ => simp_all

theorem elsewhere_other {usage : List (UsageEvent Cost)} {event : Event}
    (others : ReviewsOthers deployment subject ⟨world, usage⟩ (.elsewhere event))
    (notPrivate : isPrivate deployment subject (.elsewhere event) = false)
    (noRefill : movesRefill world event = false)
    (stepped : step deployment.lockKey world event = some next) :
    privateService deployment subject next = privateService deployment subject world := by
  cases step_outcome stepped with
  | arrived free => exact private_service_other others rfl
  | refillMoved running unfinished move => simp [movesRefill, running] at noRefill
  | reviewMoved running inside move =>
      obtain ⟨apart, grantsApart⟩ := others.2 _ _ running
      exact private_service_other others.1 (review_move_other move
        (fun row member rowId => decide_eq_false (apart row member rowId))
        (fun request isGrant => decide_eq_false (grantsApart request isGrant)))
  | stopped running => exact private_service_other notPrivate rfl
  | swapped engine => cases notPrivate
  | budgetGranted order stamp =>
      have part : accountPart (Revocation.grantBudget world.db order stamp).1 subject =
          accountPart world.db subject := grant_other rfl (decide_eq_false others)
      simp only [privateService, part]
  | budgetRevoked admin grantId reason stamp =>
      have part : accountPart (revokeBudgetGrant world.db admin grantId reason stamp).1 subject =
          accountPart world.db subject := by
        rcases revoke_is_grant world.db admin grantId reason stamp with
          same | ⟨original, found, ran⟩
        · rw [same]
        · obtain ⟨member, originalId⟩ := find_key_some found
          rw [ran]
          exact grant_other rfl
            (decide_eq_false (others original member (Option.some.inj originalId)))
      simp only [privateService, part]
  | _ => exact private_service_other others.1 rfl

end OthersSteps

section PrivateRun

variable {deployment : Deployment Cost} {subject : String} {world next : MeteredWorld Cost}
  {event : MeteredEvent Cost}

theorem private_step_own (kept : BordersKept (isAccount subject) world.service)
    (within : SelfScoped deployment subject world event)
    (own : isPrivate deployment subject event = true)
    (stepped : meteredStep deployment world event = some next) :
    meteredStep deployment (privateWorld deployment subject world) event =
      some (privateWorld deployment subject next) := by
  cases metered_outcome stepped with
  | observed observed =>
      have isOwn : observed.accountId = some subject := of_decide_eq_true own
      simp [meteredStep, privateWorld, List.filter_append, isOwn]
  | refused why => simp [meteredStep, serviceEvent, why]
  | arrived accepted arrived =>
      have privately := arrive_own own arrived
      simp [meteredStep, serviceEvent, accepted, privateWorld, privately]
  | @moved caller stamp fault request point input after running read moved =>
      have isOwn : madeBy deployment subject caller = true := own
      simp only [SelfScoped, running, isOwn, if_true] at within
      obtain ⟨onOwn, bySpend, lookups⟩ := within
      rw [← step_input_stamp read] at lookups
      have privately := advance_own isOwn kept running onOwn lookups moved
      have privateRunning : (privateWorld deployment subject world).service.calls caller =
          some (.refill request point) :=
        (private_calls_own deployment world.service.calls isOwn).trans running
      have privateRead : stepInput deployment (privateWorld deployment subject world).usage
          request stamp fault point = some input := by
        rw [← read, ← step_input_own deployment world.usage, bySpend]
        rfl
      simp only [meteredStep, serviceEvent, privateRunning, privateRead, Option.bind_some]
      simp only [privateWorld, privately, Option.map_some]
  | @panicked caller stamp fault request point after running read stopped =>
      have isOwn : madeBy deployment subject caller = true := own
      simp only [SelfScoped, running, isOwn, if_true] at within
      obtain ⟨onOwn, bySpend, lookups⟩ := within
      have privately := stop_own isOwn stopped
      have privateRunning : (privateWorld deployment subject world).service.calls caller =
          some (.refill request point) :=
        (private_calls_own deployment world.service.calls isOwn).trans running
      have privateRead : stepInput deployment (privateWorld deployment subject world).usage
          request stamp fault point = none := by
        rw [← read, ← step_input_own deployment world.usage, bySpend]
        rfl
      simp only [meteredStep, serviceEvent, privateRunning, privateRead, Option.bind_some]
      simp only [privateWorld, privately, Option.map_some]
  | @elsewhere other after noRefill moved =>
      cases other with
      | stop caller =>
          have privately := stop_own own moved
          simp [meteredStep, movesRefill, privateWorld, privately]
      | swapEngine engine =>
          cases moved
          rfl
      | _ => cases own

theorem private_step_other (kept : BordersKept (isAccount subject) world.service)
    (within : SelfScoped deployment subject world event)
    (others : ReviewsOthers deployment subject world event)
    (notPrivate : isPrivate deployment subject event = false)
    (stepped : meteredStep deployment world event = some next) :
    privateWorld deployment subject next = privateWorld deployment subject world := by
  cases metered_outcome stepped with
  | observed observed =>
      have isOther : observed.accountId ≠ some subject := of_decide_eq_false notPrivate
      simp [privateWorld, List.filter_append, isOther]
  | refused why => rfl
  | @arrived caller input now request after accepted arrived =>
      cases step_outcome arrived with
      | arrived free =>
          have same : privateService deployment subject
              { world.service with
                calls := setCall world.service.calls caller
                  (some (Operation.refill request).start) } =
              privateService deployment subject world.service :=
            private_service_other notPrivate rfl
          simp only [privateWorld, same]
  | @moved caller stamp fault request point input after running read moved =>
      have foreign : madeBy deployment subject caller = false := notPrivate
      simp only [SelfScoped, running, foreign, Bool.false_eq_true, if_false] at within
      simp only [privateWorld, advance_refill_other foreign kept running within.1 moved]
  | @panicked caller stamp fault request point after running read stopped =>
      cases step_outcome stopped with
      | stopped stopping =>
          have same : privateService deployment subject
              { world.service with
                locks := freeLocks world.service.locks caller
                calls := setCall world.service.calls caller none } =
              privateService deployment subject world.service :=
            private_service_other notPrivate rfl
          simp only [privateWorld, same]
  | elsewhere noRefill moved =>
      simp only [privateWorld, elsewhere_other others notPrivate noRefill moved]

end PrivateRun

/-- A run of a deployment: from its start to `middle`, and by `tail` to `last`. -/
structure MeteredRun (deployment : Deployment Cost) (accounts projects : List String)
    (engine : PolicyEngine) (front tail : List (MeteredEvent Cost))
    (middle last : MeteredWorld Cost) : Prop where
  reached : runFrom (meteredStep deployment) (MeteredWorld.initial accounts projects engine)
    front = some middle
  ran : runFrom (meteredStep deployment) middle tail = some last

def ScopedRun (deployment : Deployment Cost) (subject : String)
    (tail : List (MeteredEvent Cost)) (middle last : MeteredWorld Cost) : Prop :=
  ∃ accounts projects engine front,
    MeteredRun deployment accounts projects engine front tail middle last ∧
      Meets (meteredStep deployment) (SelfScoped deployment subject)
        (MeteredWorld.initial accounts projects engine) (front ++ tail)

theorem private_run {deployment : Deployment Cost} {subject : String}
    {tail : List (MeteredEvent Cost)} {middle last : MeteredWorld Cost}
    (run : ScopedRun deployment subject tail middle last)
    (others : Meets (meteredStep deployment) (ReviewsOthers deployment subject) middle tail) :
    runFrom (meteredStep deployment) (privateWorld deployment subject middle)
        (tail.filter (isPrivate deployment subject)) =
      some (privateWorld deployment subject last) := by
  obtain ⟨accounts, projects, engine, front, run, met⟩ := run
  obtain ⟨frontMet, tailMet⟩ := meets_append_some met run.reached
  have kept := reachable_borders_kept frontMet run.reached
  obtain ⟨privateLast, ran, isPrivateLast, _⟩ := run_filtered (isPrivate deployment subject)
    (fun state part => part = privateWorld deployment subject state ∧
      BordersKept (isAccount subject) state.service)
    (by
      intro state part event next related now own stepped
      obtain ⟨isPart, stateKept⟩ := related
      refine ⟨_, ?_, rfl, step_borders_kept stateKept now.1 stepped⟩
      rw [isPart]
      exact private_step_own stateKept now.1 own stepped)
    (by
      intro state part event next related now notPrivate stepped
      obtain ⟨isPart, stateKept⟩ := related
      refine ⟨?_, step_borders_kept stateKept now.1 stepped⟩
      rw [isPart]
      exact (private_step_other stateKept now.1 now.2 notPrivate stepped).symm)
    ⟨rfl, kept⟩ (meets_and tailMet others) run.ran
  rw [ran, isPrivateLast]

def isElsewhere : MeteredEvent Cost → Bool
  | .elsewhere _ => true
  | _ => false

theorem reviews_others_of_traffic {deployment : Deployment Cost} {subject : String}
    {world : MeteredWorld Cost} {events : List (MeteredEvent Cost)}
    (traffic : ∀ event ∈ events, isElsewhere event = false) :
    Meets (meteredStep deployment) (ReviewsOthers deployment subject) world events := by
  apply meets_of_forall_mem
  intro event member current
  have isTraffic := traffic event member
  cases event with
  | elsewhere other => cases isTraffic
  | _ => trivial

/-- Self-service refills are self-scoped in every run whose steps are: the
refills of others leave the subject's ledger, balances and requests as they
are, and the calls of the subject stand alike in two runs that agree on the
subject's rows, usage, calls and policy. -/
theorem self_refills_are_self_scoped (deployment : Deployment Cost) (subject : String) :
    (∀ (tail : List (MeteredEvent Cost)) (middle last : MeteredWorld Cost),
      ScopedRun deployment subject tail middle last →
      (∀ event ∈ tail, isOthersRefill deployment subject event = true) →
      accountPart last.service.db subject = accountPart middle.service.db subject) ∧
    ∀ (leftTail rightTail : List (MeteredEvent Cost))
      (leftMiddle rightMiddle leftLast rightLast : MeteredWorld Cost),
      ScopedRun deployment subject leftTail leftMiddle leftLast →
      ScopedRun deployment subject rightTail rightMiddle rightLast →
      Meets (meteredStep deployment) (ReviewsOthers deployment subject) leftMiddle leftTail →
      Meets (meteredStep deployment) (ReviewsOthers deployment subject) rightMiddle rightTail →
      privateWorld deployment subject leftMiddle = privateWorld deployment subject rightMiddle →
      leftTail.filter (isPrivate deployment subject) =
        rightTail.filter (isPrivate deployment subject) →
      (∀ caller, madeBy deployment subject caller = true →
        leftLast.service.calls caller = rightLast.service.calls caller) ∧
      accountPart leftLast.service.db subject = accountPart rightLast.service.db subject := by
  constructor
  · intro tail middle last run refills
    have traffic : ∀ event ∈ tail, isElsewhere event = false := by
      intro event member
      have isRefill := refills event member
      cases event with
      | elsewhere other => cases isRefill
      | _ => rfl
    have ran := private_run run (reviews_others_of_traffic traffic)
    have nothing : tail.filter (isPrivate deployment subject) = [] := by
      apply List.filter_eq_nil_iff.mpr
      intro event member
      have isRefill := refills event member
      cases event with
      | requestBudgetRefill caller input now => simpa [isPrivate, isOthersRefill] using isRefill
      | advance caller stamp fault => simpa [isPrivate, isOthersRefill] using isRefill
      | observe observed => cases isRefill
      | elsewhere other => cases isRefill
    rw [nothing] at ran
    have same : privateWorld deployment subject middle = privateWorld deployment subject last :=
      Option.some.inj ran
    exact (congrArg (fun world => world.service.db) same).symm
  · intro leftTail rightTail leftMiddle rightMiddle leftLast rightLast left right leftOthers
      rightOthers sameStart sameEvents
    have leftRan := private_run left leftOthers
    have rightRan := private_run right rightOthers
    rw [sameStart, sameEvents, rightRan] at leftRan
    have same : privateWorld deployment subject rightLast =
        privateWorld deployment subject leftLast := Option.some.inj leftRan
    refine ⟨?_, (congrArg (fun world => world.service.db) same).symm⟩
    intro caller own
    have sameCall := congrFun (congrArg (fun world => world.service.calls) same) caller
    simp only [privateWorld, privateService, private_calls_own deployment _ own] at sameCall
    exact sameCall.symm

def budgetCaller (subject : String) : CallContext where
  authenticated := true
  id := some subject
  rpcScope := "budget"
  permBudgetSelfRefill := true

/-- Call 0 is Mallory's, every other call is Alice's; costs are micro-USD. -/
def sampleDeployment : Deployment Int where
  lockKey := fun _ => 0
  totalMicros := fun costs => Library.CheckedInt.toBigint costs.sum
  contextOf := fun caller => if caller = 0 then budgetCaller "mallory" else budgetCaller "alice"

def refillInput (budgetAccountId accountId : String) : RequestBudgetRefillInput where
  budgetAccountId := budgetAccountId
  accountId := accountId
  projectId := none
  period := "2026-08"
  idempotencyKey := none
  requestedAmountMicros := "6000000"

/-- The account had traffic in July and August of 2026 that cost nothing. -/
def freeUsage (account : String) : List (MeteredEvent Int) :=
  [.observe ⟨some account, 1783000000000000, 0⟩, .observe ⟨some account, 1786000000000000, 0⟩]

def refillCall (caller : Nat) (input : RequestBudgetRefillInput) (requestId grantId : String)
    (steps : Nat) : List (MeteredEvent Int) :=
  .requestBudgetRefill caller input 1786000000000000 ::
    ([.advance caller ⟨"", 1786000000000000⟩ none, .advance caller ⟨"", 1786000000000000⟩ none,
      .advance caller ⟨requestId, 1786000000000000⟩ none] ++
    List.replicate 5 (.advance caller ⟨"", 1786000000000000⟩ none) ++
    List.replicate steps (.advance caller ⟨grantId, 1786000000000000⟩ none))

/-- A policy that refills automatically while the account spent less than a
dollar in the period. -/
def spendRuleSet : RuleSet :=
  { defaultRuleSet with
    rules :=
      [{ id := "low-spend"
         condition := .threshold .spendThisPeriodMicros .lt 1000000
         effect := .autoApprove
         reasonCode := "low_spend"
         capMicros := none }] }

def sampleStart (ruleSet : RuleSet) : MeteredWorld Int :=
  MeteredWorld.initial ["alice", "mallory"] [] (ruleDataEngine ruleSet 10000)

/-- What a refill is decided to be, from the moment its grant is written. -/
def decidedStatus : Option Call → Option AugmentationStatus
  | some (.refill _ (.recordDecision _ decision)) => some decision.decompose.status
  | some (.refill _ (.returned (.ok answer))) => some answer.status
  | _ => none

/-- Mallory's refill of Alice's budget is granted to Alice; and a refill of
Alice's, judged by Mallory's spend, is decided by whether Mallory had traffic. -/
theorem others_refill_and_foreign_spend :
    (¬ ∀ (accounts projects : List String) (engine : PolicyEngine)
        (front tail : List (MeteredEvent Int)) (middle last : MeteredWorld Int),
        MeteredRun sampleDeployment accounts projects engine front tail middle last →
        (∀ event ∈ tail, isOthersRefill sampleDeployment "alice" event = true) →
        accountPart last.service.db "alice" = accountPart middle.service.db "alice") ∧
    ¬ ∀ (accounts projects : List String) (engine : PolicyEngine)
        (leftFront rightFront leftTail rightTail : List (MeteredEvent Int))
        (leftMiddle rightMiddle leftLast rightLast : MeteredWorld Int),
        MeteredRun sampleDeployment accounts projects engine leftFront leftTail leftMiddle
          leftLast →
        MeteredRun sampleDeployment accounts projects engine rightFront rightTail rightMiddle
          rightLast →
        Meets (meteredStep sampleDeployment) (ReviewsOthers sampleDeployment "alice") leftMiddle
          leftTail →
        Meets (meteredStep sampleDeployment) (ReviewsOthers sampleDeployment "alice") rightMiddle
          rightTail →
        privateWorld sampleDeployment "alice" leftMiddle =
          privateWorld sampleDeployment "alice" rightMiddle →
        leftTail.filter (isPrivate sampleDeployment "alice") =
          rightTail.filter (isPrivate sampleDeployment "alice") →
        ∀ caller, madeBy sampleDeployment "alice" caller = true →
          leftLast.service.calls caller = rightLast.service.calls caller := by
  constructor
  · intro claimed
    have paid : reaches (meteredStep sampleDeployment) (sampleStart defaultRuleSet)
        (refillCall 0 (refillInput "alice" "mallory") "r1" "g1" 2)
        (fun last => (accountPart last.service.db "alice").grants.length == 1) = true := by
      decide +kernel
    obtain ⟨last, ran, granted⟩ := exists_of_reaches paid
    have unchanged := claimed _ _ _ [] _ _ last ⟨rfl, ran⟩ (by decide +kernel)
    rw [unchanged] at granted
    cases granted
  · intro claimed
    have paid : reaches (meteredStep sampleDeployment) (sampleStart spendRuleSet)
        (freeUsage "mallory" ++ refillCall 1 (refillInput "alice" "mallory") "r1" "g1" 1)
        (fun last => decidedStatus (last.service.calls 1) == some .autoApproved) = true := by
      decide +kernel
    have queued : reaches (meteredStep sampleDeployment) (sampleStart spendRuleSet)
        (refillCall 1 (refillInput "alice" "mallory") "r1" "g1" 1)
        (fun last => decidedStatus (last.service.calls 1) == some .pendingReview) = true := by
      decide +kernel
    obtain ⟨left, leftRan, leftAnswer⟩ := exists_of_reaches paid
    obtain ⟨right, rightRan, rightAnswer⟩ := exists_of_reaches queued
    have same := claimed _ _ _ [] [] _ _ _ _ left right ⟨rfl, leftRan⟩ ⟨rfl, rightRan⟩
      (reviews_others_of_traffic (by decide +kernel))
      (reviews_others_of_traffic (by decide +kernel)) rfl rfl 1 (by decide +kernel)
    rw [same] at leftAnswer
    rw [eq_of_beq leftAnswer] at rightAnswer
    cases rightAnswer

/-- Mallory's refill of her own budget, and Alice's of hers with and without
Mallory's around it. -/
theorem own_refills_stay_apart :
    (∃ last, runFrom (meteredStep sampleDeployment) (sampleStart defaultRuleSet)
        (refillCall 0 (refillInput "mallory" "mallory") "r0" "g0" 2) = some last ∧
      last.service.db.grants.length = 1 ∧
      accountPart last.service.db "alice" =
        accountPart (sampleStart defaultRuleSet).service.db "alice") ∧
    ∃ left right, runFrom (meteredStep sampleDeployment) (sampleStart spendRuleSet)
        (freeUsage "mallory" ++ refillCall 0 (refillInput "mallory" "mallory") "r0" "g0" 2 ++
          freeUsage "alice" ++ refillCall 1 (refillInput "alice" "alice") "r1" "g1" 2) =
        some left ∧
      runFrom (meteredStep sampleDeployment) (sampleStart spendRuleSet)
        (freeUsage "alice" ++ refillCall 1 (refillInput "alice" "alice") "r1" "g1" 2) =
        some right ∧
      decidedStatus (left.service.calls 1) = some .autoApproved ∧
      left.service.calls 1 = right.service.calls 1 := by
  have apart : reaches (meteredStep sampleDeployment) (sampleStart defaultRuleSet)
      (refillCall 0 (refillInput "mallory" "mallory") "r0" "g0" 2)
      (fun last => last.service.db.grants.length == 1) = true := by
    decide +kernel
  have among : reaches (meteredStep sampleDeployment) (sampleStart spendRuleSet)
      (freeUsage "mallory" ++ refillCall 0 (refillInput "mallory" "mallory") "r0" "g0" 2 ++
        freeUsage "alice" ++ refillCall 1 (refillInput "alice" "alice") "r1" "g1" 2)
      (fun last => decidedStatus (last.service.calls 1) == some .autoApproved) = true := by
    decide +kernel
  have alone : reaches (meteredStep sampleDeployment) (sampleStart spendRuleSet)
      (freeUsage "alice" ++ refillCall 1 (refillInput "alice" "alice") "r1" "g1" 2)
      (fun _ => true) = true := by
    decide +kernel
  obtain ⟨last, ran, granted⟩ := exists_of_reaches apart
  obtain ⟨left, leftRan, approved⟩ := exists_of_reaches among
  obtain ⟨right, rightRan, _⟩ := exists_of_reaches alone
  obtain ⟨unchanged, alike⟩ := self_refills_are_self_scoped sampleDeployment "alice"
  constructor
  · refine ⟨last, ran, eq_of_beq granted, ?_⟩
    exact unchanged _ _ last ⟨_, _, _, [], ⟨rfl, ran⟩, by decide +kernel⟩ (by decide +kernel)
  · refine ⟨left, right, leftRan, rightRan, eq_of_beq approved, ?_⟩
    have same := alike _ _ _ _ left right ⟨_, _, _, [], ⟨rfl, leftRan⟩, by decide +kernel⟩
      ⟨_, _, _, [], ⟨rfl, rightRan⟩, by decide +kernel⟩
      (reviews_others_of_traffic (by decide +kernel))
      (reviews_others_of_traffic (by decide +kernel)) rfl rfl
    exact same.1 1 (by decide +kernel)

end LightbridgeAuthz.Budget.SelfRefill
