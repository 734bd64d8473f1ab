import LightbridgeAuthz.Budget.DeletionBlocking
import LightbridgeAuthz.Budget.SelfRefill

/-!
# The same run without some refills

The events of the removed calls are left out of a run. What remains is enabled
in the quiet run as it was in the whole one, and the two agree on the tenancy
tables, on the policy, on the usage and on every row this side of the border. So
a deletion of what the rows beyond it spare succeeds in both or in neither.
-/

namespace LightbridgeAuthz.Budget.QuietRuns

open Library.EventRun Library.KeyedRows
open Access.Tenancy Access.TenancyOps
open Domain GrantLedger Revocation AugmentationRequests RuleData
open ServiceWorld ServiceSteps ServiceWrites AccountRows RefillProcedure ReferencedDeletion
open DeletionBlocking SelfRefill

set_option autoImplicit false

variable {Cost : Type}

/-- The calls left out: their arrival, their steps and their ends. -/
def isRemoved (removed : Nat → Bool) : EstateEvent Cost → Bool
  | .budget (.requestBudgetRefill caller _ _) => removed caller
  | .budget (.advance caller _ _) => removed caller
  | .budget (.elsewhere (.stop caller)) => removed caller
  | _ => false

/-- The two services agree on everything but the removed calls, the locks and the
rows beyond the border. -/
structure Alike (removed : Nat → Bool) (away : String → Bool) (whole part : World) :
    Prop where
  engine : part.engine = whole.engine
  rows : SameNear away whole.db part.db
  calls : ∀ caller, removed caller = false → part.calls caller = whole.calls caller

section Services

variable {removed : Nat → Bool} {away : String → Bool} {whole part next : World}
  {lockKey : String → Int64} {caller : Nat}

theorem alike_set_call {wholeDb partDb : BudgetDb} {wholeLocks partLocks : Int64 → Option Nat}
    {entry : Option Call} (alike : Alike removed away whole part)
    (rows : SameNear away wholeDb partDb) :
    Alike removed away
      { whole with
        db := wholeDb, locks := wholeLocks, calls := setCall whole.calls caller entry }
      { part with
        db := partDb, locks := partLocks, calls := setCall part.calls caller entry } where
  engine := alike.engine
  rows := rows
  calls := by
    intro other isKept
    simp only [setCall]
    split
    · rfl
    · exact alike.calls other isKept

theorem alike_removed {wholeDb : BudgetDb} {wholeLocks : Int64 → Option Nat}
    {entry : Option Call} (alike : Alike removed away whole part)
    (isRemoved : removed caller = true)
    (untouched : partOf wholeDb (near away) = partOf whole.db (near away)) :
    Alike removed away
      { whole with
        db := wholeDb, locks := wholeLocks, calls := setCall whole.calls caller entry }
      part where
  engine := alike.engine
  rows := untouched.trans alike.rows
  calls := by
    intro other isKept
    have differs : other ≠ caller := by
      intro same
      rw [same, isRemoved] at isKept
      cases isKept
    simp only [setCall, differs, if_false]
    exact alike.calls other isKept

theorem arrive_alike {operation : Operation} (alike : Alike removed away whole part)
    (isKept : removed caller = false)
    (stepped : step lockKey whole (.arrive caller operation) = some next) :
    ∃ moved, step lockKey part (.arrive caller operation) = some moved ∧
      Alike removed away next moved := by
  cases step_outcome stepped with
  | arrived free =>
      have partFree : part.calls caller = none := (alike.calls caller isKept).trans free
      refine ⟨{ part with calls := setCall part.calls caller (some operation.start) }, ?_, ?_⟩
      · simp only [step, partFree]
      · exact alike_set_call alike alike.rows

theorem stop_alike (alike : Alike removed away whole part) (isKept : removed caller = false)
    (stepped : step lockKey whole (.stop caller) = some next) :
    ∃ moved, step lockKey part (.stop caller) = some moved ∧
      Alike removed away next moved := by
  cases step_outcome stepped with
  | stopped running =>
      have partRunning := (alike.calls caller isKept).trans running
      refine ⟨{ part with
        locks := freeLocks part.locks caller
        calls := setCall part.calls caller none }, ?_, ?_⟩
      · simp only [step, partRunning]
      · exact alike_set_call alike alike.rows

theorem advance_alike {request : RefillRequest} {point : RefillPoint} {input : StepInput}
    (alike : Alike removed away whole part) (isKept : removed caller = false)
    (wholeKept : BordersKept (near away) whole) (partKept : BordersKept (near away) part)
    (running : whole.calls caller = some (.refill request point))
    (onThisSide : away request.budgetAccountId = false)
    (wholeLookups : LookupsWithin (near away) whole.db request input.stamp point)
    (partLookups : LookupsWithin (near away) part.db request input.stamp point)
    (stepped : step lockKey whole (.advance caller input) = some next) :
    ∃ moved, step lockKey part (.advance caller input) = some moved ∧
      Alike removed away next moved := by
  have partRunning := (alike.calls caller isKept).trans running
  obtain ⟨sameRows, samePoint⟩ := @same_near_refill away whole.db part.db whole.engine request
    input point wholeKept.sound partKept.sound alike.rows onThisSide wholeLookups partLookups
    (wholeKept.works caller request point running)
    (partKept.works caller request point partRunning)
  simp only [step, running] at stepped
  simp only [step, partRunning]
  have unfinished := advance_refill_unfinished stepped
  rw [advance_refill_eq unfinished] at stepped
  cases stepped
  have sameEngine : refillStep part.engine part.db request input point =
      refillStep whole.engine part.db request input point := by
    rw [alike.engine]
  refine ⟨_, advance_refill_eq unfinished, ?_⟩
  rw [sameEngine, ← samePoint]
  exact alike_set_call alike sameRows

theorem advance_removed {request : RefillRequest} {point : RefillPoint} {input : StepInput}
    (alike : Alike removed away whole part) (isRemoved : removed caller = true)
    (wholeKept : BordersKept (near away) whole)
    (running : whole.calls caller = some (.refill request point))
    (isAway : away request.budgetAccountId = true)
    (stepped : step lockKey whole (.advance caller input) = some next) :
    Alike removed away next part := by
  have beyond : near away request.budgetAccountId = false := by simp [near, isAway]
  simp only [step, running] at stepped
  cases advance_refill_outcome lockKey running stepped with
  | refillMoved asked unfinished move =>
      rw [running] at asked
      cases asked
      exact alike_removed alike isRemoved (refill_move_other wholeKept.sound move beyond
        (wholeKept.works caller request point running))
  | _ => simp_all

end Services

/-- The two estates agree on what a deletion this side of the border depends on. -/
structure Beside (removed : Nat → Bool) (away : String → Bool) (whole part : Estate Cost) :
    Prop where
  tenancy : part.tenancy = whole.tenancy
  usage : part.metered.usage = whole.metered.usage
  services : Alike removed away whole.metered.service part.metered.service

section EstateSteps

variable {deployment : Deployment Cost} {tiers : List String} {removed : Nat → Bool}
  {away : String → Bool} {spared : Spared} {whole part next : Estate Cost}

theorem beside_with_db (beside : Beside removed away whole part) {wholeDb partDb : BudgetDb}
    (rows : SameNear away wholeDb partDb) :
    Beside removed away (whole.withDb wholeDb) (part.withDb partDb) where
  tenancy := beside.tenancy
  usage := beside.usage
  services := ⟨beside.services.engine, rows, beside.services.calls⟩

theorem metered_alike {event : MeteredEvent Cost} {metered : MeteredWorld Cost}
    (beside : Beside removed away whole part) (wholeKept : EstateKept away spared whole)
    (partKept : EstateKept away spared part)
    (wholeApart : StaysApart removed away spared whole (.budget event))
    (partApart : StaysApart removed away spared part (.budget event))
    (isKept : isRemoved removed (EstateEvent.budget event) = false)
    (noReview : movesReview event = false)
    (stepped : meteredStep deployment whole.metered event = some metered) :
    ∃ moved, meteredStep deployment part.metered event = some moved ∧
      moved.usage = metered.usage ∧
      Alike removed away metered.service moved.service := by
  have alike := beside.services
  cases metered_outcome stepped with
  | observed observed =>
      refine ⟨{ part.metered with usage := part.metered.usage ++ [observed] }, rfl, ?_, alike⟩
      simp only [beside.usage]
  | refused why =>
      refine ⟨part.metered, ?_, beside.usage, alike⟩
      simp only [meteredStep, serviceEvent, why]
  | arrived accepted arrived =>
      obtain ⟨service, moved, still⟩ := arrive_alike alike isKept arrived
      refine ⟨{ part.metered with service := service }, ?_, beside.usage, still⟩
      simp only [meteredStep, serviceEvent, accepted, moved, Option.map_some]
  | @moved caller stamp fault request point input after running read moved =>
      have keptCaller : removed caller = false := isKept
      have partRunning : part.calls caller = some (.refill request point) :=
        (alike.calls caller keptCaller).trans running
      have wholeRunning : whole.calls caller = some (.refill request point) := running
      simp only [StaysApart, wholeRunning, keptCaller] at wholeApart
      simp only [StaysApart, partRunning, keptCaller] at partApart
      obtain ⟨onThisSide, wholeLookups⟩ := wholeApart
      have partLookups := partApart.2
      rw [← step_input_stamp read] at wholeLookups partLookups
      obtain ⟨service, partMoved, still⟩ := advance_alike alike keptCaller wholeKept.borders
        partKept.borders running onThisSide wholeLookups partLookups moved
      refine ⟨{ part.metered with service := service }, ?_, beside.usage, still⟩
      have partRead : stepInput deployment part.metered.usage request stamp fault point =
          some input := by
        rw [beside.usage]
        exact read
      have partCalls : part.metered.service.calls caller = some (.refill request point) :=
        partRunning
      simp only [meteredStep, serviceEvent, partCalls, partRead, Option.bind_some, partMoved,
        Option.map_some]
  | @panicked caller stamp fault request point after running read stopped =>
      obtain ⟨service, partStopped, still⟩ := stop_alike alike isKept stopped
      have partRunning := (alike.calls caller isKept).trans running
      have partRead : stepInput deployment part.metered.usage request stamp fault point =
          none := by
        rw [beside.usage]
        exact read
      refine ⟨{ part.metered with service := service }, ?_, beside.usage, still⟩
      simp only [meteredStep, serviceEvent, partRunning, partRead, Option.bind_some, partStopped,
        Option.map_some]
  | @elsewhere other after noRefill moved =>
      cases other with
      | arrive caller operation => cases noReview
      | advance caller input => cases noReview
      | stop caller =>
          obtain ⟨service, partStopped, still⟩ := stop_alike alike isKept moved
          refine ⟨{ part.metered with service := service }, ?_, beside.usage, still⟩
          simp [meteredStep, movesRefill, partStopped]
      | swapEngine engine =>
          cases moved
          exact ⟨_, rfl, beside.usage, rfl, alike.rows, alike.calls⟩
      | grantBudget order stamp =>
          cases moved
          refine ⟨_, rfl, beside.usage, alike.engine, ?_, alike.calls⟩
          apply same_near_grant alike.rows rfl
          · intro onThisSide
            have isNear : away order.budgetAccountId = false := onThisSide
            simp only [StaysApart, isNear] at wholeApart
            exact wholeApart
          · intro onThisSide
            have isNear : away order.budgetAccountId = false := onThisSide
            simp only [StaysApart, isNear] at partApart
            exact partApart
      | revokeBudgetGrant admin id reason stamp =>
          cases moved
          exact ⟨_, rfl, beside.usage, alike.engine, same_near_revoke wholeKept.borders.sound
            partKept.borders.sound alike.rows wholeApart partApart, alike.calls⟩

theorem operate_step (estate : Estate Cost) (subject : String) (op : TenancyOp) :
    estateStep deployment tiers estate (.operate subject op) =
      some (match (operateReferenced tiers estate.tenancy estate.db subject op).toOption with
        | none => estate
        | some tenancy =>
            { estate with tenancy := tenancy }.withDb (linked tenancy estate.db)) := by
  simp only [estateStep]
  cases operateReferenced tiers estate.tenancy estate.db subject op with
  | error error => rfl
  | ok tenancy => rfl

theorem beside_step {event : EstateEvent Cost} (beside : Beside removed away whole part)
    (wholeKept : EstateKept away spared whole) (partKept : EstateKept away spared part)
    (wholeApart : StaysApart removed away spared whole event)
    (partApart : StaysApart removed away spared part event)
    (isKept : isRemoved removed event = false)
    (stepped : estateStep deployment tiers whole event = some next) :
    ∃ moved, estateStep deployment tiers part event = some moved ∧
      Beside removed away next moved := by
  cases event with
  | operate subject op =>
      rw [operate_step] at stepped
      cases stepped
      refine ⟨_, operate_step part subject op, ?_⟩
      have partNear : (refusingConstraint whole.tenancy (partOf part.db away) op).isSome = true →
          (refusingConstraint whole.tenancy (partOf part.db (near away)) op).isSome = true := by
        rw [← beside.tenancy]
        exact partApart
      have alike : (refusingConstraint whole.tenancy whole.db op).isSome =
          (refusingConstraint whole.tenancy part.db op).isSome :=
        refused_alike beside.services.rows wholeApart partNear
      rw [beside.tenancy, ← operate_alike alike]
      cases (operateReferenced tiers whole.tenancy whole.db subject op).toOption with
      | none => exact beside
      | some tenancy =>
          exact ⟨rfl, beside.usage, beside.services.engine,
            same_near_linked beside.services.rows tenancy, beside.services.calls⟩
  | budget event =>
      simp only [estateStep] at stepped ⊢
      split at stepped
      · cases stepped
      · rename_i noReview
        obtain ⟨metered, moved, isNext⟩ := Option.map_eq_some_iff.mp stepped
        subst isNext
        obtain ⟨partMetered, partMoved, sameUsage, still⟩ := metered_alike beside wholeKept
          partKept wholeApart partApart isKept (by simpa using noReview) moved
        refine ⟨{ part with metered := partMetered }, ?_, beside.tenancy, sameUsage, still⟩
        simp [noReview, partMoved]
  | review review inputs =>
      cases stepped
      exact ⟨_, rfl, beside_with_db beside (same_near_review wholeKept.borders.sound
        partKept.borders.sound beside.services.rows wholeApart partApart)⟩
  | mutateLedger operation id =>
      cases stepped
      refine ⟨_, rfl, beside_with_db beside ?_⟩
      rw [mutate_ledger_frame, mutate_ledger_frame]
      exact beside.services.rows

theorem beside_removed {event : EstateEvent Cost} (beside : Beside removed away whole part)
    (wholeKept : EstateKept away spared whole)
    (wholeApart : StaysApart removed away spared whole event)
    (isLeftOut : isRemoved removed event = true)
    (stepped : estateStep deployment tiers whole event = some next) :
    Beside removed away next part := by
  cases event with
  | budget event =>
      have alike := beside.services
      simp only [estateStep] at stepped
      split at stepped
      · cases stepped
      · obtain ⟨metered, ran, isNext⟩ := Option.map_eq_some_iff.mp stepped
        subst isNext
        cases metered_outcome ran with
        | observed observed => cases isLeftOut
        | refused why => exact beside
        | arrived accepted arrived =>
            cases step_outcome arrived with
            | arrived free =>
                exact ⟨beside.tenancy, beside.usage, alike_removed alike isLeftOut rfl⟩
        | @moved caller stamp fault request point input after running read moved =>
            have removedCaller : removed caller = true := isLeftOut
            have wholeRunning : whole.calls caller = some (.refill request point) := running
            simp only [StaysApart, wholeRunning, removedCaller, if_true] at wholeApart
            exact ⟨beside.tenancy, beside.usage, advance_removed alike removedCaller
              wholeKept.borders running wholeApart.1 moved⟩
        | panicked running read stopped =>
            cases step_outcome stopped with
            | stopped stopping =>
                exact ⟨beside.tenancy, beside.usage, alike_removed alike isLeftOut rfl⟩
        | @elsewhere other after noRefill moved =>
            cases other with
            | stop caller =>
                cases step_outcome moved with
                | stopped stopping =>
                    exact ⟨beside.tenancy, beside.usage, alike_removed alike isLeftOut rfl⟩
            | _ => cases isLeftOut
  | _ => cases isLeftOut

end EstateSteps

theorem quiet_run {deployment : Deployment Cost} {tiers : List String} {engine : PolicyEngine}
    {removed : Nat → Bool} {away : String → Bool} {spared : Spared}
    {events : List (EstateEvent Cost)} {last : Estate Cost}
    (met : Meets (estateStep deployment tiers) (StaysApart removed away spared)
      (Estate.initial engine) events)
    (quietMet : Meets (estateStep deployment tiers) (StaysApart removed away spared)
      (Estate.initial engine) (events.filter fun event => !isRemoved removed event))
    (ran : runFrom (estateStep deployment tiers) (Estate.initial engine) events = some last) :
    ∃ quiet, runFrom (estateStep deployment tiers) (Estate.initial engine)
        (events.filter fun event => !isRemoved removed event) = some quiet ∧
      Beside removed away last quiet ∧ EstateKept away spared last ∧
      EstateKept away spared quiet := by
  have start : EstateKept away spared (Estate.initial engine : Estate Cost) :=
    ⟨initial_borders_kept (near away) [] [] engine, by simp [Estate.initial, Estate.db,
      MeteredWorld.initial, World.initial, BudgetDb.empty], by simp [Estate.initial, Estate.db,
      MeteredWorld.initial, World.initial, BudgetDb.empty]⟩
  refine run_filtered_meets (fun event => !isRemoved removed event)
    (fun whole part => Beside removed away whole part ∧ EstateKept away spared whole ∧
      EstateKept away spared part) ?_ ?_ ⟨⟨rfl, rfl, rfl, rfl, fun _ _ => rfl⟩, start, start⟩
    met quietMet ran
  · intro whole part event next related wholeApart partApart isKept stepped
    obtain ⟨beside, wholeKept, partKept⟩ := related
    obtain ⟨moved, partStepped, still⟩ := beside_step beside wholeKept partKept wholeApart
      partApart (by simpa using isKept) stepped
    exact ⟨moved, partStepped, still, estate_kept_step wholeKept wholeApart stepped,
      estate_kept_step partKept partApart partStepped⟩
  · intro whole part event next related wholeApart isLeftOut stepped
    obtain ⟨beside, wholeKept, partKept⟩ := related
    exact ⟨beside_removed beside wholeKept wholeApart (by simpa using isLeftOut) stepped,
      estate_kept_step wholeKept wholeApart stepped, partKept⟩

section Deletions

variable {away : String → Bool} {spared : Spared} {tenancy : TenancyDb} {db : BudgetDb}

theorem away_names_no_project (rows : SparesRows away spared db) {projectId : String}
    (isSpared : spared.projects projectId = true) :
    ¬ RefersToProject (partOf db away) projectId := by
  have unnamed : ∀ (accountId : String) (named : Option String),
      spared.spares accountId named = true → named ≠ some projectId := by
    intro accountId named spares isNamed
    simp [Spared.spares, isNamed, isSpared] at spares
  rintro (⟨row, member, isNamed⟩ | ⟨row, member, isNamed⟩)
  · obtain ⟨stored, isAway⟩ := List.mem_filter.mp member
    exact unnamed _ _ (rows.grants row stored isAway) isNamed
  · obtain ⟨stored, isAway⟩ := List.mem_filter.mp member
    exact unnamed _ _ (rows.requests row stored isAway) isNamed

theorem away_names_no_account (rows : SparesRows away spared db)
    (isNear : away spared.account = false) :
    ¬ RefersToAccount (partOf db away) spared.account := by
  have notFor : ∀ account, away account = true → account ≠ spared.account := by
    intro account isAway isSpared
    rw [isSpared, isNear] at isAway
    cases isAway
  have unnamed : ∀ (accountId : String) (named : Option String),
      spared.spares accountId named = true → accountId ≠ spared.account := by
    intro accountId named spares isNamed
    simp [Spared.spares, isNamed] at spares
  rintro (⟨row, member, isFor | isNamed⟩ | ⟨row, member, isFor⟩ | ⟨row, member, isFor | isNamed⟩)
  · exact notFor _ (List.mem_filter.mp member).2 isFor
  · obtain ⟨stored, isAway⟩ := List.mem_filter.mp member
    exact unnamed _ _ (rows.grants row stored isAway) isNamed
  · exact notFor _ (List.mem_filter.mp member).2 isFor
  · exact notFor _ (List.mem_filter.mp member).2 isFor
  · obtain ⟨stored, isAway⟩ := List.mem_filter.mp member
    exact unnamed _ _ (rows.requests row stored isAway) isNamed

end Deletions

def deletes (spared : Spared) : TenancyOp → Prop
  | .deleteAccountPermanently accountId => accountId = spared.account
  | .deleteProject projectId => spared.projects projectId = true
  | _ => False

theorem away_refuses_nothing {away : String → Bool} {spared : Spared} {tenancy : TenancyDb}
    {db : BudgetDb} {op : TenancyOp} (rows : SparesRows away spared db)
    (isNear : away spared.account = false)
    (covers : ∀ project ∈ tenancy.projects, project.accountId = spared.account →
      spared.projects project.id = true) (isDeletion : deletes spared op) :
    (refusingConstraint tenancy (partOf db away) op).isSome = false := by
  rw [Bool.eq_false_iff, ne_eq, refusing_constraint_iff]
  cases op with
  | deleteAccountPermanently accountId =>
      have isSpared : accountId = spared.account := isDeletion
      subst isSpared
      rintro (⟨project, member, owned, named⟩ | named)
      · exact away_names_no_project rows (covers project member owned) named
      · exact away_names_no_account rows isNear named
  | deleteProject projectId => exact away_names_no_project rows isDeletion
  | _ => cases isDeletion

theorem would_succeed_alike {removed : Nat → Bool} {away : String → Bool} {spared : Spared}
    {whole part : Estate Cost} {op : TenancyOp} (tiers : List String) (subject : String)
    (beside : Beside removed away whole part) (wholeKept : EstateKept away spared whole)
    (partKept : EstateKept away spared part) (isNear : away spared.account = false)
    (covers : ∀ project ∈ whole.tenancy.projects, project.accountId = spared.account →
      spared.projects project.id = true) (isDeletion : deletes spared op) :
    wouldSucceed tiers whole subject op = wouldSucceed tiers part subject op := by
  have decided : ∀ estate : Estate Cost, wouldSucceed tiers estate subject op =
      (operateReferenced tiers estate.tenancy estate.db subject op).toOption.isSome := by
    intro estate
    unfold wouldSucceed
    cases operateReferenced tiers estate.tenancy estate.db subject op with
    | error error => rfl
    | ok tenancy => rfl
  have alike : (refusingConstraint whole.tenancy whole.db op).isSome =
      (refusingConstraint whole.tenancy part.db op).isSome := by
    apply refused_alike beside.services.rows
    · intro refused
      have nothing := away_refuses_nothing wholeKept.spares isNear covers isDeletion
      exact absurd (nothing.symm.trans refused) Bool.false_ne_true
    · intro refused
      have nothing := away_refuses_nothing partKept.spares isNear covers isDeletion
      exact absurd (nothing.symm.trans refused) Bool.false_ne_true
  rw [decided, decided, beside.tenancy, operate_alike alike]

/-- The caller owns neither the subject's account nor the project and is not on the
project's roster. -/
def isOutsider (deployment : Deployment Cost) (tenancy : TenancyDb) (subject : String)
    (project : Project) (caller : Nat) : Bool :=
  (deployment.contextOf caller).id.any fun other =>
    other ≠ subject && other ≠ project.accountId && (memberRow tenancy project.id other).isNone

def belongings (tenancy : TenancyDb) (subject : String) : Spared where
  account := subject
  projects := fun projectId =>
    tenancy.projects.any fun project => project.accountId == subject && project.id == projectId

/-- Others cannot block a deletion, in every run in which the refills of outsiders
stay beyond a border that the subject's account is this side of, and name none of
the subject's belongings. -/
theorem outsiders_cannot_block_deletions (deployment : Deployment Cost) (tiers : List String)
    (engine : PolicyEngine) (events : List (EstateEvent Cost)) (last : Estate Cost)
    (subject : String) (project : Project) (away : String → Bool)
    (ran : runFrom (estateStep deployment tiers) (Estate.initial engine) events = some last)
    (stored : project ∈ last.tenancy.projects) (owned : project.accountId = subject)
    (isNear : away subject = false)
    (met : Meets (estateStep deployment tiers)
      (StaysApart (isOutsider deployment last.tenancy subject project) away
        (belongings last.tenancy subject)) (Estate.initial engine) events)
    (quietMet : Meets (estateStep deployment tiers)
      (StaysApart (isOutsider deployment last.tenancy subject project) away
        (belongings last.tenancy subject)) (Estate.initial engine)
      (events.filter fun event =>
        !isRemoved (isOutsider deployment last.tenancy subject project) event)) :
    ∃ quiet, runFrom (estateStep deployment tiers) (Estate.initial engine)
        (events.filter fun event =>
          !isRemoved (isOutsider deployment last.tenancy subject project) event) = some quiet ∧
      wouldSucceed tiers last subject (.deleteAccountPermanently subject) =
        wouldSucceed tiers quiet subject (.deleteAccountPermanently subject) ∧
      (project.isDefault = false →
        wouldSucceed tiers last subject (.deleteProject project.id) =
          wouldSucceed tiers quiet subject (.deleteProject project.id)) := by
  obtain ⟨quiet, quietRan, beside, wholeKept, partKept⟩ := quiet_run met quietMet ran
  have covers : ∀ other ∈ last.tenancy.projects, other.accountId = subject →
      (belongings last.tenancy subject).projects other.id = true := by
    intro other member isOwned
    exact List.any_eq_true.mpr ⟨other, member, by simp [isOwned]⟩
  refine ⟨quiet, quietRan, ?_, ?_⟩
  · exact would_succeed_alike tiers subject beside wholeKept partKept isNear covers rfl
  · intro _
    exact would_succeed_alike tiers subject beside wholeKept partKept isNear covers
      (covers project stored owned)

def sideProject : Project where
  id := "side"
  accountId := "alice"
  status := .active
  isDefault := false
  allowedModels := none
  modelPolicy := .allowAll

/-- Alice and Mallory have an account each, Alice two projects. -/
def settledTenancy : TenancyDb where
  accounts := [⟨"alice", .active⟩, ⟨"mallory", .active⟩]
  projects := [{ sideProject with id := "home", isDefault := true }, sideProject]
  members := []

def settling : List (EstateEvent Int) :=
  [.operate "alice" .createAccount, .operate "mallory" .createAccount,
    .operate "alice" (.createProject "home" "alice"),
    .operate "alice" (.createProject "side" "alice")]

def mallorysRefill (input : RequestBudgetRefillInput) : List (EstateEvent Int) :=
  (refillCall 0 input "r0" "g0" 2).map EstateEvent.budget

/-- The refill that names Alice's budget and her project. -/
def blockingInput : RequestBudgetRefillInput :=
  { refillInput "alice" "mallory" with projectId := some "side" }

def withoutOutsiders (tenancy : TenancyDb) (events : List (EstateEvent Int)) :
    List (EstateEvent Int) :=
  events.filter fun event =>
    !isRemoved (isOutsider sampleDeployment tenancy "alice" sideProject) event

/-- A run, and the same run without the refills of those who are outsiders to the
project of the subject's account. -/
structure ComparedRuns (deployment : Deployment Cost) (tiers : List String)
    (engine : PolicyEngine) (events : List (EstateEvent Cost)) (last quiet : Estate Cost)
    (subject : String) (project : Project) : Prop where
  ran : runFrom (estateStep deployment tiers) (Estate.initial engine) events = some last
  stored : project ∈ last.tenancy.projects
  owned : project.accountId = subject
  quietRan : runFrom (estateStep deployment tiers) (Estate.initial engine)
    (events.filter fun event =>
      !isRemoved (isOutsider deployment last.tenancy subject project) event) = some quiet

/-- One refill of Mallory's that names Alice's budget and project keeps Alice from
deleting either. -/
theorem outsiders_refill_blocks_deletions :
    (¬ ∀ (tiers : List String) (engine : PolicyEngine) (events : List (EstateEvent Int))
        (last quiet : Estate Int) (subject : String) (project : Project),
        ComparedRuns sampleDeployment tiers engine events last quiet subject project →
        wouldSucceed tiers last subject (.deleteAccountPermanently subject) =
          wouldSucceed tiers quiet subject (.deleteAccountPermanently subject)) ∧
    ¬ ∀ (tiers : List String) (engine : PolicyEngine) (events : List (EstateEvent Int))
        (last quiet : Estate Int) (subject : String) (project : Project),
        ComparedRuns sampleDeployment tiers engine events last quiet subject project →
        project.isDefault = false →
        wouldSucceed tiers last subject (.deleteProject project.id) =
          wouldSucceed tiers quiet subject (.deleteProject project.id) := by
  have blocked : reaches (estateStep sampleDeployment []) (Estate.initial defaultEngine)
      (settling ++ mallorysRefill blockingInput)
      (fun last => last.tenancy == settledTenancy &&
        !wouldSucceed [] last "alice" (.deleteAccountPermanently "alice") &&
        !wouldSucceed [] last "alice" (.deleteProject "side")) = true := by
    decide +kernel
  have free : reaches (estateStep sampleDeployment []) (Estate.initial defaultEngine)
      (withoutOutsiders settledTenancy (settling ++ mallorysRefill blockingInput))
      (fun quiet => wouldSucceed [] quiet "alice" (.deleteAccountPermanently "alice") &&
        wouldSucceed [] quiet "alice" (.deleteProject "side")) = true := by
    decide +kernel
  obtain ⟨last, ran, outcome⟩ := exists_of_reaches blocked
  obtain ⟨quiet, quietRan, quietOutcome⟩ := exists_of_reaches free
  simp only [Bool.and_eq_true, beq_iff_eq, Bool.not_eq_true'] at outcome quietOutcome
  obtain ⟨⟨isSettled, accountKept⟩, projectKept⟩ := outcome
  have compared : ComparedRuns sampleDeployment [] defaultEngine
      (settling ++ mallorysRefill blockingInput) last quiet "alice" sideProject := by
    refine ⟨ran, ?_, rfl, ?_⟩
    · rw [isSettled]
      decide
    · rw [isSettled]
      exact quietRan
  constructor
  · intro claimed
    have same := claimed _ _ _ _ _ _ _ compared
    rw [accountKept, quietOutcome.1] at same
    cases same
  · intro claimed
    have same : wouldSucceed [] last "alice" (.deleteProject "side") =
        wouldSucceed [] quiet "alice" (.deleteProject "side") :=
      claimed _ _ _ _ _ _ _ compared rfl
    rw [projectKept, quietOutcome.2] at same
    cases same

/-- Mallory's refill of her own budget is in nobody's way. -/
theorem own_refill_blocks_nothing :
    ∃ last quiet, runFrom (estateStep sampleDeployment []) (Estate.initial defaultEngine)
        (settling ++ mallorysRefill (refillInput "mallory" "mallory")) = some last ∧
      last.db.grants.length = 1 ∧
      runFrom (estateStep sampleDeployment []) (Estate.initial defaultEngine)
        (withoutOutsiders last.tenancy
          (settling ++ mallorysRefill (refillInput "mallory" "mallory"))) = some quiet ∧
      wouldSucceed [] last "alice" (.deleteAccountPermanently "alice") = true ∧
      wouldSucceed [] last "alice" (.deleteAccountPermanently "alice") =
        wouldSucceed [] quiet "alice" (.deleteAccountPermanently "alice") ∧
      wouldSucceed [] last "alice" (.deleteProject "side") =
        wouldSucceed [] quiet "alice" (.deleteProject "side") := by
  have free : reaches (estateStep sampleDeployment []) (Estate.initial defaultEngine)
      (settling ++ mallorysRefill (refillInput "mallory" "mallory"))
      (fun last => last.tenancy == settledTenancy && last.db.grants.length == 1 &&
        wouldSucceed [] last "alice" (.deleteAccountPermanently "alice")) = true := by
    decide +kernel
  obtain ⟨last, ran, outcome⟩ := exists_of_reaches free
  simp only [Bool.and_eq_true, beq_iff_eq] at outcome
  obtain ⟨⟨isSettled, granted⟩, deletable⟩ := outcome
  obtain ⟨quiet, quietRan, sameAccount, sameProject⟩ := outsiders_cannot_block_deletions
    sampleDeployment [] defaultEngine _ last "alice" sideProject
    (fun account => account = "mallory") ran (by rw [isSettled]; decide) rfl (by decide)
    (by rw [isSettled]; decide +kernel) (by rw [isSettled]; decide +kernel)
  exact ⟨last, quiet, ran, granted, quietRan, deletable, sameAccount, sameProject rfl⟩

end LightbridgeAuthz.Budget.QuietRuns
