import LightbridgeAuthz.Budget.ServiceWrites
import LightbridgeAuthz.Sessions.TokenGrants

/-!
# The procedure `requestBudgetRefill` and the spend it is decided on

`ServiceWorld` takes a refill's request and its spend facts from outside. Here
the request comes from a caller through `Procedures::request_budget_refill`, and
the spend from the rows of `usage_events`, so that the three identities of a
call (the caller, the budget account, the account whose spend is read) are all
in the model. `SUM(total_cost)` and its conversion to micro-USD are floating
point: `totalMicros` stands for both.
-/

namespace LightbridgeAuthz.Budget.RefillProcedure

open Library.EventRun
open Domain GrantLedger AugmentationRequests RuleData ServiceWorld ServiceSteps
open Sessions.RefreshTokens (parseDigits parseI64)
open Sessions.TokenGrants (trim)

set_option autoImplicit false

/-- The fields of the batch-envelope context the procedure and its policy
read; `id` is the JWT subject. -/
structure CallContext where
  authenticated : Bool
  id : Option String
  rpcScope : String
  permBudgetSelfRefill : Bool
  deriving DecidableEq, Repr

structure RequestBudgetRefillInput where
  budgetAccountId : String
  accountId : String
  projectId : Option String
  period : String
  idempotencyKey : Option String
  requestedAmountMicros : String
  deriving DecidableEq, Repr

inductive ProcedureError where
  | forbidden
  | unauthorized (text : String)
  | badRequest (text : String)
  deriving DecidableEq, Repr

/-- The `@allow` clause of `requestBudgetRefill`. -/
def allowsSelfRefill (context : CallContext) : Bool :=
  context.authenticated && context.rpcScope == "budget" && context.permBudgetSelfRefill

/-- `Procedures::request_budget_refill`, up to the call of the service. The
subject has to be there, and is then dropped. -/
def requestBudgetRefill (context : CallContext) (input : RequestBudgetRefillInput)
    (now : Instant) : Except ProcedureError RefillRequest :=
  if allowsSelfRefill context = false then .error .forbidden
  else
    match context.id with
    | none => .error (.unauthorized "missing subject")
    | some _subject =>
        match Period.parse input.period with
        | .error _ =>
            .error (.badRequest ("invalid period, expected YYYY-MM: " ++ input.period))
        | .ok period =>
            match parseI64 (trim input.requestedAmountMicros) with
            | none =>
                .error (.badRequest ("requestedAmountMicros must be a valid integer, got '" ++
                  trim input.requestedAmountMicros ++ "'"))
            | some requestedAmountMicros =>
                .ok
                  { budgetAccountId := input.budgetAccountId
                    accountId := input.accountId
                    projectId := input.projectId
                    period := period
                    idempotencyKey := input.idempotencyKey
                    asOf := now
                    requestedAmountMicros := requestedAmountMicros }

def Period.year (period : Period) : Nat := (parseDigits (period.text.toList.take 4)).getD 0

def Period.month (period : Period) : Nat := (parseDigits (period.text.toList.drop 5)).getD 0

/-- `{value:0width$}`. -/
def zeroPadded (width value : Nat) : String :=
  let digits := (Nat.toDigits 10 value)
  String.ofList (List.replicate (width - digits.length) '0' ++ digits)

def Period.fromYmd (year month : Nat) : Option Period :=
  (Period.parse (zeroPadded 4 year ++ "-" ++ zeroPadded 2 month)).toOption

/-- `Period::previous`: `0000-01` has none, the subtraction of the year
underflows and the call panics. -/
def Period.previous (period : Period) : Option Period :=
  if Period.month period = 1 then
    if Period.year period = 0 then none else Period.fromYmd (Period.year period - 1) 12
  else Period.fromYmd (Period.year period) (Period.month period - 1)

/-- It stands for chrono's midnight of the first of a month, in the proleptic Gregorian
calendar. The year is counted from March, so that the leap day ends it. -/
def monthStart (year month : Nat) : Instant :=
  let marchYear : Int := if month ≤ 2 then (year : Int) - 1 else year
  let marchMonth : Int := if month ≤ 2 then (month : Int) + 9 else (month : Int) - 3
  let leapDays := marchYear / 4 - marchYear / 100 + marchYear / 400
  let days := 365 * marchYear + leapDays + (153 * marchMonth + 2) / 5 - 719468
  days * 86400000000

def periodBoundsUtc (period : Period) : Instant × Instant :=
  let year := Period.year period
  let month := Period.month period
  (monthStart year month,
    if month = 12 then monthStart (year + 1) 1 else monthStart year (month + 1))

/-- The columns of `usage_events` the spend query reads. -/
structure UsageEvent (Cost : Type) where
  accountId : Option String
  observedAt : Instant
  totalCost : Cost
  deriving DecidableEq, Repr

/-- What a deployment fixes: the lock's hash, the sum of costs in micro-USD
(`none` where `cost_to_micros` refuses it), and who makes each call. -/
structure Deployment (Cost : Type) where
  lockKey : String → Int64
  totalMicros : List Cost → Option Int64
  contextOf : Nat → CallContext

variable {Cost : Type}

/-- `UsageServiceSpendReader::spend_for_account`: a failed request, the `SUM` of
no rows and an unusable sum are all unavailable. -/
def spendForAccount (totalMicros : List Cost → Option Int64) (usage : List (UsageEvent Cost))
    (fault : Option Fault) (accountId : String) (period : Period) : Spend :=
  match fault with
  | some _ => .unavailable
  | none =>
      let bounds := periodBoundsUtc period
      let costs := (usage.filter fun event =>
        event.accountId = some accountId ∧ bounds.1 ≤ event.observedAt ∧
          event.observedAt < bounds.2).map UsageEvent.totalCost
      if costs.isEmpty then .unavailable
      else
        match totalMicros costs with
        | some micros => .known micros
        | none => .unavailable

/-- What a refill's next step takes from outside, `none` where it panics. The
spend reader never fails, and no other step looks at the spend. -/
def stepInput (deployment : Deployment Cost) (usage : List (UsageEvent Cost))
    (request : RefillRequest) (stamp : Stamp) (fault : Option Fault) :
    RefillPoint → Option StepInput
  | .readSpendThisPeriod _ _ _ =>
      some
        { stamp := stamp
          spend := spendForAccount deployment.totalMicros usage fault request.accountId
            request.period
          fault := none }
  | .readSpendLastPeriod _ _ _ _ =>
      (Period.previous request.period).map fun period =>
        { stamp := stamp
          spend := spendForAccount deployment.totalMicros usage fault request.accountId period
          fault := none }
  | _ => some { stamp := stamp, spend := .unavailable, fault := fault }

theorem step_input_stamp {deployment : Deployment Cost} {usage : List (UsageEvent Cost)}
    {request : RefillRequest} {stamp : Stamp} {fault : Option Fault} {point : RefillPoint}
    {input : StepInput}
    (read : stepInput deployment usage request stamp fault point = some input) :
    input.stamp = stamp := by
  cases point with
  | readSpendLastPeriod id balance count spend =>
      simp only [stepInput, Option.map_eq_some_iff] at read
      obtain ⟨period, _, isInput⟩ := read
      rw [← isInput]
  | _ =>
      simp only [stepInput, Option.some.injEq] at read
      rw [← read]

structure MeteredWorld (Cost : Type) where
  service : World
  usage : List (UsageEvent Cost)

def MeteredWorld.initial (accounts projects : List String) (engine : PolicyEngine) :
    MeteredWorld Cost where
  service := World.initial accounts projects engine
  usage := []

/-- `elsewhere` is everything else the service does: reviews, admin grants and
revocations, engine swaps and stopped calls. -/
inductive MeteredEvent (Cost : Type) where
  | requestBudgetRefill (caller : Nat) (input : RequestBudgetRefillInput) (now : Instant)
  | advance (caller : Nat) (stamp : Stamp) (fault : Option Fault)
  | observe (event : UsageEvent Cost)
  | elsewhere (event : Event)

/-- Whether an event would start or move a refill around the procedure. -/
def movesRefill (world : World) : Event → Bool
  | .arrive _ (.refill _) => true
  | .advance caller _ =>
      match world.calls caller with
      | some (.refill _ _) => true
      | _ => false
  | _ => false

/-- The event of the service below, `none` where a refused request reaches
none. -/
def serviceEvent (deployment : Deployment Cost) (world : MeteredWorld Cost) :
    MeteredEvent Cost → Option Event
  | .requestBudgetRefill caller input now =>
      match requestBudgetRefill (deployment.contextOf caller) input now with
      | .error _ => none
      | .ok request => some (.arrive caller (.refill request))
  | .advance caller stamp fault =>
      match world.service.calls caller with
      | some (.refill request point) =>
          match stepInput deployment world.usage request stamp fault point with
          | some input => some (.advance caller input)
          | none => some (.stop caller)
      | _ => none
  | .observe _ => none
  | .elsewhere event => some event

def meteredStep (deployment : Deployment Cost) (world : MeteredWorld Cost)
    (event : MeteredEvent Cost) : Option (MeteredWorld Cost) :=
  match event with
  | .observe observed => some { world with usage := world.usage ++ [observed] }
  | .requestBudgetRefill _ _ _ =>
      match serviceEvent deployment world event with
      | none => some world
      | some arrival =>
          (step deployment.lockKey world.service arrival).map fun next =>
            { world with service := next }
  | .advance _ _ _ =>
      (serviceEvent deployment world event).bind fun moved =>
        (step deployment.lockKey world.service moved).map fun next =>
          { world with service := next }
  | .elsewhere other =>
      if movesRefill world.service other then none
      else
        (step deployment.lockKey world.service other).map fun next =>
          { world with service := next }

/-- Everything an event does: it changes the usage alone, nothing at all, or it
is one event of the service. -/
inductive MeteredOutcome (deployment : Deployment Cost) (world : MeteredWorld Cost) :
    MeteredEvent Cost → MeteredWorld Cost → Prop where
  | observed (event : UsageEvent Cost) :
      MeteredOutcome deployment world (.observe event)
        { world with usage := world.usage ++ [event] }
  | refused {caller : Nat} {input : RequestBudgetRefillInput} {now : Instant}
      {error : ProcedureError}
      (why : requestBudgetRefill (deployment.contextOf caller) input now = .error error) :
      MeteredOutcome deployment world (.requestBudgetRefill caller input now) world
  | arrived {caller : Nat} {input : RequestBudgetRefillInput} {now : Instant}
      {request : RefillRequest} {next : World}
      (accepted : requestBudgetRefill (deployment.contextOf caller) input now = .ok request)
      (stepped : step deployment.lockKey world.service (.arrive caller (.refill request)) =
        some next) :
      MeteredOutcome deployment world (.requestBudgetRefill caller input now)
        { world with service := next }
  | moved {caller : Nat} {stamp : Stamp} {fault : Option Fault} {request : RefillRequest}
      {point : RefillPoint} {input : StepInput} {next : World}
      (running : world.service.calls caller = some (.refill request point))
      (read : stepInput deployment world.usage request stamp fault point = some input)
      (stepped : step deployment.lockKey world.service (.advance caller input) = some next) :
      MeteredOutcome deployment world (.advance caller stamp fault)
        { world with service := next }
  | panicked {caller : Nat} {stamp : Stamp} {fault : Option Fault} {request : RefillRequest}
      {point : RefillPoint} {next : World}
      (running : world.service.calls caller = some (.refill request point))
      (read : stepInput deployment world.usage request stamp fault point = none)
      (stepped : step deployment.lockKey world.service (.stop caller) = some next) :
      MeteredOutcome deployment world (.advance caller stamp fault)
        { world with service := next }
  | elsewhere {event : Event} {next : World}
      (noRefill : movesRefill world.service event = false)
      (stepped : step deployment.lockKey world.service event = some next) :
      MeteredOutcome deployment world (.elsewhere event) { world with service := next }

theorem metered_outcome {deployment : Deployment Cost} {world next : MeteredWorld Cost}
    {event : MeteredEvent Cost} (stepped : meteredStep deployment world event = some next) :
    MeteredOutcome deployment world event next := by
  cases event with
  | observe observed =>
      cases stepped
      exact .observed observed
  | requestBudgetRefill caller input now =>
      simp only [meteredStep, serviceEvent] at stepped
      cases asked : requestBudgetRefill (deployment.contextOf caller) input now with
      | error error =>
          simp only [asked] at stepped
          cases stepped
          exact .refused asked
      | ok request =>
          simp only [asked] at stepped
          obtain ⟨service, arrived, isNext⟩ := Option.map_eq_some_iff.mp stepped
          subst isNext
          exact .arrived asked arrived
  | advance caller stamp fault =>
      simp only [meteredStep, serviceEvent] at stepped
      split at stepped
      · rename_i request point running
        cases read : stepInput deployment world.usage request stamp fault point with
        | none =>
            simp only [read, Option.bind_some] at stepped
            obtain ⟨service, stopped, isNext⟩ := Option.map_eq_some_iff.mp stepped
            subst isNext
            exact .panicked running read stopped
        | some input =>
            simp only [read, Option.bind_some] at stepped
            obtain ⟨service, moved, isNext⟩ := Option.map_eq_some_iff.mp stepped
            subst isNext
            exact .moved running read moved
      · cases stepped
  | elsewhere other =>
      simp only [meteredStep] at stepped
      split at stepped
      · cases stepped
      · rename_i noRefill
        obtain ⟨service, moved, isNext⟩ := Option.map_eq_some_iff.mp stepped
        subst isNext
        exact .elsewhere (by simpa using noRefill) moved

end LightbridgeAuthz.Budget.RefillProcedure
