import LightbridgeAuthz.Access.TenancyOps
import LightbridgeAuthz.ApiKeys.KeyCalls
import LightbridgeAuthz.Library.CallSlots

/-!
# Rosters and keys, statement by statement

A roster operation asks for ownership, then for the caller's role, and then
writes: three statements on the pool, with nothing that holds the answer of the
first two until the third. Key calls run beside them as `KeyCalls` has them, and
the other operations on accounts and projects are one statement or one
transaction each; a deletion takes the keys of what it deletes with it.
-/

namespace LightbridgeAuthz.ApiKeys.RosterCalls

open Library.EventRun Library.KeyedRows Library.CallSlots
open Access.Tenancy Access.TenancyOps
open KeyTable KeyCalls

set_option autoImplicit false

inductive RosterPoint where
  | authorizeOwner
  | authorizeLead
  | write
  | readBack
  | returned (answer : Except AccessError Project)
  deriving Repr

structure RosterCall where
  subject : String
  projectId : String
  target : String
  write : RosterWrite
  point : RosterPoint
  deriving Repr

structure RosterWorld where
  base : KeyWorld
  calls : List RosterCall

inductive RosterEvent where
  | key (event : KeyEvent)
  | operate (subject : String) (op : TenancyOp)
  | arrive (subject projectId target : String) (request : RosterRequest)
  | advance (slot : Nat)

def rosterMove (tenancy : TenancyDb) (call : RosterCall) : Option (TenancyDb × RosterPoint) :=
  match call.point with
  | .authorizeOwner =>
      match authorizeOwner tenancy call.projectId call.subject with
      | .error error => some (tenancy, .returned (.error error))
      | .ok (some ()) => some (tenancy, .write)
      | .ok none => some (tenancy, .authorizeLead)
  | .authorizeLead =>
      match authorizeLead tenancy call.projectId call.subject with
      | .error error => some (tenancy, .returned (.error error))
      | .ok () => some (tenancy, .write)
  | .write =>
      match applyRosterWrite tenancy call.projectId call.target call.write with
      | .error error => some (tenancy, .returned (.error error))
      | .ok next => some (next, .readBack)
  | .readBack =>
      match getProjectById tenancy call.projectId with
      | none => some (tenancy, .returned (.error .notFound))
      | some project => some (tenancy, .returned (.ok project))
  | .returned _ => none

/-- `ON DELETE CASCADE` to `api_keys`. -/
def cascadeKeys (tenancy : TenancyDb) (keys : List ApiKeyRow) : List ApiKeyRow :=
  keys.filter fun row =>
    (getProjectById tenancy row.projectId).isSome &&
      (getAccountById tenancy row.ownerAccountId).isSome

def withTenancy (world : RosterWorld) (tenancy : TenancyDb) : RosterWorld :=
  { world with base := { world.base with tenancy := tenancy } }

/-- One event. The tables of tenants change through the operations and the roster
calls only. -/
def rosterStep (tiers : List String) (config : KeyConfig) (world : RosterWorld) :
    RosterEvent → Option RosterWorld
  | .key (.changeTenancy _) => none
  | .key event => (keyStep config world.base event).map fun base => { world with base := base }
  | .operate _ (.roster _ _ _) => none
  | .operate subject op =>
      match operate tiers world.base.tenancy subject op with
      | .error _ => some world
      | .ok tenancy =>
          some { world with
            base := { world.base with
              tenancy := tenancy
              keys := cascadeKeys tenancy world.base.keys } }
  | .arrive subject projectId target request =>
      match rosterWrite tiers request with
      | .error _ => some world
      | .ok write =>
          some { world with
            calls := world.calls ++ [⟨subject, projectId, target, write, .authorizeOwner⟩] }
  | .advance slot =>
      match world.calls[slot]? with
      | none => none
      | some call =>
          (rosterMove world.base.tenancy call).map fun moved =>
            { withTenancy world moved.1 with
              calls := world.calls.set slot { call with point := moved.2 } }

inductive RosterChange (tiers : List String) (config : KeyConfig) (world : RosterWorld) :
    RosterEvent → RosterWorld → Prop where
  | refused (event : RosterEvent) : RosterChange tiers config world event world
  | keyed {event : KeyEvent} {base : KeyWorld}
      (stepped : keyStep config world.base event = some base)
      (sameTenancy : base.tenancy = world.base.tenancy) :
      RosterChange tiers config world (.key event) { world with base := base }
  | operated {subject : String} {op : TenancyOp} {tenancy : TenancyDb}
      (notRoster : ∀ projectId target request, op ≠ .roster projectId target request)
      (done : operate tiers world.base.tenancy subject op = .ok tenancy) :
      RosterChange tiers config world (.operate subject op)
        { world with
          base := { world.base with
            tenancy := tenancy
            keys := cascadeKeys tenancy world.base.keys } }
  | arrived {subject projectId target : String} {request : RosterRequest} {write : RosterWrite}
      (checked : rosterWrite tiers request = .ok write) :
      RosterChange tiers config world (.arrive subject projectId target request)
        { world with
          calls := world.calls ++ [⟨subject, projectId, target, write, .authorizeOwner⟩] }
  | moved {slot : Nat} {call : RosterCall} {point : RosterPoint}
      (running : world.calls[slot]? = some call)
      (reads : rosterMove world.base.tenancy call = some (world.base.tenancy, point)) :
      RosterChange tiers config world (.advance slot)
        { world with calls := world.calls.set slot { call with point := point } }
  | wrote {slot : Nat} {call : RosterCall} {tenancy : TenancyDb}
      (running : world.calls[slot]? = some call) (stands : call.point = .write)
      (written : applyRosterWrite world.base.tenancy call.projectId call.target call.write =
        .ok tenancy) :
      RosterChange tiers config world (.advance slot)
        { withTenancy world tenancy with
          calls := world.calls.set slot { call with point := .readBack } }

theorem roster_move_cases {tenancy next : TenancyDb} {call : RosterCall} {point : RosterPoint}
    (moved : rosterMove tenancy call = some (next, point)) :
    next = tenancy ∨
      (call.point = .write ∧ point = .readBack ∧
        applyRosterWrite tenancy call.projectId call.target call.write = .ok next) := by
  obtain ⟨subject, projectId, target, write, stands⟩ := call
  cases stands with
  | authorizeOwner =>
      simp only [rosterMove] at moved
      split at moved <;> cases moved <;> exact Or.inl rfl
  | authorizeLead =>
      simp only [rosterMove] at moved
      split at moved <;> cases moved <;> exact Or.inl rfl
  | write =>
      simp only [rosterMove] at moved
      split at moved
      · cases moved
        exact Or.inl rfl
      · rename_i written
        cases moved
        exact Or.inr ⟨rfl, rfl, written⟩
  | readBack =>
      simp only [rosterMove] at moved
      split at moved <;> cases moved <;> exact Or.inl rfl
  | returned answer => cases moved

theorem roster_change {tiers : List String} {config : KeyConfig} {world next : RosterWorld}
    {event : RosterEvent} (stepped : rosterStep tiers config world event = some next) :
    RosterChange tiers config world event next := by
  cases event with
  | key event =>
      have notTenancy : ∀ tenancy, event ≠ .changeTenancy tenancy := by
        intro tenancy isChange
        rw [isChange] at stepped
        cases stepped
      have mapped : (keyStep config world.base event).map
          (fun base => { world with base := base }) = some next := by
        cases event with
        | changeTenancy tenancy => cases stepped
        | _ => exact stepped
      obtain ⟨base, moved, isNext⟩ := Option.map_eq_some_iff.mp mapped
      subst isNext
      refine .keyed moved ?_
      rcases step_surroundings moved with ⟨_, _, isBase⟩ | ⟨tenancy, isChange, _⟩ | ⟨_, same⟩
      · rw [isBase]
      · exact absurd isChange (notTenancy tenancy)
      · exact same
  | operate subject op =>
      have notRoster : ∀ projectId target request, op ≠ .roster projectId target request := by
        intro projectId target request isRoster
        rw [isRoster] at stepped
        cases stepped
      have ran : (match operate tiers world.base.tenancy subject op with
          | .error _ => some world
          | .ok tenancy =>
              some { world with
                base := { world.base with
                  tenancy := tenancy
                  keys := cascadeKeys tenancy world.base.keys } }) = some next := by
        cases op with
        | roster projectId target request => cases stepped
        | _ => exact stepped
      split at ran
      · cases ran
        exact .refused _
      · rename_i done
        cases ran
        exact .operated notRoster done
  | arrive subject projectId target request =>
      simp only [rosterStep] at stepped
      split at stepped
      · cases stepped
        exact .refused _
      · rename_i checked
        cases stepped
        exact .arrived checked
  | advance slot =>
      simp only [rosterStep] at stepped
      split at stepped
      · cases stepped
      · rename_i call running
        obtain ⟨⟨tenancy, point⟩, moved, isNext⟩ := Option.map_eq_some_iff.mp stepped
        subst isNext
        rcases roster_move_cases moved with same | ⟨stands, isPoint, written⟩
        · subst same
          exact .moved running moved
        · subst isPoint
          exact .wrote running stands written

def plannedRow : CreatePoint → Option ApiKeyRow
  | .authorizeOwner row => some row
  | .authorizeLead row => some row
  | .insert row => some row
  | _ => none

theorem create_move_planned {config : KeyConfig} {base : KeyWorld}
    {request : CreateRequest} {input : IssueInput} {before point : CreatePoint}
    {keys : List ApiKeyRow}
    {row : ApiKeyRow}
    (moved : createMove config base request input before = some (keys, point))
    (planned : plannedRow point = some row) :
    plannedRow before = some row ∨
      (row.projectId = request.projectId ∧ row.ownerAccountId = request.subject) := by
  cases before with
  | issue =>
      simp only [createMove] at moved
      split at moved
      · cases moved
        cases planned
      · rename_i made isMade
        cases moved
        cases planned
        obtain ⟨_, _, _, _, issued⟩ := plan_creation_parts isMade
        exact Or.inr ⟨issued.project, issued.owner⟩
  | authorizeOwner stored =>
      simp only [createMove] at moved
      split at moved <;> cases moved
      · cases planned
      · exact Or.inl planned
      · exact Or.inl planned
  | authorizeLead stored =>
      simp only [createMove] at moved
      split at moved <;> cases moved
      · cases planned
      · exact Or.inl planned
  | insert stored =>
      simp only [createMove] at moved
      split at moved <;> cases moved <;> cases planned
  | returned answer => cases moved

def sampleKeyConfig : KeyConfig := ⟨fun secret => "hash of " ++ secret, 90, ["standard"]⟩

/-- A project with one lead on its roster, whose tier bounds them. -/
def sampleRoster : RosterWorld :=
  { base :=
      { tenancy :=
          { accounts := [⟨"owner", .active⟩, ⟨"lead", .active⟩]
            projects := [⟨"shared", "owner", .active, false, none, .allowAll⟩]
            members := [⟨"shared", "lead", .lead, some "small"⟩] }
        keys := []
        clock := 0
        calls := fun _ => none }
    calls := [] }

end LightbridgeAuthz.ApiKeys.RosterCalls
