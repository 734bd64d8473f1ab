import Mathlib.Tactic.Common

/-!
# Runs of a partial step function

A system is a partial step function on states: `none` says that the event is
not enabled where it stands (a blocked lock, a finished call). A run folds the
function over a list of events. The rules below lift what one step preserves
to what a whole run preserves, also when the run only takes steps that meet a
condition on the state before the step.
-/

namespace LightbridgeAuthz.Library.EventRun

set_option autoImplicit false

variable {State Event : Type*}

def runFrom (step : State → Event → Option State) : State → List Event → Option State
  | state, [] => some state
  | state, event :: rest => (step state event).bind fun next => runFrom step next rest

/-- Every step of the run meets `condition` in the state it is taken from. An
event that is not enabled ends the run, so nothing is asked after it. -/
def Meets (step : State → Event → Option State) (condition : State → Event → Prop) :
    State → List Event → Prop
  | _, [] => True
  | state, event :: rest =>
      condition state event ∧
        match step state event with
        | none => True
        | some next => Meets step condition next rest

instance decidableMeets (step : State → Event → Option State)
    (condition : State → Event → Prop) [∀ state event, Decidable (condition state event)] :
    ∀ (state : State) (events : List Event), Decidable (Meets step condition state events)
  | _, [] => isTrue trivial
  | state, event :: rest =>
      have : Decidable
          (match step state event with
            | none => True
            | some next => Meets step condition next rest) :=
        match step state event with
        | none => isTrue trivial
        | some next => decidableMeets step condition next rest
      inferInstanceAs (Decidable (_ ∧ _))

variable {step : State → Event → Option State} {condition : State → Event → Prop}

theorem run_cons_some {state last : State} {event : Event} {rest : List Event}
    (ran : runFrom step state (event :: rest) = some last) :
    ∃ next, step state event = some next ∧ runFrom step next rest = some last := by
  simpa [runFrom, Option.bind_eq_some_iff] using ran

theorem run_append_some {state last : State} {before after : List Event}
    (ran : runFrom step state (before ++ after) = some last) :
    ∃ middle, runFrom step state before = some middle ∧
      runFrom step middle after = some last := by
  induction before generalizing state with
  | nil => exact ⟨state, rfl, ran⟩
  | cons event rest ih =>
      obtain ⟨next, stepped, tail⟩ := run_cons_some ran
      obtain ⟨middle, front, back⟩ := ih tail
      exact ⟨middle, by simpa [runFrom, stepped] using front, back⟩

theorem run_append {state middle last : State} {before after : List Event}
    (front : runFrom step state before = some middle)
    (back : runFrom step middle after = some last) :
    runFrom step state (before ++ after) = some last := by
  induction before generalizing state with
  | nil =>
      have same : state = middle := by simpa [runFrom] using front
      rw [same]
      exact back
  | cons event rest ih =>
      obtain ⟨next, stepped, tail⟩ := run_cons_some front
      have later := ih tail
      simpa [runFrom, stepped] using later

theorem meets_cons_some {state next : State} {event : Event} {rest : List Event}
    (met : Meets step condition state (event :: rest))
    (stepped : step state event = some next) :
    condition state event ∧ Meets step condition next rest := by
  refine ⟨met.1, ?_⟩
  have later := met.2
  simpa only [stepped] using later

theorem meets_append_some {state middle : State} {before after : List Event}
    (met : Meets step condition state (before ++ after))
    (ran : runFrom step state before = some middle) :
    Meets step condition state before ∧ Meets step condition middle after := by
  induction before generalizing state with
  | nil =>
      have same : state = middle := by simpa [runFrom] using ran
      exact ⟨trivial, by simpa [same] using met⟩
  | cons event rest ih =>
      obtain ⟨next, stepped, tail⟩ := run_cons_some ran
      obtain ⟨now, later⟩ := meets_cons_some met stepped
      obtain ⟨front, back⟩ := ih later tail
      exact ⟨⟨now, by simpa only [stepped] using front⟩, back⟩

theorem meets_of_forall_mem {state : State} {events : List Event}
    (each : ∀ event ∈ events, ∀ current, condition current event) :
    Meets step condition state events := by
  induction events generalizing state with
  | nil => trivial
  | cons event rest ih =>
      refine ⟨each event List.mem_cons_self state, ?_⟩
      cases step state event with
      | none => trivial
      | some next => exact ih fun later member => each later (List.mem_cons_of_mem _ member)

theorem meets_of_invariant {weaker : State → Event → Prop} (invariant : State → Prop)
    (preserve : ∀ state event next, invariant state → weaker state event →
      step state event = some next → invariant next)
    (implies : ∀ current event, invariant current → weaker current event →
      condition current event)
    {state : State} {events : List Event} (start : invariant state)
    (met : Meets step weaker state events) : Meets step condition state events := by
  induction events generalizing state with
  | nil => trivial
  | cons event rest ih =>
      refine ⟨implies state event start met.1, ?_⟩
      cases stepped : step state event with
      | none => trivial
      | some next =>
          exact ih (preserve state event next start met.1 stepped)
            (meets_cons_some met stepped).2

theorem meets_mono {weaker : State → Event → Prop}
    (implies : ∀ current event, condition current event → weaker current event)
    {state : State} {events : List Event} (met : Meets step condition state events) :
    Meets step weaker state events :=
  meets_of_invariant (fun _ => True) (fun _ _ _ _ _ _ => trivial)
    (fun current event _ now => implies current event now) trivial met

theorem meets_and {other : State → Event → Prop} {state : State} {events : List Event}
    (left : Meets step condition state events) (right : Meets step other state events) :
    Meets step (fun current event => condition current event ∧ other current event) state
      events := by
  induction events generalizing state with
  | nil => trivial
  | cons event rest ih =>
      refine ⟨⟨left.1, right.1⟩, ?_⟩
      cases stepped : step state event with
      | none => trivial
      | some next =>
          exact ih (meets_cons_some left stepped).2 (meets_cons_some right stepped).2

theorem meets_of_prefixes {state : State} {events : List Event}
    (each : ∀ front event back middle, events = front ++ event :: back →
      runFrom step state front = some middle → condition middle event) :
    Meets step condition state events := by
  induction events generalizing state with
  | nil => trivial
  | cons event rest ih =>
      refine ⟨each [] event rest state rfl rfl, ?_⟩
      cases stepped : step state event with
      | none => trivial
      | some next =>
          apply ih
          intro front later back middle isRest ran
          apply each (event :: front) later back middle
          · rw [isRest, List.cons_append]
          · simpa [runFrom, stepped] using ran

theorem run_preserves_of_meets (invariant : State → Prop)
    (preserve : ∀ state event next, invariant state → condition state event →
      step state event = some next → invariant next)
    {state last : State} {events : List Event} (start : invariant state)
    (met : Meets step condition state events)
    (ran : runFrom step state events = some last) : invariant last := by
  induction events generalizing state with
  | nil =>
      have same : state = last := by simpa [runFrom] using ran
      exact same ▸ start
  | cons event rest ih =>
      obtain ⟨next, stepped, tail⟩ := run_cons_some ran
      obtain ⟨now, later⟩ := meets_cons_some met stepped
      exact ih (preserve state event next start now stepped) later tail

theorem run_preserves (invariant : State → Prop)
    (preserve : ∀ state event next, invariant state →
      step state event = some next → invariant next)
    {state last : State} {events : List Event} (start : invariant state)
    (ran : runFrom step state events = some last) : invariant last := by
  induction events generalizing state with
  | nil =>
      have same : state = last := by simpa [runFrom] using ran
      exact same ▸ start
  | cons event rest ih =>
      obtain ⟨next, stepped, tail⟩ := run_cons_some ran
      exact ih (preserve state event next start stepped) tail

/-- The run of a part of the events, whose own steps meet `partCondition`: it
takes every step that is kept, and stays related to the whole run. -/
theorem run_filtered_meets {partCondition : State → Event → Prop} (keep : Event → Bool)
    (related : State → State → Prop)
    (kept : ∀ state part event next, related state part → condition state event →
      partCondition part event → keep event = true → step state event = some next →
      ∃ moved, step part event = some moved ∧ related next moved)
    (dropped : ∀ state part event next, related state part → condition state event →
      keep event = false → step state event = some next → related next part)
    {state part last : State} {events : List Event} (start : related state part)
    (met : Meets step condition state events)
    (partMet : Meets step partCondition part (events.filter keep))
    (ran : runFrom step state events = some last) :
    ∃ partLast, runFrom step part (events.filter keep) = some partLast ∧
      related last partLast := by
  induction events generalizing state part with
  | nil =>
      have same : state = last := by simpa [runFrom] using ran
      exact ⟨part, rfl, same ▸ start⟩
  | cons event rest ih =>
      obtain ⟨next, stepped, tail⟩ := run_cons_some ran
      obtain ⟨now, later⟩ := meets_cons_some met stepped
      cases own : keep event with
      | true =>
          rw [List.filter_cons_of_pos own] at partMet ⊢
          obtain ⟨moved, partStepped, still⟩ :=
            kept state part event next start now partMet.1 own stepped
          obtain ⟨partLast, partRan, ends⟩ :=
            ih still later (meets_cons_some partMet partStepped).2 tail
          refine ⟨partLast, ?_, ends⟩
          simpa [runFrom, partStepped] using partRan
      | false =>
          have drops : ¬ keep event = true := by simp [own]
          rw [List.filter_cons_of_neg drops] at partMet ⊢
          exact ih (dropped state part event next start now own stepped) later partMet tail

theorem run_filtered (keep : Event → Bool) (related : State → State → Prop)
    (kept : ∀ state part event next, related state part → condition state event →
      keep event = true → step state event = some next →
      ∃ moved, step part event = some moved ∧ related next moved)
    (dropped : ∀ state part event next, related state part → condition state event →
      keep event = false → step state event = some next → related next part)
    {state part last : State} {events : List Event} (start : related state part)
    (met : Meets step condition state events)
    (ran : runFrom step state events = some last) :
    ∃ partLast, runFrom step part (events.filter keep) = some partLast ∧
      related last partLast := by
  have free : Meets step (fun _ _ => True) part (events.filter keep) :=
    meets_of_forall_mem fun _ _ _ => trivial
  refine run_filtered_meets keep related ?_ dropped start met free ran
  intro state part event next still now _ own stepped
  exact kept state part event next still now own stepped

/-- Whether the run takes all its steps and ends in a state that passes `check`:
what evaluating a concrete run shows. -/
def reaches (step : State → Event → Option State) (state : State) (events : List Event)
    (check : State → Bool) : Bool :=
  ((runFrom step state events).map check).getD false

theorem exists_of_reaches {state : State} {events : List Event} {check : State → Bool}
    (passed : reaches step state events check = true) :
    ∃ last, runFrom step state events = some last ∧ check last = true := by
  unfold reaches at passed
  cases ran : runFrom step state events with
  | none => simp [ran] at passed
  | some last =>
      rw [ran] at passed
      exact ⟨last, rfl, passed⟩

/-- A run that passes over the events that are not enabled. -/
def driveFrom (step : State → Event → Option State) (state : State) (events : List Event) :
    State :=
  events.foldl (fun current event => (step current event).getD current) state

theorem drive_cons_some {state next : State} {event : Event} {rest : List Event}
    (stepped : step state event = some next) :
    driveFrom step state (event :: rest) = driveFrom step next rest := by
  simp [driveFrom, stepped]

theorem drive_of_stuck {state : State} (stuck : ∀ event, step state event = none)
    (events : List Event) : driveFrom step state events = state := by
  induction events with
  | nil => rfl
  | cons event rest ih =>
      simp only [driveFrom, List.foldl_cons, stuck event, Option.getD_none]
      exact ih

/-- A run that every enabled event keeps and every counted event brings nearer to
its end has ended once enough of them have come. -/
theorem drive_finishes (invariant : State → Prop) (remaining : State → Nat)
    (counts : Event → Bool)
    (onward : ∀ state event, invariant state → condition state event → 0 < remaining state →
      ∃ next, step state event = some next ∧ invariant next ∧
        remaining next + (if counts event then 1 else 0) ≤ remaining state)
    (stuck : ∀ state, invariant state → remaining state = 0 → ∀ event, step state event = none)
    {state : State} {events : List Event} (start : invariant state)
    (met : Meets step condition state events)
    (enough : remaining state ≤ events.countP counts) :
    invariant (driveFrom step state events) ∧ remaining (driveFrom step state events) = 0 := by
  induction events generalizing state with
  | nil => exact ⟨start, Nat.le_zero.mp enough⟩
  | cons event rest ih =>
      rcases Nat.eq_zero_or_pos (remaining state) with ended | underway
      · rw [drive_of_stuck (stuck state start ended)]
        exact ⟨start, ended⟩
      · obtain ⟨next, stepped, kept, nearer⟩ := onward state event start met.1 underway
        rw [drive_cons_some stepped]
        apply ih kept (meets_cons_some met stepped).2
        rw [List.countP_cons] at enough
        omega

end LightbridgeAuthz.Library.EventRun
