import LightbridgeAuthz.Library.EventRun
import Mathlib.Data.List.Induction

/-!
# Standing that is handed on

Agents hold a standing in the states of a machine. Where a step gives the standing only
to an agent that the event founds it for, or that a holder of the standing names, every
holder at the end of a run has it by a chain of such events from the holders at its start.
-/

namespace LightbridgeAuthz.Library.Handovers

open Library.EventRun

set_option autoImplicit false

variable {State Event Agent : Type*}

/-- What one step can do to the standing, in a sound state and for an event that `fine`
admits there. -/
structure HandsOver (step : State → Event → Option State) (sound : State → Prop)
    (fine : State → Event → Prop) (has : State → Agent → Prop) (founds : Event → Agent → Prop)
    (gives : Event → Agent → Agent → Prop) : Prop where
  keeps : ∀ {state event next}, sound state → step state event = some next → sound next
  gained : ∀ {state event next agent}, sound state → fine state event →
    step state event = some next → has next agent →
      has state agent ∨ founds event agent ∨ ∃ giver, has state giver ∧ gives event giver agent

/-- The step after these events takes the agent into the standing. -/
def Enters (step : State → Event → Option State) (has : State → Agent → Prop) (start : State)
    (before : List Event) (event : Event) (agent : Agent) : Prop :=
  ∃ state next, runFrom step start before = some state ∧ step state event = some next ∧
    ¬ has state agent ∧ has next agent

/-- How an agent came to the standing that it holds after a run. -/
inductive Descends (step : State → Event → Option State) (has : State → Agent → Prop)
    (founds : Event → Agent → Prop) (gives : Event → Agent → Agent → Prop) (start : State) :
    List Event → Agent → Prop where
  | held {agent : Agent} (holds : has start agent) : Descends step has founds gives start [] agent
  | founded {before : List Event} {event : Event} {agent : Agent}
      (enters : Enters step has start before event agent) (isFounded : founds event agent) :
      Descends step has founds gives start (before ++ [event]) agent
  | given {before : List Event} {event : Event} {giver agent : Agent}
      (enters : Enters step has start before event agent) (isGiven : gives event giver agent)
      (giverDescends : Descends step has founds gives start before giver) :
      Descends step has founds gives start (before ++ [event]) agent
  | kept {before : List Event} {event : Event} {next : State} {agent : Agent}
      (earlier : Descends step has founds gives start before agent)
      (reached : runFrom step start (before ++ [event]) = some next) (holds : has next agent) :
      Descends step has founds gives start (before ++ [event]) agent

variable {step : State → Event → Option State} {sound : State → Prop}
  {fine : State → Event → Prop} {has : State → Agent → Prop} {founds : Event → Agent → Prop}
  {gives : Event → Agent → Agent → Prop}

theorem sound_run (hands : HandsOver step sound fine has founds gives) {start last : State}
    {events : List Event} (starts : sound start) (ran : runFrom step start events = some last) :
    sound last := by
  induction events generalizing start with
  | nil =>
      cases ran
      exact starts
  | cons event rest induction =>
      obtain ⟨next, stepped, ran⟩ := run_cons_some ran
      exact induction (hands.keeps starts stepped) ran

theorem standing_descends (hands : HandsOver step sound fine has founds gives) {start : State}
    (starts : sound start) {events : List Event} (met : Meets step fine start events) :
    ∀ {last : State} {agent : Agent}, runFrom step start events = some last → has last agent →
      Descends step has founds gives start events agent := by
  induction events using List.reverseRecOn with
  | nil =>
      intro last agent ran holds
      cases ran
      exact .held holds
  | append_singleton before event induction =>
      intro last agent ran holds
      obtain ⟨state, front, back⟩ := run_append_some ran
      obtain ⟨next, stepped, ended⟩ := run_cons_some back
      cases ended
      obtain ⟨frontMet, eventMet⟩ := meets_append_some met front
      have earlier := @induction frontMet
      by_cases already : has state agent
      · exact .kept (earlier front already) ran holds
      have enters : Enters step has start before event agent :=
        ⟨state, last, front, stepped, already, holds⟩
      obtain before | isFounded | ⟨giver, giverHolds, isGiven⟩ :=
        hands.gained (sound_run hands starts front) eventMet.1 stepped holds
      · exact absurd before already
      · exact .founded enters isFounded
      · exact .given enters isGiven (earlier front giverHolds)

theorem enters_run {start last : State} {before : List Event} {event : Event} {agent : Agent}
    (enters : Enters step has start before event agent)
    (ran : runFrom step start (before ++ [event]) = some last) : has last agent := by
  obtain ⟨state, next, front, stepped, -, gained⟩ := enters
  have ranOn : runFrom step start (before ++ [event]) = some next :=
    run_append front (by rw [runFrom, stepped]; rfl)
  rw [ranOn] at ran
  rw [← Option.some.inj ran]
  exact gained

theorem descends_holds {start last : State} {events : List Event} {agent : Agent}
    (descends : Descends step has founds gives start events agent)
    (ran : runFrom step start events = some last) : has last agent := by
  cases descends with
  | held holds =>
      rw [← Option.some.inj ran]
      exact holds
  | founded enters isFounded => exact enters_run enters ran
  | given enters isGiven giverDescends => exact enters_run enters ran
  | kept earlier reached holds =>
      rw [reached] at ran
      rw [← Option.some.inj ran]
      exact holds

theorem split_snoc {events before after : List Event} {event last : Event}
    (split : events = before ++ event :: after) :
    events ++ [last] = before ++ event :: (after ++ [last]) := by
  rw [split, List.append_assoc, List.cons_append]

/-- A set of agents that holds the start's holders and those that a step of the run founds,
and that is closed under what its members hand on there, holds every agent with the
standing. -/
theorem descends_within {start : State} {events : List Event} {agent : Agent}
    (descends : Descends step has founds gives start events agent) {inside : Agent → Prop}
    (holders : ∀ agent, has start agent → inside agent)
    (founders : ∀ before event after agent, events = before ++ event :: after →
      Enters step has start before event agent → founds event agent → inside agent)
    (closed : ∀ before event after giver agent, events = before ++ event :: after →
      Enters step has start before event agent → inside giver → gives event giver agent →
      inside agent) : inside agent := by
  induction descends with
  | held holds => exact holders _ holds
  | founded enters isFounded => exact founders _ _ [] _ rfl enters isFounded
  | @given past event giver agent enters isGiven giverDescends induction =>
      have insideGiver := induction
        (fun before other after agent split =>
          founders before other (after ++ [event]) agent (split_snoc split))
        (fun before other after giver agent split =>
          closed before other (after ++ [event]) giver agent (split_snoc split))
      exact closed _ _ [] _ _ rfl enters insideGiver isGiven
  | @kept past event next agent earlier reached holds induction =>
      exact induction
        (fun before other after agent split =>
          founders before other (after ++ [event]) agent (split_snoc split))
        (fun before other after giver agent split =>
          closed before other (after ++ [event]) giver agent (split_snoc split))

end LightbridgeAuthz.Library.Handovers
