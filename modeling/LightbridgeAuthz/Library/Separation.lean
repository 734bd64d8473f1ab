import Mathlib.Tactic.Common

/-!
# Machines whose callers do not meet

Calls are served one after another on a shared state. A part of the state is
separate for one side of the calls when a call of the other side leaves the
part as it is, and a call of the side itself does to the part, and answers,
what it would do and answer if the part were all there is. Then the part of a
whole run is the side's own run, whatever was served in between. Both
conditions may need an invariant of the state and a promise on the calls.
-/

namespace LightbridgeAuthz.Library.Separation

set_option autoImplicit false

variable {State Call Answer : Type*}

/-- Serving a call: the state after it and its answer. -/
abbrev Serve (State Call Answer : Type*) := State → Call → State × Answer

def finalState (serve : Serve State Call Answer) : State → List Call → State
  | state, [] => state
  | state, call :: rest => finalState serve (serve state call).1 rest

theorem final_state_preserves {serve : Serve State Call Answer} {invariant : State → Prop}
    (keeps : ∀ state call, invariant state → invariant (serve state call).1) {state : State}
    (starts : invariant state) (calls : List Call) : invariant (finalState serve state calls) := by
  induction calls generalizing state with
  | nil => exact starts
  | cons call rest ih => exact ih (keeps state call starts)

theorem final_state_filter {serve : Serve State Call Answer} {matters : Call → Bool}
    (isVoid : ∀ state call, matters call = false → (serve state call).1 = state) {state : State}
    {calls : List Call} :
    finalState serve state calls = finalState serve state (calls.filter matters) := by
  induction calls generalizing state with
  | nil => rfl
  | cons call rest ih =>
      cases acts : matters call with
      | true =>
          rw [List.filter_cons_of_pos acts]
          exact ih
      | false =>
          rw [List.filter_cons_of_neg (by simp [acts]), finalState, isVoid state call acts]
          exact ih

/-- The answers that the calls of one side get during a run of all calls. -/
def answersTo (serve : Serve State Call Answer) (mine : Call → Bool) :
    State → List Call → List Answer
  | _, [] => []
  | state, call :: rest =>
      if mine call then (serve state call).2 :: answersTo serve mine (serve state call).1 rest
      else answersTo serve mine (serve state call).1 rest

structure Separates (serve : Serve State Call Answer) (mine : Call → Bool)
    (part : State → State) (sound : State → Prop) (confined : Call → Prop) : Prop where
  keeps : ∀ {state call}, sound state → confined call → sound (serve state call).1
  foreign : ∀ {state call}, sound state → confined call → mine call = false →
    part (serve state call).1 = part state
  own : ∀ {state call}, sound state → confined call → mine call = true →
    part (serve state call).1 = (serve (part state) call).1
  answered : ∀ {state call}, sound state → confined call → mine call = true →
    (serve state call).2 = (serve (part state) call).2

variable {serve : Serve State Call Answer} {mine : Call → Bool} {part : State → State}
  {sound : State → Prop} {confined : Call → Prop}

theorem part_run (separates : Separates serve mine part sound confined) {state : State}
    {calls : List Call} (starts : sound state) (allConfined : ∀ call ∈ calls, confined call) :
    part (finalState serve state calls) =
      finalState serve (part state) (calls.filter mine) := by
  induction calls generalizing state with
  | nil => rfl
  | cons call rest ih =>
      have isConfined := allConfined call List.mem_cons_self
      have later := ih (separates.keeps starts isConfined)
        fun other member => allConfined other (List.mem_cons_of_mem call member)
      cases side : mine call with
      | false =>
          rw [List.filter_cons_of_neg (by simp [side]), finalState, later,
            separates.foreign starts isConfined side]
      | true =>
          rw [List.filter_cons_of_pos side, finalState, finalState, later,
            separates.own starts isConfined side]

theorem answers_run (separates : Separates serve mine part sound confined) {state : State}
    {calls : List Call} (starts : sound state) (allConfined : ∀ call ∈ calls, confined call) :
    answersTo serve mine state calls =
      answersTo serve mine (part state) (calls.filter mine) := by
  induction calls generalizing state with
  | nil => rfl
  | cons call rest ih =>
      have isConfined := allConfined call List.mem_cons_self
      have later := ih (separates.keeps starts isConfined)
        fun other member => allConfined other (List.mem_cons_of_mem call member)
      cases side : mine call with
      | false =>
          rw [List.filter_cons_of_neg (by simp [side]), answersTo, later,
            separates.foreign starts isConfined side]
          simp [side]
      | true =>
          rw [List.filter_cons_of_pos side, answersTo, answersTo, later,
            separates.own starts isConfined side, separates.answered starts isConfined side]

theorem answers_alike (separates : Separates serve mine part sound confined)
    {state other : State} {calls others : List Call} (starts : sound state)
    (otherStarts : sound other) (allConfined : ∀ call ∈ calls, confined call)
    (othersConfined : ∀ call ∈ others, confined call) (samePart : part state = part other)
    (sameCalls : calls.filter mine = others.filter mine) :
    answersTo serve mine state calls = answersTo serve mine other others := by
  rw [answers_run separates starts allConfined,
    answers_run separates otherStarts othersConfined, samePart, sameCalls]

end LightbridgeAuthz.Library.Separation
