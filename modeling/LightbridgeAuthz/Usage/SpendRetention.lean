import LightbridgeAuthz.Budget.TierStamp
import LightbridgeAuthz.Library.EventRun
import LightbridgeAuthz.Usage.SpendGrowth
import Mathlib.Algebra.Order.BigOperators.Group.List
import Mathlib.Algebra.Order.Ring.NNRat

/-!
# Known spend under the retention policy

The policy drops rows of `usage_events` that are more than 30 days old, while spend is
read for calendar months: the current one and the one before. Each entry is one event
that was ever ingested, with whether its row is still stored. Costs are exact and not
negative here.
-/

namespace LightbridgeAuthz.Usage.SpendRetention

open Library.EventRun
open Budget.Domain (Period Instant Spend Fault)
open Budget.RefillProcedure (UsageEvent Period.previous periodBoundsUtc spendForAccount)
open Budget.TierStamp (CalendarMonth Period.current august)
open OtlpEvents (F64)
open SpendGrowth

set_option autoImplicit false

structure Entry where
  event : UsageEvent ℚ≥0
  stored : Bool

structure World where
  entries : List Entry
  clock : Instant

def World.table (world : World) : List (UsageEvent ℚ≥0) :=
  (world.entries.filter Entry.stored).map Entry.event

def World.ingested (world : World) : List (UsageEvent ℚ≥0) := world.entries.map Entry.event

/-- `drops` are the positions that a run of the policy takes. -/
inductive Event where
  | tick (micros : Nat)
  | ingest (events : List (UsageEvent ℚ≥0))
  | retain (drops : Nat → Bool)

/-- `INTERVAL '30 days'`. -/
def retention : Int := 30 * 86400000000

/-- The entry at a position after a run of the policy at `clock`. -/
def retained (clock : Instant) (drops : Nat → Bool) (position : Nat) (entry : Entry) : Entry :=
  if drops position ∧ entry.event.observedAt < clock - retention then
    { entry with stored := false }
  else entry

def step (world : World) : Event → Option World
  | .tick micros => some { world with clock := world.clock + micros }
  | .ingest events =>
      some { world with entries := world.entries ++ events.map fun event => ⟨event, true⟩ }
  | .retain drops =>
      some { world with entries := world.entries.mapIdx (retained world.clock drops) }

def start (clock : Instant) : World := ⟨[], clock⟩

/-- The rows that the spend of an account and a period sums. -/
def ofMonth (accountId : String) (period : Period) (event : UsageEvent ℚ≥0) : Bool :=
  decide (event.accountId = some accountId ∧ (periodBoundsUtc period).1 ≤ event.observedAt ∧
    event.observedAt < (periodBoundsUtc period).2)

def monthCost (accountId : String) (period : Period) (events : List (UsageEvent ℚ≥0)) : ℚ≥0 :=
  ((events.filter (ofMonth accountId period)).map UsageEvent.totalCost).sum

def exactMicros (costs : List ℚ≥0) : Option Int64 :=
  (costToMicros (F64.finite (costs.sum : ℚ≥0))).toOption

def loadedPeriods (calendar : Instant → CalendarMonth) (now : Instant) : List Period :=
  Period.current calendar now :: (Period.previous (Period.current calendar now)).toList

/-- A known spend is the cost of everything that was ingested for the month. -/
def KnownIsComplete (calendar : Instant → CalendarMonth) (world : World) : Prop :=
  ∀ accountId, ∀ period ∈ loadedPeriods calendar world.clock, ∀ (fault : Option Fault) micros,
    spendForAccount exactMicros world.table fault accountId period = .known micros →
      micros.toInt = costMicros (monthCost accountId period world.ingested)

/-- A cost of the account's month is no longer stored. -/
def Lacks (accountId : String) (period : Period) (entries : List Entry) : Prop :=
  ∃ entry ∈ entries, ofMonth accountId period entry.event = true ∧ entry.stored = false ∧
    entry.event.totalCost ≠ 0

/-- Retention takes a month with a cost as a whole, nothing comes in late for a month that
lacks a cost, and no month costs 2^63 micro-dollars. -/
def WholeMonths (world : World) : Event → Prop
  | .tick _ => True
  | .ingest events =>
      ∀ accountId period,
        (Lacks accountId period world.entries →
          ∀ event ∈ events, ofMonth accountId period event = false) ∧
        costMicros (monthCost accountId period (world.ingested ++ events)) ≠ i64MaxAsF64
  | .retain drops =>
      ∀ accountId period position entry, world.entries[position]? = some entry →
        ofMonth accountId period entry.event = true → entry.event.totalCost ≠ 0 →
        (retained world.clock drops position entry).stored = false →
        ∀ other row, world.entries[other]? = some row → ofMonth accountId period row.event = true →
          (retained world.clock drops other row).stored = false

/-- What holds of every account and month: all of its costs are stored, or no row is. -/
structure WholeWorld (world : World) : Prop where
  whole : ∀ accountId period, Lacks accountId period world.entries →
    ∀ entry ∈ world.entries, ofMonth accountId period entry.event = true → entry.stored = false
  inRange : ∀ accountId period,
    costMicros (monthCost accountId period world.ingested) ≠ i64MaxAsF64

theorem retained_event (clock : Instant) (drops : Nat → Bool) (position : Nat) (entry : Entry) :
    (retained clock drops position entry).event = entry.event := by
  unfold retained
  split <;> rfl

theorem retain_ingested (clock : Instant) (drops : Nat → Bool) (entries : List Entry) :
    (entries.mapIdx (retained clock drops)).map Entry.event = entries.map Entry.event := by
  apply List.ext_getElem?
  intro position
  simp only [List.getElem?_map, List.getElem?_mapIdx, Option.map_map]
  congr 1
  funext entry
  exact retained_event clock drops position entry

theorem mem_retained {clock : Instant} {drops : Nat → Bool} {entries : List Entry}
    {after : Entry} (member : after ∈ entries.mapIdx (retained clock drops)) :
    ∃ position entry, entries[position]? = some entry ∧
      retained clock drops position entry = after := by
  obtain ⟨position, inside, same⟩ := List.mem_mapIdx.mp member
  exact ⟨position, entries[position], List.getElem?_eq_getElem inside, same⟩

theorem whole_step {world next : World} {event : Event} (whole : WholeWorld world)
    (met : WholeMonths world event) (stepped : step world event = some next) :
    WholeWorld next := by
  cases event with
  | tick micros =>
      rw [← Option.some.inj stepped]
      exact ⟨whole.whole, whole.inRange⟩
  | ingest events =>
      rw [← Option.some.inj stepped]
      refine ⟨?_, ?_⟩
      · rintro accountId period ⟨lost, member, ofLost, unstored, cost⟩ entry inEntries ofEntry
        have lacks : Lacks accountId period world.entries := by
          obtain old | new := List.mem_append.mp member
          · exact ⟨lost, old, ofLost, unstored, cost⟩
          · obtain ⟨fresh, _, rfl⟩ := List.mem_map.mp new
            cases unstored
        obtain old | new := List.mem_append.mp inEntries
        · exact whole.whole accountId period lacks entry old ofEntry
        · obtain ⟨fresh, inEvents, rfl⟩ := List.mem_map.mp new
          have late := (met accountId period).1 lacks fresh inEvents
          rw [late] at ofEntry
          cases ofEntry
      · intro accountId period
        have ingested : World.ingested { world with
            entries := world.entries ++ events.map fun event => ⟨event, true⟩ } =
              world.ingested ++ events := by
          simp [World.ingested, Function.comp_def]
        rw [ingested]
        exact (met accountId period).2
  | retain drops =>
      rw [← Option.some.inj stepped]
      refine ⟨?_, ?_⟩
      · rintro accountId period ⟨lost, member, ofLost, unstored, cost⟩ entry inEntries ofEntry
        obtain ⟨position, before, found, rfl⟩ := mem_retained member
        obtain ⟨other, row, rowFound, rfl⟩ := mem_retained inEntries
        rw [retained_event] at ofLost cost ofEntry
        exact met accountId period position before found ofLost cost unstored other row rowFound
          ofEntry
      · intro accountId period
        have ingested := retain_ingested world.clock drops world.entries
        rw [World.ingested, ingested]
        exact whole.inRange accountId period

theorem whole_start (clock : Instant) : WholeWorld (start clock) where
  whole := by simp [start, Lacks]
  inRange := by
    intro accountId period
    simp only [start, World.ingested, List.map_nil, monthCost, List.filter_nil, List.sum_nil]
    decide +kernel

theorem month_cost_cons (accountId : String) (period : Period) (event : UsageEvent ℚ≥0)
    (rest : List (UsageEvent ℚ≥0)) :
    monthCost accountId period (event :: rest) =
      (if ofMonth accountId period event then event.totalCost else 0) +
        monthCost accountId period rest := by
  unfold monthCost
  rw [List.filter_cons]
  split <;> simp

theorem stored_cost_of_not_lacks {accountId : String} {period : Period} (entries : List Entry)
    (complete : ¬ Lacks accountId period entries) :
    monthCost accountId period ((entries.filter Entry.stored).map Entry.event) =
      monthCost accountId period (entries.map Entry.event) := by
  induction entries with
  | nil => rfl
  | cons entry rest ih =>
      have later := ih fun ⟨lost, member, parts⟩ =>
        complete ⟨lost, List.mem_cons_of_mem _ member, parts⟩
      rw [List.map_cons, month_cost_cons, ← later]
      cases kept : entry.stored with
      | true => rw [List.filter_cons_of_pos kept, List.map_cons, month_cost_cons]
      | false =>
          rw [List.filter_cons_of_neg (by simp [kept])]
          have free : (if ofMonth accountId period entry.event then entry.event.totalCost
              else 0) = 0 := by
            split
            next ofEntry =>
              by_contra cost
              exact complete ⟨entry, List.mem_cons_self, ofEntry, kept, cost⟩
            · rfl
          rw [free, zero_add]

theorem exact_micros_some {costs : List ℚ≥0} {micros : Int64}
    (counted : exactMicros costs = some micros) :
    costMicros (costs.sum : ℚ≥0) ≤ i64MaxAsF64 ∧
      micros.toInt = min (costMicros (costs.sum : ℚ≥0)) Int64.maxValue.toInt := by
  have passed : costToMicros (F64.finite (costs.sum : ℚ≥0)) = .ok micros := by
    unfold exactMicros at counted
    cases converted : costToMicros (F64.finite (costs.sum : ℚ≥0)) with
    | error refusal =>
        rw [converted] at counted
        cases counted
    | ok value =>
        rw [converted] at counted
        rw [Option.some.inj counted]
  obtain ⟨total, isTotal, _, bound, isMicros⟩ := (cost_to_micros_ok_iff _ _).mp passed
  rw [← F64.finite.inj isTotal] at bound isMicros
  exact ⟨bound, isMicros⟩

/-- A known spend comes from a stored row, so the month lacks none of its costs. -/
theorem known_complete_of_whole {world : World} (whole : WholeWorld world)
    (calendar : Instant → CalendarMonth) : KnownIsComplete calendar world := by
  intro accountId period _ fault micros known
  cases fault with
  | some fault => cases known
  | none =>
      have rows : (world.table.filter fun event =>
          event.accountId = some accountId ∧ (periodBoundsUtc period).1 ≤ event.observedAt ∧
            event.observedAt < (periodBoundsUtc period).2) =
          world.table.filter (ofMonth accountId period) := rfl
      simp only [spendForAccount, rows] at known
      split at known
      · cases known
      next nonempty =>
        have complete : ¬ Lacks accountId period world.entries := by
          intro lacks
          apply nonempty
          rw [List.isEmpty_iff, List.map_eq_nil_iff, List.filter_eq_nil_iff]
          intro event inTable ofEvent
          obtain ⟨entry, stored, rfl⟩ := List.mem_map.mp inTable
          obtain ⟨inEntries, kept⟩ := List.mem_filter.mp stored
          have unstored := whole.whole accountId period lacks entry inEntries ofEvent
          rw [kept] at unstored
          cases unstored
        have costs : monthCost accountId period world.table =
            monthCost accountId period world.ingested :=
          stored_cost_of_not_lacks world.entries complete
        have counted : exactMicros
            ((world.table.filter (ofMonth accountId period)).map UsageEvent.totalCost) =
              some micros := by
          cases read : exactMicros
              ((world.table.filter (ofMonth accountId period)).map UsageEvent.totalCost) with
          | none =>
              rw [read] at known
              cases known
          | some value =>
              rw [read] at known
              rw [Spend.known.inj known]
        obtain ⟨bound, isMicros⟩ := exact_micros_some counted
        change costMicros (monthCost accountId period world.table) ≤ i64MaxAsF64 at bound
        change micros.toInt =
          min (costMicros (monthCost accountId period world.table)) Int64.maxValue.toInt at isMicros
        rw [costs] at bound isMicros
        have notTop := whole.inRange accountId period
        have top : Int64.maxValue.toInt = i64MaxAsF64 - 1 := by decide
        rw [isMicros, top]
        exact min_eq_left (by omega)

/-- In every run that retains whole months, a known spend is the cost of everything that
was ever ingested for its month. -/
theorem known_spend_is_complete (calendar : Instant → CalendarMonth) {clock : Instant}
    {events : List Event} {last : World} (met : Meets step WholeMonths (start clock) events)
    (ran : runFrom step (start clock) events = some last) : KnownIsComplete calendar last := by
  have whole : WholeWorld last :=
    run_preserves_of_meets WholeWorld
      (fun _ _ _ before now stepped => whole_step before now stepped) (whole_start clock) met ran
  exact known_complete_of_whole whole calendar

theorem cost_micros_mono {less more : Rat} (grows : less ≤ more) :
    costMicros less ≤ costMicros more := by
  apply Int.floor_le_floor
  linarith

theorem month_cost_le (accountId : String) (period : Period) (events : List (UsageEvent ℚ≥0)) :
    monthCost accountId period events ≤ (events.map UsageEvent.totalCost).sum :=
  (List.filter_sublist.map UsageEvent.totalCost).sum_le_sum fun _ _ => zero_le

def day (number : Nat) : Instant := number * 86400000000

def costOn (accountId : String) (number : Nat) (cost : ℚ≥0) : UsageEvent ℚ≥0 :=
  ⟨some accountId, day number, cost⟩

def january : CalendarMonth := ⟨2026, 1, august.yearBound, by decide, by decide⟩

def february : CalendarMonth := ⟨2026, 2, august.yearBound, by decide, by decide⟩

/-- Two accounts; an old row of the second one is the only one that the policy takes. -/
def mixedEvents : List (UsageEvent ℚ≥0) :=
  [costOn "a" 20473 1, costOn "b" 20393 2, costOn "a" 20478 (1 / 2)]

def mixedRun : List Event :=
  [.ingest mixedEvents, .tick 86400000000, .retain fun position => position = 1]

def mixedWorld : World := ⟨mixedEvents.map fun event => ⟨event, true⟩, day 20479⟩

theorem mixed_ingest_whole : WholeMonths (start (day 20478)) (.ingest mixedEvents) := by
  intro accountId period
  constructor
  · rintro ⟨entry, member, _⟩
    cases member
  · have small : monthCost accountId period mixedEvents ≤ 7 / 2 :=
      (month_cost_le accountId period mixedEvents).trans (by decide +kernel)
    have below := cost_micros_mono (NNRat.coe_le_coe.mpr small)
    have top : costMicros ((7 / 2 : ℚ≥0) : Rat) < i64MaxAsF64 := by decide +kernel
    exact (below.trans_lt top).ne

theorem mixed_retain_whole :
    WholeMonths mixedWorld (.retain fun position => position = 1) := by
  have lost : ∀ position entry, mixedWorld.entries[position]? = some entry →
      ((retained mixedWorld.clock (fun position => position = 1) position entry).stored = false ↔
        entry.event.accountId = some "b") := by
    intro position entry found
    have inside : position < 3 := (List.getElem?_eq_some_iff.mp found).1
    obtain rfl | rfl | rfl : position = 0 ∨ position = 1 ∨ position = 2 := by omega
    all_goals
      rw [← Option.some.inj found]
      decide +kernel
  intro accountId period position entry found ofEntry _ unstored other row rowFound ofRow
  have isB := (lost position entry found).mp unstored
  rw [(of_decide_eq_true ofEntry).1] at isB
  exact (lost other row rowFound).mpr ((of_decide_eq_true ofRow).1.trans isB)

theorem known_spend_is_complete_mixed :
    ∃ last, runFrom step (start (day 20478)) mixedRun = some last ∧
      spendForAccount exactMicros last.table none "a" (Period.current (fun _ => january) 0) =
        .known 1500000 ∧
      KnownIsComplete (fun _ => january) last := by
  have ran : runFrom step (start (day 20478)) mixedRun = some _ := rfl
  have met : Meets step WholeMonths (start (day 20478)) mixedRun :=
    ⟨mixed_ingest_whole, trivial, mixed_retain_whole, trivial⟩
  exact ⟨_, ran, by decide +kernel, known_spend_is_complete (fun _ => january) met ran⟩

/-- January 2026 loses one of its two rows in the middle of February. -/
def partialRun : List Event :=
  [.ingest [costOn "a" 20455 1, costOn "a" 20483 1], .tick (16 * 86400000000),
    .retain fun _ => true]

/-- The month before reads as half of its cost. -/
theorem partly_dropped_month_known :
    ∃ last, runFrom step (start (day 20483)) partialRun = some last ∧
      ¬ KnownIsComplete (fun _ => february) last := by
  refine ⟨_, rfl, fun complete => ?_⟩
  have loaded : Period.current (fun _ => january) 0 ∈
      loadedPeriods (fun _ => february) (day 20499) := by
    decide +kernel
  have read := complete "a" _ loaded none 1000000 (by decide +kernel)
  revert read
  decide +kernel

end LightbridgeAuthz.Usage.SpendRetention
