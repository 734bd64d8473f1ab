import LightbridgeAuthz.Budget.RefillProcedure
import LightbridgeAuthz.Usage.Ingestion
import Mathlib.Algebra.Order.BigOperators.Group.List
import Mathlib.Tactic.Linarith

/-!
# The spend of an account as usage comes in

The spend that budget policies compare is a sum of stored costs, in whole
micro-dollars. A cost comes from the sender's attributes: ingestion asks that it is
finite, not that it is positive, and it stores an absent cost as zero.
-/

namespace LightbridgeAuthz.Usage.SpendGrowth

open Library.CheckedInt
open Budget.Domain (Spend)
open Budget.RefillProcedure (spendForAccount periodBoundsUtc)
open OtlpEvents Ingestion

set_option autoImplicit false

inductive CostRefusal where
  | notFinite
  | negative
  | overflows
  deriving DecidableEq, Repr

/-- `i64::MAX as f64`, which is one more than `i64::MAX`. -/
def i64MaxAsF64 : Int := 2 ^ 63

def costMicros (totalCost : Rat) : Int := roundHalfUp (totalCost * 1000000)

/-- The last cast is cut at `i64::MAX`. -/
def costToMicros : F64 → Except CostRefusal Int64
  | .nonFinite => .error .notFinite
  | .finite totalCost =>
      if totalCost < 0 then .error .negative
      else if i64MaxAsF64 < costMicros totalCost then .error .overflows
      else .ok ((toBigint (costMicros totalCost)).getD Int64.maxValue)

/-- The rows of an account in a half-open interval. -/
def spendRows (accountId : String) (start stop : Int) (table : List UsageRow) : List UsageRow :=
  table.filter fun row =>
    row.accountId = some accountId ∧ start ≤ row.observedAt ∧ row.observedAt < stop

def spendQuery (accountId : String) (start stop : Int) (table : List UsageRow) : Option F64 :=
  if spendRows accountId start stop table = [] then none
  else some (F64.sum ((spendRows accountId start stop table).map UsageRow.totalCost))

def reportedSpend (accountId : String) (start stop : Int) (table : List UsageRow) : Spend :=
  match spendQuery accountId start stop table with
  | none => .unavailable
  | some totalCost =>
      match costToMicros totalCost with
      | .ok micros => .known micros
      | .error _ => .unavailable

/-- The column values that the spend query reads, for the refill's own reading. -/
def usageEventOf (row : UsageRow) : Budget.RefillProcedure.UsageEvent F64 :=
  ⟨row.accountId, row.observedAt, row.totalCost⟩

def totalMicros (costs : List F64) : Option Int64 := (costToMicros (F64.sum costs)).toOption

theorem spend_for_account_eq (accountId : String) (period : Budget.Domain.Period)
    (table : List UsageRow) :
    spendForAccount totalMicros (table.map usageEventOf) none accountId period =
      reportedSpend accountId (periodBoundsUtc period).1 (periodBoundsUtc period).2 table := by
  have costs : ((table.map usageEventOf).filter fun event =>
      event.accountId = some accountId ∧ (periodBoundsUtc period).1 ≤ event.observedAt ∧
        event.observedAt < (periodBoundsUtc period).2).map
          Budget.RefillProcedure.UsageEvent.totalCost =
      (spendRows accountId (periodBoundsUtc period).1 (periodBoundsUtc period).2 table).map
        UsageRow.totalCost := by
    rw [List.filter_map, List.map_map]
    rfl
  unfold spendForAccount reportedSpend spendQuery
  simp only [costs, List.isEmpty_map, List.isEmpty_iff]
  by_cases empty :
      spendRows accountId (periodBoundsUtc period).1 (periodBoundsUtc period).2 table = []
  · simp [empty]
  · simp only [empty, if_false, totalMicros]
    cases costToMicros (F64.sum ((spendRows accountId (periodBoundsUtc period).1
      (periodBoundsUtc period).2 table).map UsageRow.totalCost)) <;> rfl

theorem cost_micros_nonneg {totalCost : Rat} (positive : 0 ≤ totalCost) :
    0 ≤ costMicros totalCost := by
  apply Int.floor_nonneg.mpr
  linarith

theorem cost_to_micros_ok_iff (cost : F64) (micros : Int64) :
    costToMicros cost = .ok micros ↔
      ∃ totalCost, cost = .finite totalCost ∧ 0 ≤ totalCost ∧
        costMicros totalCost ≤ i64MaxAsF64 ∧
        micros.toInt = min (costMicros totalCost) Int64.maxValue.toInt := by
  cases cost with
  | nonFinite => simp [costToMicros]
  | finite totalCost =>
      simp only [F64.finite.injEq, exists_eq_left', costToMicros]
      by_cases negative : totalCost < 0
      · simp [negative]
      · by_cases overflows : i64MaxAsF64 < costMicros totalCost
        · simp [negative, overflows]
        · have positive := not_lt.mp negative
          have micro := cost_micros_nonneg positive
          have bound := not_lt.mp overflows
          simp only [negative, overflows, if_false, Except.ok.injEq, positive, bound, true_and]
          have bottom : Int64.minValue.toInt ≤ 0 := by decide
          rw [← to_bigint_cut (bottom.trans micro), ← Int64.toInt_inj]
          exact eq_comm

/-- The exact cost of the account's rows in the interval. -/
def storedCost (accountId : String) (start stop : Int) (table : List UsageRow) : Rat :=
  ((spendRows accountId start stop table).map fun row => row.totalCost.value).sum

section Spend

variable {accountId : String} {start stop : Int}

theorem reported_known_iff (table : List UsageRow) (micros : Int64) :
    reportedSpend accountId start stop table = .known micros ↔
      spendRows accountId start stop table ≠ [] ∧
        (∀ row ∈ spendRows accountId start stop table, row.totalCost.isFinite = true) ∧
        0 ≤ storedCost accountId start stop table ∧
        costMicros (storedCost accountId start stop table) ≤ i64MaxAsF64 ∧
        micros.toInt =
          min (costMicros (storedCost accountId start stop table)) Int64.maxValue.toInt := by
  unfold reportedSpend spendQuery
  by_cases empty : spendRows accountId start stop table = []
  · simp [empty]
  · have read :
        (match costToMicros
            (F64.sum ((spendRows accountId start stop table).map UsageRow.totalCost)) with
          | .ok micros => Spend.known micros
          | .error _ => .unavailable) = .known micros ↔
        costToMicros (F64.sum ((spendRows accountId start stop table).map UsageRow.totalCost)) =
          .ok micros := by
      cases costToMicros
        (F64.sum ((spendRows accountId start stop table).map UsageRow.totalCost)) <;> simp
    simp only [empty, if_false, ne_eq, not_false_iff, true_and]
    rw [read, cost_to_micros_ok_iff]
    constructor
    · rintro ⟨total, sums, bounds⟩
      obtain ⟨finite, isTotal⟩ := (f64_sum_eq_finite_iff _ _).mp sums
      rw [List.map_map] at isTotal
      rw [List.forall_mem_map] at finite
      have same : storedCost accountId start stop table = total := isTotal
      rw [same]
      exact ⟨finite, bounds⟩
    · rintro ⟨finite, bounds⟩
      refine ⟨storedCost accountId start stop table, ?_, bounds⟩
      rw [f64_sum_eq_finite_iff, List.forall_mem_map, List.map_map]
      exact ⟨finite, rfl⟩

theorem reported_unavailable_iff (table : List UsageRow) :
    reportedSpend accountId start stop table = .unavailable ↔
      ∀ micros, reportedSpend accountId start stop table ≠ .known micros := by
  cases reportedSpend accountId start stop table <;> simp

theorem spend_rows_append (table rows : List UsageRow) :
    spendRows accountId start stop (table ++ rows) =
      spendRows accountId start stop table ++ spendRows accountId start stop rows :=
  List.filter_append table rows

theorem stored_cost_append (table rows : List UsageRow) :
    storedCost accountId start stop (table ++ rows) =
      storedCost accountId start stop table + storedCost accountId start stop rows := by
  rw [storedCost, spend_rows_append, List.map_append, List.sum_append]
  rfl

end Spend

section Batches

variable (decoders : Decoders) (storable : UsageRow → Bool) (formatFloat : Rat → String)
variable (clock : Nat → Int) (endpoint : Endpoint) (request : IngestRequest) (table : List UsageRow)
variable (accountId : String) (start stop : Int)

/-- The request is answered with success: it decodes to a valid payload that Postgres
takes. -/
def ingests (payload : Payload) : Prop :=
  acceptedPayload decoders formatFloat clock endpoint request payload ∧
    taken storable (payload.events formatFloat clock)

/-- No event of the account in the payload has a cost. -/
def unmeasured (payload : Payload) : Prop :=
  ∀ event ∈ payload.events formatFloat clock,
    event.accountId = some accountId → event.totalCost = none

/-- An ingested batch never lowers a known spend, and one without a cost for the account
never makes its spend known. -/
structure SpendMonotone : Prop where
  grows : ∀ payload, ingests decoders storable formatFloat clock endpoint request payload →
    ∀ before, reportedSpend accountId start stop table = .known before →
      ∃ after,
        reportedSpend accountId start stop
          (ingest decoders storable formatFloat clock endpoint request table).2 = .known after ∧
          before ≤ after
  staysUnknown : ∀ payload, ingests decoders storable formatFloat clock endpoint request payload →
    unmeasured formatFloat clock accountId payload →
      reportedSpend accountId start stop table = .unavailable →
        reportedSpend accountId start stop
          (ingest decoders storable formatFloat clock endpoint request table).2 = .unavailable

def TotalInRange : Prop :=
  ∀ payload, ingests decoders storable formatFloat clock endpoint request payload →
    costMicros (storedCost accountId start stop table +
      storedCost accountId start stop (rowsOf formatFloat clock payload)) ≤ i64MaxAsF64

def LeavesEmpty : Prop :=
  ∀ payload, ingests decoders storable formatFloat clock endpoint request payload →
    unmeasured formatFloat clock accountId payload →
      spendRows accountId start stop table = [] →
        spendRows accountId start stop (rowsOf formatFloat clock payload) = []

/-- No event of the account in the interval has a negative cost, all its costs there
come to an `i64` of micro-dollars, and an unmeasured batch has no event in an interval
that was empty. -/
structure CostsKeepSpend : Prop where
  noNegative : ∀ payload, ingests decoders storable formatFloat clock endpoint request payload →
    ∀ row ∈ spendRows accountId start stop (rowsOf formatFloat clock payload),
      0 ≤ row.totalCost.value
  inRange : TotalInRange decoders storable formatFloat clock endpoint request table accountId
    start stop
  leavesEmpty : LeavesEmpty decoders storable formatFloat clock endpoint request table accountId
    start stop

/-- The stored costs of the account in the interval add up to a spend. -/
def AddsUp : Prop :=
  spendRows accountId start stop table ≠ [] ∧
    (∀ row ∈ spendRows accountId start stop table, row.totalCost.isFinite = true) ∧
    0 ≤ storedCost accountId start stop table ∧
    costMicros (storedCost accountId start stop table) ≤ i64MaxAsF64

variable {decoders storable formatFloat clock endpoint request table accountId start stop}

theorem ingested_table {payload : Payload}
    (taken : ingests decoders storable formatFloat clock endpoint request payload) :
    (ingest decoders storable formatFloat clock endpoint request table).2 =
      table ++ rowsOf formatFloat clock payload := by
  rw [ingest_taken decoders storable formatFloat clock endpoint request table taken.1 taken.2]

theorem rows_finite {payload : Payload}
    (taken : ingests decoders storable formatFloat clock endpoint request payload) :
    ∀ row ∈ rowsOf formatFloat clock payload, row.totalCost.isFinite = true := by
  intro row member
  obtain ⟨event, inEvents, rfl⟩ := List.mem_map.mp member
  have checked := event_checked ((validate_events_ok_iff _).mp taken.1.2 event inEvents)
  cases cost : event.totalCost with
  | none => simp [rowOf, cost, F64.isFinite]
  | some value => simpa [rowOf, cost] using checked.finiteCost value cost

theorem grows_iff {payload : Payload} {before : Int64}
    (taken : ingests decoders storable formatFloat clock endpoint request payload)
    (known : reportedSpend accountId start stop table = .known before) :
    (∃ after,
      reportedSpend accountId start stop
        (ingest decoders storable formatFloat clock endpoint request table).2 = .known after ∧
        before ≤ after) ↔
      let old := storedCost accountId start stop table
      let new := old + storedCost accountId start stop (rowsOf formatFloat clock payload)
      0 ≤ new ∧ min (costMicros old) Int64.maxValue.toInt ≤ costMicros new ∧
        costMicros new ≤ i64MaxAsF64 := by
  obtain ⟨nonempty, finite, _, _, isBefore⟩ := (reported_known_iff table before).mp known
  have filled :
      spendRows accountId start stop (table ++ rowsOf formatFloat clock payload) ≠ [] := by
    rw [spend_rows_append]
    exact List.append_ne_nil_of_left_ne_nil nonempty _
  have allFinite : ∀ row ∈ spendRows accountId start stop
      (table ++ rowsOf formatFloat clock payload), row.totalCost.isFinite = true := by
    rw [spend_rows_append]
    intro row member
    obtain stored | new := List.mem_append.mp member
    · exact finite row stored
    · exact rows_finite taken row (List.mem_filter.mp new).1
  simp only [ingested_table taken, reported_known_iff, stored_cost_append, Int64.le_iff_toInt_le,
    isBefore]
  constructor
  · rintro ⟨after, ⟨_, _, positive, bound, isAfter⟩, grew⟩
    rw [isAfter] at grew
    exact ⟨positive, grew.trans (min_le_left _ _), bound⟩
  · rintro ⟨positive, grew, bound⟩
    obtain ⟨after, isAfter⟩ : ∃ after : Int64, after.toInt =
        min (costMicros (storedCost accountId start stop table +
          storedCost accountId start stop (rowsOf formatFloat clock payload)))
          Int64.maxValue.toInt := by
      have bottom : Int64.minValue.toInt ≤ 0 := by decide
      exact ⟨_, to_bigint_cut (bottom.trans (cost_micros_nonneg positive))⟩
    refine ⟨after, ⟨filled, allFinite, positive, bound, isAfter⟩, ?_⟩
    rw [isAfter]
    exact le_min grew (min_le_right _ _)

theorem unmeasured_cost {payload : Payload}
    (costless : unmeasured formatFloat clock accountId payload) :
    ∀ row ∈ spendRows accountId start stop (rowsOf formatFloat clock payload),
      row.totalCost = .finite 0 := by
  intro row member
  obtain ⟨inRows, ofAccount⟩ := List.mem_filter.mp member
  obtain ⟨event, inEvents, rfl⟩ := List.mem_map.mp inRows
  have owned : event.accountId = some accountId := (of_decide_eq_true ofAccount).1
  have absent := costless event inEvents owned
  simp [rowOf, absent]

theorem unmeasured_stored_cost {payload : Payload}
    (costless : unmeasured formatFloat clock accountId payload) :
    storedCost accountId start stop (rowsOf formatFloat clock payload) = 0 := by
  apply List.sum_eq_zero
  intro cost member
  obtain ⟨row, inRows, rfl⟩ := List.mem_map.mp member
  rw [unmeasured_cost costless row inRows]
  rfl

theorem stays_unknown_iff {payload : Payload}
    (taken : ingests decoders storable formatFloat clock endpoint request payload)
    (costless : unmeasured formatFloat clock accountId payload)
    (unknown : reportedSpend accountId start stop table = .unavailable) :
    reportedSpend accountId start stop
        (ingest decoders storable formatFloat clock endpoint request table).2 = .unavailable ↔
      (spendRows accountId start stop table = [] →
        spendRows accountId start stop (rowsOf formatFloat clock payload) = []) := by
  have costs : storedCost accountId start stop (rowsOf formatFloat clock payload) = 0 :=
    unmeasured_stored_cost costless
  rw [ingested_table taken]
  constructor
  · intro stays empty
    by_contra new
    rw [reported_unavailable_iff] at stays
    apply stays 0
    rw [reported_known_iff, spend_rows_append, empty, stored_cost_append, costs]
    have old : storedCost accountId start stop table = 0 := by simp [storedCost, empty]
    refine ⟨new, ?_, ?_, ?_, ?_⟩
    · intro row member
      rw [unmeasured_cost costless row member]
      rfl
    · rw [old, add_zero]
    · rw [old, add_zero]
      decide +kernel
    · rw [old, add_zero]
      decide +kernel
  · intro keeps
    rw [reported_unavailable_iff] at unknown ⊢
    intro micros known
    apply unknown micros
    rw [reported_known_iff, spend_rows_append, stored_cost_append, costs, add_zero] at known
    obtain ⟨filled, finite, bounds⟩ := known
    refine (reported_known_iff table micros).mpr ⟨?_, ?_, bounds⟩
    · intro empty
      rw [empty, keeps empty] at filled
      exact filled rfl
    · intro row member
      exact finite row (List.mem_append_left _ member)

theorem cost_micros_mono {left right : Rat} (below : left ≤ right) :
    costMicros left ≤ costMicros right := by
  apply Int.floor_le_floor
  linarith

theorem known_of_adds_up (addsUp : AddsUp table accountId start stop) :
    ∃ before, reportedSpend accountId start stop table = .known before := by
  obtain ⟨filled, finite, positive, bound⟩ := addsUp
  have bottom : Int64.minValue.toInt ≤ 0 := by decide
  have cut := to_bigint_cut (bottom.trans (cost_micros_nonneg positive))
  exact ⟨_, (reported_known_iff table _).mpr ⟨filled, finite, positive, bound, cut⟩⟩

/-- Costs that are not negative and not too large keep the spend monotone. Only the
sign is not necessary for it. -/
theorem spend_monotone_of_costs :
    (CostsKeepSpend decoders storable formatFloat clock endpoint request table accountId start
        stop →
      SpendMonotone decoders storable formatFloat clock endpoint request table accountId start
        stop) ∧
    (SpendMonotone decoders storable formatFloat clock endpoint request table accountId start
        stop →
      (AddsUp table accountId start stop →
        TotalInRange decoders storable formatFloat clock endpoint request table accountId start
          stop) ∧
      LeavesEmpty decoders storable formatFloat clock endpoint request table accountId start
        stop) := by
  constructor
  · intro keeps
    constructor
    · intro payload taken before known
      have stored : 0 ≤ storedCost accountId start stop table :=
        ((reported_known_iff table before).mp known).2.2.1
      have added : 0 ≤ storedCost accountId start stop (rowsOf formatFloat clock payload) := by
        unfold storedCost
        refine List.sum_nonneg fun cost member => ?_
        obtain ⟨row, inRows, rfl⟩ := List.mem_map.mp member
        exact keeps.noNegative payload taken row inRows
      refine (grows_iff taken known).mpr ⟨by linarith, ?_, keeps.inRange payload taken⟩
      exact (min_le_left _ _).trans (cost_micros_mono (by linarith))
    · intro payload taken costless unknown
      exact (stays_unknown_iff taken costless unknown).mpr
        (keeps.leavesEmpty payload taken costless)
  · intro monotone
    constructor
    · intro addsUp payload taken
      obtain ⟨before, known⟩ := known_of_adds_up addsUp
      exact ((grows_iff taken known).mp (monotone.grows payload taken before known)).2.2
    · intro payload taken costless empty
      have unknown : reportedSpend accountId start stop table = .unavailable := by
        simp [reportedSpend, spendQuery, empty]
      exact (stays_unknown_iff taken costless unknown).mp
        (monotone.staysUnknown payload taken costless unknown) empty

end Batches

/-- A log record of account `a`, with a cost attribute or without. -/
def accountLog (cost : Option Rat) : LogRecord :=
  ⟨1, 0, "", ("account_id", .stringValue "a") ::
    (cost.map fun value => ("cost", AnyValue.doubleValue (.finite value))).toList⟩

def accountLogs (cost : Option Rat) : Payload := .logs [⟨none, [[accountLog cost]]⟩]

/-- The encoding of one such record, from that of its cost. -/
def accountLogBody (costBytes : List UInt8) : List UInt8 :=
  protobufField 0x0A (protobufField 0x12 (protobufField 0x12
    ([0x09, 1, 0, 0, 0, 0, 0, 0, 0] ++
      protobufField 0x32 (protobufField 0x0A (textBytes "account_id") ++
        protobufField 0x12 (protobufField 0x0A (textBytes "a"))) ++ costBytes)))

/-- The attribute `cost` with the double -0.5. -/
def negativeCostBytes : List UInt8 :=
  protobufField 0x32 (protobufField 0x0A (textBytes "cost") ++
    protobufField 0x12 [0x21, 0, 0, 0, 0, 0, 0, 0xE0, 0xBF])

theorem account_logs_ingested (cost : Option Rat) (costBytes : List UInt8)
    (valid : validateEvents ((accountLogs cost).events (fun _ => "") atEpoch) = .ok ()) :
    ingests (decodersOf (accountLogBody costBytes) (accountLogs cost)) (fun _ => true)
      (fun _ => "") atEpoch .logs ⟨none, none, accountLogBody costBytes⟩ (accountLogs cost) := by
  refine ⟨⟨decode_without_headers _ _, valid⟩, ?_, fun _ _ => rfl⟩
  have one : (accountLogs cost).items.length = 1 := rfl
  rw [payload_events_eq, List.length_mapIdx, one]
  decide

/-- The attribute `cost` with the double 1.0. -/
def unitCostBytes : List UInt8 :=
  protobufField 0x32 (protobufField 0x0A (textBytes "cost") ++
    protobufField 0x12 [0x21, 0, 0, 0, 0, 0, 0, 0xF0, 0x3F])

theorem unit_cost_keeps_spend :
    SpendMonotone (decodersOf (accountLogBody unitCostBytes) (accountLogs (some 1)))
      (fun _ => true) (fun _ => "") atEpoch .logs ⟨none, none, accountLogBody unitCostBytes⟩
      (rowsOf (fun _ => "") atEpoch (accountLogs (some 1))) "a" 0 1 := by
  have ingested := account_logs_ingested (some 1) unitCostBytes (by decide +kernel)
  have only : ∀ payload, ingests (decodersOf (accountLogBody unitCostBytes) (accountLogs (some 1)))
      (fun _ => true) (fun _ => "") atEpoch .logs ⟨none, none, accountLogBody unitCostBytes⟩ payload →
      payload = accountLogs (some 1) := by
    intro payload other
    exact Except.ok.inj (other.1.1.symm.trans ingested.1.1)
  apply spend_monotone_of_costs.1
  constructor
  · intro payload other row member
    rw [only payload other] at member
    revert row
    decide +kernel
  · intro payload other
    rw [only payload other]
    decide +kernel
  · intro payload other costless empty
    have filled : spendRows "a" 0 1 (rowsOf (fun _ => "") atEpoch (accountLogs (some 1))) ≠ [] := by
      decide +kernel
    exact absurd empty filled

/-- A negative cost lowers a known spend, and a log record without a cost makes an unknown
spend zero. -/
theorem negative_cost_lowers_spend :
    ¬ SpendMonotone (decodersOf (accountLogBody negativeCostBytes) (accountLogs (some (-1 / 2))))
        (fun _ => true) (fun _ => "") atEpoch .logs ⟨none, none, accountLogBody negativeCostBytes⟩
        (rowsOf (fun _ => "") atEpoch (accountLogs (some 1))) "a" 0 1 ∧
      ¬ SpendMonotone (decodersOf (accountLogBody []) (accountLogs none)) (fun _ => true)
        (fun _ => "") atEpoch .logs ⟨none, none, accountLogBody []⟩ [] "a" 0 1 := by
  constructor
  · intro monotone
    have ingested := account_logs_ingested (some (-1 / 2)) negativeCostBytes (by decide +kernel)
    have known : reportedSpend "a" 0 1 (rowsOf (fun _ => "") atEpoch (accountLogs (some 1))) =
        .known 1000000 := by decide +kernel
    obtain ⟨after, isAfter, grew⟩ := monotone.grows _ ingested _ known
    rw [ingested_table ingested] at isAfter
    have lowered : reportedSpend "a" 0 1 (rowsOf (fun _ => "") atEpoch (accountLogs (some 1)) ++
        rowsOf (fun _ => "") atEpoch (accountLogs (some (-1 / 2)))) = .known 500000 := by
      decide +kernel
    rw [lowered] at isAfter
    rw [← Spend.known.inj isAfter] at grew
    exact absurd grew (by decide)
  · intro monotone
    have ingested := account_logs_ingested none [] (by decide +kernel)
    have costless : unmeasured (fun _ => "") atEpoch "a" (accountLogs none) := by
      intro event member _
      rw [payload_events_eq] at member
      rw [List.mem_singleton.mp member]
      rfl
    have unknown := monotone.staysUnknown _ ingested costless rfl
    rw [ingested_table ingested] at unknown
    have zero : reportedSpend "a" 0 1 ([] ++ rowsOf (fun _ => "") atEpoch (accountLogs none)) =
        .known 0 := by decide +kernel
    rw [zero] at unknown
    cases unknown

end LightbridgeAuthz.Usage.SpendGrowth
