import LightbridgeAuthz.Usage.SpendGrowth
import LightbridgeAuthz.Usage.UsageRollUps

/-!
# Spend answers and usage answers

Two endpoints of the usage service read the costs of an account: the spend query, that
budget decisions ask, and the usage query, that shows them in buckets and groups. They
agree on every account and window, and windows that meet add up.
-/

namespace LightbridgeAuthz.Usage.SpendQueries

open Library.ChronoTime Library.GroupedSums
open Budget.Domain (Period Spend)
open Budget.RefillProcedure (spendForAccount periodBoundsUtc)
open Sessions.TokenGrants (trim)
open OtlpEvents Ingestion UsageQueries UsageRollUps SpendGrowth

set_option autoImplicit false

structure SpendQueryRequest where
  accountId : String
  start : Int
  stop : Int

/-- The handler and `StoreRepo::spend_for_account`. -/
def querySpend (table : List UsageRow) (request : SpendQueryRequest) :
    Except Error (Option F64) :=
  if trim request.accountId = "" then
    .error (.badRequest "account_id is required for spend queries")
  else if request.stop ≤ request.start then .error (.badRequest "start must be before end")
  else if request.start < minTimestamp ∨ request.stop < minTimestamp then
    .error (.sqlx "timestamp out of range")
  else .ok (spendQuery request.accountId request.start request.stop table)

def noFilters : UsageQueryFilters := ⟨none, none, none, none, none, none, none, none⟩

/-- The usage query is about the account and the window, in any buckets and groups. -/
structure Asks (usage : UsageQueryRequest) (request : SpendQueryRequest) : Prop where
  scope : usage.scope = .account
  account : usage.scopeId = request.accountId
  start : usage.startTime = request.start
  stop : usage.endTime = request.stop
  unfiltered : usage.filters = noFilters

/-- The sum of costs, `NULL` where there are none. -/
def costTotal (costs : List F64) : Option F64 :=
  if costs.isEmpty then none else some (F64.sum costs)

def shownTotal (points : List UsageSeriesPoint) : Option F64 :=
  costTotal (points.map UsageSeriesPoint.totalCost)

def spendOf : Option F64 → Spend
  | none => .unavailable
  | some totalCost =>
      match costToMicros totalCost with
      | .ok micros => .known micros
      | .error _ => .unavailable

theorem spend_query_eq (accountId : String) (start stop : Int) (table : List UsageRow) :
    spendQuery accountId start stop table =
      costTotal ((spendRows accountId start stop table).map UsageRow.totalCost) := by
  unfold spendQuery costTotal
  by_cases empty : spendRows accountId start stop table = []
  · rw [if_pos empty, empty]
    rfl
  · rw [if_neg empty, if_neg (by simpa using empty)]

theorem reported_spend_eq (accountId : String) (start stop : Int) (table : List UsageRow) :
    reportedSpend accountId start stop table =
      spendOf (spendQuery accountId start stop table) := by
  unfold reportedSpend spendOf
  cases spendQuery accountId start stop table <;> rfl

section Totals

theorem cost_total_cons (cost : F64) (costs : List F64) :
    costTotal (cost :: costs) = Option.merge F64.add (some cost) (costTotal costs) := by
  cases costs with
  | nil =>
      have single : F64.sum [cost] = cost := by
        rw [f64_sum_eq, List.sum_singleton]
      simp [costTotal, single]
  | cons next rest => simp [costTotal, F64.sum]

theorem merge_cost_assoc (left middle right : Option F64) :
    Option.merge F64.add (Option.merge F64.add left middle) right =
      Option.merge F64.add left (Option.merge F64.add middle right) := by
  cases left <;> cases middle <;> cases right <;> simp [f64_add_assoc]

theorem cost_total_append (earlier later : List F64) :
    costTotal (earlier ++ later) =
      Option.merge F64.add (costTotal earlier) (costTotal later) := by
  induction earlier with
  | nil => simp [costTotal]
  | cons cost rest induction =>
      rw [List.cons_append, cost_total_cons, induction, cost_total_cons, merge_cost_assoc]

theorem cost_total_perm {left right : List F64} (same : left.Perm right) :
    costTotal left = costTotal right := by
  unfold costTotal
  rw [f64_sum_eq, f64_sum_eq, same.sum_eq, same.isEmpty_eq]

theorem spend_query_windows (accountId : String) {start middle stop : Int}
    (earlier : start ≤ middle) (later : middle ≤ stop) (table : List UsageRow) :
    spendQuery accountId start stop table =
      Option.merge F64.add (spendQuery accountId start middle table)
        (spendQuery accountId middle stop table) := by
  have first : spendRows accountId start middle table =
      (spendRows accountId start stop table).filter fun row => row.observedAt < middle := by
    rw [spendRows, spendRows, List.filter_filter]
    apply List.filter_congr
    intro row _
    rw [← Bool.decide_and, decide_eq_decide]
    constructor
    · rintro ⟨owned, after, before⟩
      exact ⟨before, owned, after, by omega⟩
    · rintro ⟨before, owned, after, _⟩
      exact ⟨owned, after, before⟩
  have second : spendRows accountId middle stop table =
      (spendRows accountId start stop table).filter fun row => !decide (row.observedAt < middle) := by
    rw [spendRows, spendRows, List.filter_filter]
    apply List.filter_congr
    intro row _
    rw [← decide_not, ← Bool.decide_and, decide_eq_decide]
    constructor
    · rintro ⟨owned, after, before⟩
      exact ⟨by omega, owned, by omega, before⟩
    · rintro ⟨after, owned, _, before⟩
      exact ⟨owned, by omega, before⟩
  have parted := List.filter_append_perm (fun row => decide (row.observedAt < middle))
    (spendRows accountId start stop table)
  rw [spend_query_eq, spend_query_eq, spend_query_eq, first, second, ← cost_total_append,
    ← List.map_append]
  exact cost_total_perm (parted.map UsageRow.totalCost).symm

end Totals

section Usage

variable {table : List UsageRow} {usage : UsageQueryRequest} {request : SpendQueryRequest}
  {points : List UsageSeriesPoint}

theorem asks_selects (asks : Asks usage request) :
    table.filter (selects usage) =
      spendRows request.accountId request.start request.stop table := by
  apply List.filter_congr
  intro row _
  have unfiltered : passesFilters usage.filters row = true := by
    rw [asks.unfiltered]
    rfl
  rw [selects, unfiltered, inRange, inScope, asks.scope, asks.account, asks.start, asks.stop,
    Bool.and_true, ← Bool.decide_and, ← Bool.decide_and, decide_eq_decide]
  constructor
  · rintro ⟨⟨after, before⟩, owned⟩
    exact ⟨owned, after, before⟩
  · rintro ⟨owned, after, before⟩
    exact ⟨⟨after, before⟩, owned⟩

theorem point_costs_sum (points : List UsageSeriesPoint) :
    (points.map pointMeasures).sum.2.2.1 = F64.sum (points.map UsageSeriesPoint.totalCost) := by
  induction points with
  | nil => rfl
  | cons point rest induction =>
      rw [List.map_cons, List.sum_cons, List.map_cons, F64.sum, ← induction]
      rfl

theorem points_sum {stride : Int} (answered : Answered table usage stride points) :
    (points.map pointMeasures).sum = ((table.filter (selects usage)).map rowMeasures).sum := by
  have measures : points.map pointMeasures = (groupKeys usage stride table).map
      (groupTotal (table.filter (selects usage)) (groupKey usage stride) rowMeasures) := by
    rw [← answered.keys, List.map_map]
    exact List.map_congr_left answered.totals
  rw [measures, sum_of_groups (group_keys_nodup usage stride table)]
  congr 2
  apply List.filter_eq_self.mpr
  intro row member
  simpa using key_listed member

theorem points_nil_iff {stride : Int} (answered : Answered table usage stride points) :
    points = [] ↔ table.filter (selects usage) = [] := by
  constructor
  · intro empty
    rw [List.filter_eq_nil_iff]
    intro row member selected
    have listed : groupKey usage stride row ∈ groupKeys usage stride table :=
      key_listed (List.mem_filter.mpr ⟨member, selected⟩)
    rw [← answered.keys, empty] at listed
    cases listed
  · intro empty
    rw [← List.map_eq_nil_iff, answered.keys, List.eq_nil_iff_forall_not_mem]
    intro key listed
    obtain ⟨row, member, _⟩ := mem_group_keys.mp listed
    rw [empty] at member
    cases member

theorem shown_total_eq {stride : Int} (answered : Answered table usage stride points)
    (asks : Asks usage request) :
    shownTotal points = spendQuery request.accountId request.start request.stop table := by
  have sums : F64.sum (points.map UsageSeriesPoint.totalCost) =
      F64.sum ((table.filter (selects usage)).map UsageRow.totalCost) := by
    rw [← point_costs_sum, points_sum answered, row_measures_sum]
  rw [spend_query_eq, ← asks_selects asks, shownTotal, costTotal, costTotal, sums]
  congr 1
  rw [eq_iff_iff, List.isEmpty_iff, List.isEmpty_iff, List.map_eq_nil_iff, List.map_eq_nil_iff]
  exact points_nil_iff answered

theorem query_spend_of_usage {otherDigit : Char → Bool}
    (answers : queryUsage exactSum otherDigit table usage = .ok points)
    (asks : Asks usage request) :
    querySpend table request =
      .ok (spendQuery request.accountId request.start request.stop table) := by
  unfold queryUsage repoQueryUsage at answers
  rw [asks.start, asks.stop, asks.account] at answers
  by_cases disordered : request.stop ≤ request.start
  · rw [if_pos disordered] at answers
    cases answers
  by_cases blank : trim request.accountId = ""
  · rw [if_neg disordered, if_pos blank] at answers
    cases answers
  by_cases unlimited : usage.limit = 0
  · rw [if_neg disordered, if_neg blank, if_pos unlimited] at answers
    cases answers
  rw [if_neg disordered, if_neg blank, if_neg unlimited] at answers
  split at answers
  · cases answers
  · split_ifs at answers with unreadable
    rw [querySpend, if_neg blank, if_neg disordered, if_neg unreadable]

end Usage

/-- How the spend answers of a table stand to its usage answers and to each other. -/
structure SpendAgrees (otherDigit : Char → Bool) (table : List UsageRow) : Prop where
  shown : ∀ usage request points, Asks usage request →
    queryUsage exactSum otherDigit table usage = .ok points →
    points.length < usage.limit.toNat →
      querySpend table request = .ok (shownTotal points)
  decided : ∀ usage period accountId points,
    Asks usage ⟨accountId, (periodBoundsUtc period).1, (periodBoundsUtc period).2⟩ →
    queryUsage exactSum otherDigit table usage = .ok points →
    points.length < usage.limit.toNat →
      spendForAccount totalMicros (table.map usageEventOf) none accountId period =
        spendOf (shownTotal points)
  windows : ∀ accountId start middle stop spend, start < middle → middle < stop →
    querySpend table ⟨accountId, start, stop⟩ = .ok spend →
      ∃ earlier later, querySpend table ⟨accountId, start, middle⟩ = .ok earlier ∧
        querySpend table ⟨accountId, middle, stop⟩ = .ok later ∧
          spend = Option.merge F64.add earlier later

/-- What a refill is decided on is what the account's usage shows, and spends of windows that
meet add up. -/
theorem spend_agrees (otherDigit : Char → Bool) (table : List UsageRow) :
    SpendAgrees otherDigit table where
  shown := by
    intro usage request points asks answers below
    obtain ⟨stride, _, answered⟩ := answered_of_query answers below
    rw [query_spend_of_usage answers asks, shown_total_eq answered asks]
  decided := by
    intro usage period accountId points asks answers below
    obtain ⟨stride, _, answered⟩ := answered_of_query answers below
    rw [spend_for_account_eq, reported_spend_eq, shown_total_eq answered asks]
  windows := by
    intro accountId start middle stop spend before after answers
    unfold querySpend at answers
    split_ifs at answers with blank disordered unreadable
    cases answers
    have readable : minTimestamp ≤ start ∧ minTimestamp ≤ stop := by simpa using unreadable
    refine ⟨spendQuery accountId start middle table, spendQuery accountId middle stop table,
      ?_, ?_, spend_query_windows accountId before.le after.le table⟩
    · rw [querySpend, if_neg blank, if_neg (by simpa using before), if_neg]
      simp only
      omega
    · rw [querySpend, if_neg blank, if_neg (by simpa using after), if_neg]
      simp only
      omega

example : querySpend accountHour ⟨"a", 0, 7200000000⟩ = .ok (some (.finite (3 / 2))) := by
  decide +kernel

end LightbridgeAuthz.Usage.SpendQueries
