import LightbridgeAuthz.Library.GroupedSums
import LightbridgeAuthz.Usage.UsageQueries
import Mathlib.Algebra.Group.Prod

/-!
# Rolling up usage

A query by more dimensions splits the points of a query by fewer. Adding up the
points of the finer answer that agree on the bucket and the remaining dimensions
gives the coarser answer, as long as neither is cut off at its limit.
-/

namespace LightbridgeAuthz.Usage.UsageRollUps

open Library.CheckedInt Library.GroupedSums
open OtlpEvents Ingestion UsageQueries

set_option autoImplicit false

theorem f64_add_assoc (left middle right : F64) :
    (left.add middle).add right = left.add (middle.add right) := by
  cases left <;> cases middle <;> cases right <;> simp [F64.add, add_assoc]

theorem f64_add_comm (left right : F64) : left.add right = right.add left := by
  cases left <;> cases right <;> simp [F64.add, add_comm]

instance : Add F64 := ⟨F64.add⟩

instance : Zero F64 := ⟨.finite 0⟩

instance : AddCommMonoid F64 where
  nsmul := nsmulRec
  add_assoc := f64_add_assoc
  add_comm := f64_add_comm
  zero_add := by
    rintro (value | _)
    · exact congrArg F64.finite (zero_add value)
    · rfl
  add_zero := by
    rintro (value | _)
    · exact congrArg F64.finite (add_zero value)
    · rfl

theorem f64_sum_eq (values : List F64) : F64.sum values = values.sum := by
  induction values with
  | nil => rfl
  | cons value rest ih => rw [F64.sum, ih, List.sum_cons]; rfl

/-- Requests, the usage value, the cost, and the three token counts. -/
abbrev Measures := Int × F64 × F64 × Int × Int × Int

def pointMeasures (point : UsageSeriesPoint) : Measures :=
  (point.requests.toInt, point.usageValue, point.totalCost, point.promptTokens.toInt,
    point.completionTokens.toInt, point.totalTokens.toInt)

/-- A count that is `NULL` adds nothing. -/
def countOf (count : Option Int64) : Int := (count.map Int64.toInt).getD 0

def rowMeasures (row : UsageRow) : Measures :=
  (row.requestCount.toInt, row.usageValue, row.totalCost, countOf row.promptTokens,
    countOf row.completionTokens, countOf row.totalTokens)

def pointKey (point : UsageSeriesPoint) : Int × List (Option String) :=
  (point.bucketStart, point.dimensions)

/-- The value of a dimension among those of a point. -/
def dimensionOf (dimensions : List (Option String)) (dimension : UsageGroupBy) : Option String :=
  ((allDimensions.zip dimensions).lookup dimension).getD none

/-- The bucket and those dimensions that are left under fewer groups. -/
def restrictKey (groupBy : List UsageGroupBy) (key : Int × List (Option String)) :
    Int × List (Option String) :=
  (key.1, allDimensions.map fun dimension =>
    if dimension ∈ groupBy then dimensionOf key.2 dimension else none)

/-- The points that agree on the bucket and the dimensions of `groupBy`, added up. -/
def rolledUp (groupBy : List UsageGroupBy) (points : List UsageSeriesPoint) :
    List ((Int × List (Option String)) × Measures) :=
  ((points.map fun point => restrictKey groupBy (pointKey point)).dedup).map fun key =>
    (key, ((points.filter fun point => restrictKey groupBy (pointKey point) = key).map
      pointMeasures).sum)

/-- The point is one for the row: its bucket holds the time of the row, and each
dimension that is grouped by is the row's. -/
def covers (groupBy : List UsageGroupBy) (stride : Int) (point : UsageSeriesPoint)
    (row : UsageRow) : Bool :=
  decide (point.bucketStart ≤ row.observedAt) &&
    decide (row.observedAt < point.bucketStart + stride) &&
      groupBy.all fun dimension =>
        decide (dimensionOf point.dimensions dimension = dimension.column row)

/-- How the answer `points` of a query stands to the table, and to the answer
`coarsePoints` of the same query by the fewer groups `coarse`. -/
structure RollsUp (table : List UsageRow) (request : UsageQueryRequest) (stride : Int)
    (coarse : List UsageGroupBy) (points coarsePoints : List UsageSeriesPoint) : Prop where
  once : ∀ row ∈ table, selects request row = true →
    (points.filter fun point => covers request.groupBy stride point row).length = 1
  counted : ∀ point ∈ points,
    pointMeasures point =
      ((table.filter fun row => selects request row && covers request.groupBy stride point row).map
        rowMeasures).sum
  rolled : (coarsePoints.map fun point => (pointKey point, pointMeasures point)).Perm
    (rolledUp coarse points)

theorem dimension_of_map (value : UsageGroupBy → Option String) (dimension : UsageGroupBy) :
    dimensionOf (allDimensions.map value) dimension = value dimension := by
  cases dimension <;> rfl

theorem restrict_group_key {request : UsageQueryRequest} {coarse : List UsageGroupBy}
    (fewer : ∀ dimension ∈ coarse, dimension ∈ request.groupBy) (limit : UInt32) (stride : Int)
    (row : UsageRow) :
    restrictKey coarse (groupKey request stride row) =
      groupKey { request with groupBy := coarse, limit := limit } stride row := by
  unfold restrictKey groupKey
  simp only [dimension_of_map, Prod.mk.injEq, true_and]
  apply List.map_congr_left
  intro dimension _
  by_cases left : dimension ∈ coarse
  · rw [if_pos left, if_pos (fewer dimension left), if_pos left]
  · rw [if_neg left, if_neg left]

theorem date_bin_eq_iff {stride : Int} (positive : 0 < stride) (time other : Int) :
    (dateBin stride other ≤ time ∧ time < dateBin stride other + stride) ↔
      dateBin stride time = dateBin stride other := by
  unfold dateBin
  constructor
  · rintro ⟨after, before⟩
    have atMost : time / stride ≤ other / stride := by
      apply Int.lt_add_one_iff.mp
      apply (Int.ediv_lt_iff_lt_mul positive).mpr
      rw [add_mul, one_mul]
      exact before
    have atLeast : other / stride ≤ time / stride :=
      (Int.le_ediv_iff_mul_le positive).mpr after
    rw [le_antisymm atMost atLeast]
  · intro same
    rw [← same]
    have low := Int.ediv_mul_le time (ne_of_gt positive)
    have high := Int.lt_ediv_add_one_mul_self time positive
    rw [add_mul, one_mul] at high
    exact ⟨low, high⟩

theorem grouped_dimensions_iff (request : UsageQueryRequest) (stride : Int)
    (row first : UsageRow) :
    (∀ dimension ∈ request.groupBy,
        dimensionOf (groupKey request stride first).2 dimension = dimension.column row) ↔
      (groupKey request stride row).2 = (groupKey request stride first).2 := by
  simp only [groupKey, dimension_of_map]
  constructor
  · intro agree
    apply List.map_congr_left
    intro dimension _
    by_cases grouped : dimension ∈ request.groupBy
    · have here := agree dimension grouped
      rw [if_pos grouped] at here
      rw [if_pos grouped, if_pos grouped, here]
    · rw [if_neg grouped, if_neg grouped]
  · intro same dimension grouped
    have here := congrArg (dimensionOf · dimension) same
    simp only [dimension_of_map, if_pos grouped] at here
    rw [if_pos grouped, here]

theorem covers_iff {request : UsageQueryRequest} {stride : Int} (positive : 0 < stride)
    {point : UsageSeriesPoint} {first : UsageRow}
    (ofGroup : pointKey point = groupKey request stride first) (row : UsageRow) :
    covers request.groupBy stride point row = true ↔
      groupKey request stride row = pointKey point := by
  have isBucket : point.bucketStart = dateBin stride first.observedAt :=
    congrArg Prod.fst ofGroup
  have isDimensions : point.dimensions = (groupKey request stride first).2 :=
    congrArg Prod.snd ofGroup
  rw [ofGroup, Prod.ext_iff, ← grouped_dimensions_iff]
  simp only [covers, Bool.and_eq_true, decide_eq_true_eq, List.all_eq_true, isBucket,
    isDimensions]
  exact and_congr_left fun _ => date_bin_eq_iff positive row.observedAt first.observedAt

theorem count_total_eq (column : UsageRow → Option Int64) (rows : List UsageRow) :
    columnTotal column rows = (rows.map fun row => countOf (column row)).sum := by
  unfold columnTotal
  induction rows with
  | nil => rfl
  | cons row rest ih =>
      rw [List.map_cons, List.sum_cons, ← ih, List.filterMap_cons]
      cases column row with
      | none => exact (zero_add _).symm
      | some count => rfl

theorem row_measures_sum (group : List UsageRow) :
    (group.map rowMeasures).sum =
      (columnTotal requestCountColumn group, F64.sum (group.map UsageRow.usageValue),
        F64.sum (group.map UsageRow.totalCost), columnTotal UsageRow.promptTokens group,
        columnTotal UsageRow.completionTokens group,
        columnTotal UsageRow.totalTokens group) := by
  simp only [count_total_eq, f64_sum_eq]
  induction group with
  | nil => rfl
  | cons row rest ih =>
      rw [List.map_cons, List.sum_cons, ih]
      rfl

theorem series_point_some {group : List UsageRow} {key : Int × List (Option String)}
    {point : UsageSeriesPoint} (made : seriesPoint exactSum group key = some point) :
    pointKey point = key ∧ pointMeasures point = (group.map rowMeasures).sum := by
  unfold seriesPoint at made
  obtain ⟨requests, requested, made⟩ := Option.bind_eq_some_iff.mp made
  obtain ⟨prompts, prompted, made⟩ := Option.bind_eq_some_iff.mp made
  obtain ⟨completions, completed, made⟩ := Option.bind_eq_some_iff.mp made
  obtain ⟨totals, totalled, made⟩ := Option.bind_eq_some_iff.mp made
  obtain ⟨values, valued, made⟩ := Option.bind_eq_some_iff.mp made
  obtain ⟨costs, costed, made⟩ := Option.bind_eq_some_iff.mp made
  obtain rfl := Option.some.inj made
  refine ⟨rfl, ?_⟩
  rw [row_measures_sum]
  simp only [pointMeasures, to_bigint_some.mp requested, to_bigint_some.mp prompted,
    to_bigint_some.mp completed, to_bigint_some.mp totalled, ← Option.some.inj valued,
    ← Option.some.inj costed]

theorem points_of_keys {rows : List UsageRow} {key : UsageRow → Int × List (Option String)}
    {keys : List (Int × List (Option String))} {points : List UsageSeriesPoint}
    (made : (keys.mapM fun group =>
      seriesPoint exactSum (rows.filter fun row => key row = group) group) = some points) :
    points.map pointKey = keys ∧
      ∀ point ∈ points,
        pointMeasures point = groupTotal rows key rowMeasures (pointKey point) := by
  induction keys generalizing points with
  | nil =>
      obtain rfl := Option.some.inj made
      exact ⟨rfl, fun point member => absurd member List.not_mem_nil⟩
  | cons group rest ih =>
      rw [List.mapM_cons] at made
      obtain ⟨first, ofFirst, made⟩ := Option.bind_eq_some_iff.mp made
      obtain ⟨others, ofOthers, made⟩ := Option.bind_eq_some_iff.mp made
      obtain rfl := Option.some.inj made
      obtain ⟨isGroup, total⟩ := series_point_some ofFirst
      obtain ⟨isRest, totals⟩ := ih ofOthers
      refine ⟨by rw [List.map_cons, isGroup, isRest], List.forall_mem_cons.mpr ⟨?_, totals⟩⟩
      rw [total, isGroup, groupTotal]

/-- An answer that is not cut off: its points are those of all groups. -/
structure Answered (table : List UsageRow) (request : UsageQueryRequest) (stride : Int)
    (points : List UsageSeriesPoint) : Prop where
  positive : 0 < stride
  keys : points.map pointKey = groupKeys request stride table
  totals : ∀ point ∈ points,
    pointMeasures point =
      groupTotal (table.filter (selects request)) (groupKey request stride) rowMeasures
        (pointKey point)

theorem bucket_stride_positive {bucket : String} {stride : Int}
    (reads : bucketStride bucket = some stride) : 0 < stride := by
  unfold bucketStride at reads
  split at reads
  split at reads
  · split at reads
    · split at reads
      · rename_i fits
        rw [← Option.some.inj reads]
        exact fits.1
      · cases reads
    · cases reads
  · cases reads

theorem query_usage_ok {otherDigit : Char → Bool} {table : List UsageRow}
    {request : UsageQueryRequest} {points : List UsageSeriesPoint}
    (answers : queryUsage exactSum otherDigit table request = .ok points) :
    ∃ stride every, bucketStride request.bucket = some stride ∧
      ((groupKeys request stride table).mapM fun key =>
        seriesPoint exactSum (groupRows request stride table key) key) = some every ∧
      every.take request.limit.toNat = points := by
  unfold queryUsage at answers
  split at answers
  · cases answers
  split at answers
  · cases answers
  split at answers
  · cases answers
  unfold repoQueryUsage at answers
  split at answers
  · cases answers
  split at answers
  · cases answers
  split at answers
  · cases answers
  rename_i stride reads
  split at answers
  · cases answers
  rename_i every made
  exact ⟨stride, every, reads, made, Except.ok.inj answers⟩

theorem answered_of_query {otherDigit : Char → Bool} {table : List UsageRow}
    {request : UsageQueryRequest} {points : List UsageSeriesPoint}
    (answers : queryUsage exactSum otherDigit table request = .ok points)
    (below : points.length < request.limit.toNat) :
    ∃ stride, bucketStride request.bucket = some stride ∧
      Answered table request stride points := by
  obtain ⟨stride, every, reads, made, cut⟩ := query_usage_ok answers
  have whole : every = points := by
    rw [← cut, List.length_take] at below
    rw [← cut, List.take_of_length_le (by omega)]
  obtain ⟨keys, totals⟩ := points_of_keys (whole ▸ made)
  exact ⟨stride, reads, bucket_stride_positive reads, keys, totals⟩

theorem group_keys_nodup (request : UsageQueryRequest) (stride : Int) (table : List UsageRow) :
    (groupKeys request stride table).Nodup :=
  (List.perm_insertionSort _ _).nodup_iff.mpr (List.nodup_dedup _)

theorem mem_group_keys {request : UsageQueryRequest} {stride : Int} {table : List UsageRow}
    {key : Int × List (Option String)} :
    key ∈ groupKeys request stride table ↔
      ∃ row ∈ table.filter (selects request), groupKey request stride row = key := by
  rw [groupKeys, List.mem_insertionSort, List.mem_dedup, List.mem_map]

section Answers

variable {table : List UsageRow} {request : UsageQueryRequest} {stride : Int}
  {points : List UsageSeriesPoint}

theorem key_listed {row : UsageRow} (member : row ∈ table.filter (selects request)) :
    groupKey request stride row ∈ groupKeys request stride table :=
  mem_group_keys.mpr ⟨row, member, rfl⟩

theorem covers_eq (answered : Answered table request stride points) {point : UsageSeriesPoint}
    (member : point ∈ points) (row : UsageRow) :
    covers request.groupBy stride point row =
      decide (groupKey request stride row = pointKey point) := by
  have listed : pointKey point ∈ groupKeys request stride table :=
    answered.keys ▸ List.mem_map_of_mem member
  obtain ⟨first, _, ofGroup⟩ := mem_group_keys.mp listed
  rw [Bool.eq_iff_iff, covers_iff answered.positive ofGroup.symm, decide_eq_true_eq]

theorem row_counted_once (answered : Answered table request stride points) {row : UsageRow}
    (member : row ∈ table) (selected : selects request row = true) :
    (points.filter fun point => covers request.groupBy stride point row).length = 1 := by
  have byKey : (points.filter fun point => covers request.groupBy stride point row) =
      points.filter ((fun key => decide (groupKey request stride row = key)) ∘ pointKey) :=
    List.filter_congr fun point inAnswer => covers_eq answered inAnswer row
  rw [byKey, ← List.length_map pointKey, ← List.filter_map, answered.keys]
  exact length_filter_key (group_keys_nodup request stride table)
    (key_listed (List.mem_filter.mpr ⟨member, selected⟩))

theorem point_counts_rows (answered : Answered table request stride points)
    {point : UsageSeriesPoint} (member : point ∈ points) :
    pointMeasures point =
      ((table.filter fun row => selects request row && covers request.groupBy stride point row).map
        rowMeasures).sum := by
  rw [answered.totals point member, groupTotal, List.filter_filter]
  congr 2
  apply List.filter_congr
  intro row _
  rw [covers_eq answered member row, Bool.and_comm]

theorem points_by_fewer (answered : Answered table request stride points)
    (coarse : List UsageGroupBy) (key : Int × List (Option String)) :
    ((points.filter fun point => restrictKey coarse (pointKey point) = key).map
      pointMeasures).sum =
        groupTotal (table.filter (selects request))
          (fun row => restrictKey coarse (groupKey request stride row)) rowMeasures key := by
  have measures : (points.filter fun point => restrictKey coarse (pointKey point) = key).map
      pointMeasures =
        ((groupKeys request stride table).filter fun fine => restrictKey coarse fine = key).map
          (groupTotal (table.filter (selects request)) (groupKey request stride)
            rowMeasures) := by
    rw [← answered.keys, List.filter_map, List.map_map]
    apply List.map_congr_left
    intro point member
    exact answered.totals point (List.mem_filter.mp member).1
  rw [measures, coarse_group_total (group_keys_nodup request stride table)
    (fun row member => key_listed member)]

theorem mem_coarse_keys (answered : Answered table request stride points)
    (coarse : List UsageGroupBy) {key : Int × List (Option String)} :
    key ∈ (points.map fun point => restrictKey coarse (pointKey point)).dedup ↔
      ∃ row ∈ table.filter (selects request),
        restrictKey coarse (groupKey request stride row) = key := by
  have through : (points.map fun point => restrictKey coarse (pointKey point)) =
      (groupKeys request stride table).map (restrictKey coarse) := by
    rw [← answered.keys, List.map_map]
    rfl
  rw [List.mem_dedup, through, List.mem_map]
  constructor
  · rintro ⟨fine, listed, rfl⟩
    obtain ⟨row, member, rfl⟩ := mem_group_keys.mp listed
    exact ⟨row, member, rfl⟩
  · rintro ⟨row, member, rfl⟩
    exact ⟨_, key_listed member, rfl⟩

theorem answer_rolls_up {coarse : List UsageGroupBy} {limit : UInt32}
    {coarsePoints : List UsageSeriesPoint}
    (fewer : ∀ dimension ∈ coarse, dimension ∈ request.groupBy)
    (answered : Answered table request stride points)
    (coarser : Answered table { request with groupBy := coarse, limit := limit } stride
      coarsePoints) :
    (coarsePoints.map fun point => (pointKey point, pointMeasures point)).Perm
      (rolledUp coarse points) := by
  have restricted : (fun row => restrictKey coarse (groupKey request stride row)) =
      groupKey { request with groupBy := coarse, limit := limit } stride :=
    funext fun row => restrict_group_key fewer limit stride row
  let total := groupTotal (table.filter (selects request))
    (groupKey { request with groupBy := coarse, limit := limit } stride) rowMeasures
  have direct : (coarsePoints.map fun point => (pointKey point, pointMeasures point)) =
      (groupKeys { request with groupBy := coarse, limit := limit } stride table).map
        fun key => (key, total key) := by
    rw [← coarser.keys, List.map_map]
    apply List.map_congr_left
    intro point member
    rw [coarser.totals point member]
    rfl
  have summed : rolledUp coarse points =
      ((points.map fun point => restrictKey coarse (pointKey point)).dedup).map
        fun key => (key, total key) := by
    unfold rolledUp
    simp only [points_by_fewer answered, restricted, total]
  rw [direct, summed]
  apply List.Perm.map
  rw [List.perm_ext_iff_of_nodup (group_keys_nodup _ _ _) (List.nodup_dedup _)]
  intro key
  rw [mem_coarse_keys answered, mem_group_keys, ← restricted]
  rfl

end Answers

/-- Two answers to one query by more and by fewer groups, neither cut off at its limit:
each selected row is counted in one point, and the finer answer adds up to the coarser. -/
theorem usage_rolls_up {otherDigit : Char → Bool} {table : List UsageRow}
    {request : UsageQueryRequest} {coarse : List UsageGroupBy} {limit : UInt32}
    {points coarsePoints : List UsageSeriesPoint}
    (fewer : ∀ dimension ∈ coarse, dimension ∈ request.groupBy)
    (answers : queryUsage exactSum otherDigit table request = .ok points)
    (below : points.length < request.limit.toNat)
    (coarseAnswers : queryUsage exactSum otherDigit table
      { request with groupBy := coarse, limit := limit } = .ok coarsePoints)
    (coarseBelow : coarsePoints.length < limit.toNat) :
    ∃ stride, bucketStride request.bucket = some stride ∧
      RollsUp table request stride coarse points coarsePoints := by
  obtain ⟨stride, reads, answered⟩ := answered_of_query answers below
  obtain ⟨coarseStride, coarseReads, coarser⟩ := answered_of_query coarseAnswers coarseBelow
  obtain rfl := Option.some.inj (reads.symm.trans coarseReads)
  exact ⟨stride, reads, {
    once := fun row member selected => row_counted_once answered member selected
    counted := fun point member => point_counts_rows answered member
    rolled := answer_rolls_up fewer answered coarser }⟩

/-- One hour of account `a`: two events of a model and one that names none. -/
def accountHour : List UsageRow :=
  [⟨10, "logs", some "a", none, none, none, none, some "gpt", none, .finite 2, 1, some 5, none,
      some 5, .finite (1 / 2), .null⟩,
    ⟨20, "logs", some "a", none, none, none, none, none, none, .finite 3, 1, none, some 4, some 4,
      .finite 1, .null⟩,
    ⟨3600000000, "logs", some "a", none, none, none, none, some "gpt", none, .finite 1, 1, some 1,
      some 1, some 2, .finite 0, .null⟩]

/-- Account `a` by model, in hours. -/
def byModel : UsageQueryRequest where
  scope := .account
  scopeId := "a"
  startTime := 0
  endTime := 7200000000
  bucket := "1 hour"
  filters := ⟨none, none, none, none, none, none, none, none⟩
  groupBy := [.model]
  limit := 10

theorem answer_of_length {answer : Except Error (List UsageSeriesPoint)} {count : Nat}
    (counted : answer.toOption.map List.length = some count) :
    ∃ points, answer = .ok points ∧ points.length = count := by
  cases answer with
  | error error => cases counted
  | ok points => exact ⟨points, rfl, Option.some.inj counted⟩

theorem account_hour_rolls_up :
    ∃ points coarsePoints stride,
      queryUsage exactSum (fun _ => false) accountHour byModel = .ok points ∧
        points.length = 3 ∧
        queryUsage exactSum (fun _ => false) accountHour
          { byModel with groupBy := [], limit := 5 } = .ok coarsePoints ∧
        coarsePoints.length = 2 ∧
        RollsUp accountHour byModel stride [] points coarsePoints := by
  have fine : (queryUsage exactSum (fun _ => false) accountHour byModel).toOption.map List.length =
      some 3 := by decide +kernel
  have coarse : (queryUsage exactSum (fun _ => false) accountHour
      { byModel with groupBy := [], limit := 5 }).toOption.map List.length = some 2 := by
    decide +kernel
  obtain ⟨points, answers, three⟩ := answer_of_length fine
  obtain ⟨coarsePoints, coarseAnswers, two⟩ := answer_of_length coarse
  have below : points.length < byModel.limit.toNat := by rw [three]; decide
  have coarseBelow : coarsePoints.length < (5 : UInt32).toNat := by rw [two]; decide
  obtain ⟨stride, _, rollsUp⟩ := usage_rolls_up (fun dimension member =>
    absurd member List.not_mem_nil) answers below coarseAnswers coarseBelow
  exact ⟨points, coarsePoints, stride, answers, three, coarseAnswers, two, rollsUp⟩

end LightbridgeAuthz.Usage.UsageRollUps
