import LightbridgeAuthz.Library.ChronoTime
import LightbridgeAuthz.Library.EventRun
import LightbridgeAuthz.Usage.Ingestion
import Mathlib.Algebra.Order.BigOperators.Group.List
import Mathlib.Data.List.Dedup
import Mathlib.Data.List.Sort

/-!
# Usage queries

A query sums the rows of one scope in buckets of time. Four of its sums are sums of
`bigint` columns, cast back to `bigint`: one group whose sum does not fit fails the
whole query. The sums of doubles are Postgres's own, which overflow as well.
-/

namespace LightbridgeAuthz.Usage.UsageQueries

open Library.CheckedInt Library.ChronoTime Library.EventRun
open Budget.Domain (isWhitespace)
open Sessions.RefreshTokens (parseDigits)
open Sessions.TokenGrants (trim)
open OtlpEvents Ingestion

set_option autoImplicit false

inductive UsageScope where
  | user
  | apiKey
  | project
  | account
  deriving DecidableEq, Repr

inductive UsageGroupBy where
  | accountId
  | projectId
  | apiKeyId
  | userId
  | userName
  | model
  | metricName
  | signalType
  deriving DecidableEq, Repr

structure UsageQueryFilters where
  accountId : Option String
  projectId : Option String
  apiKeyId : Option String
  userId : Option String
  userName : Option String
  model : Option String
  metricName : Option String
  signalType : Option String

structure UsageQueryRequest where
  scope : UsageScope
  scopeId : String
  startTime : Int
  endTime : Int
  bucket : String
  filters : UsageQueryFilters
  groupBy : List UsageGroupBy
  limit : UInt32

/-- `dimensions` are the eight columns of `allDimensions`, in that order. -/
structure UsageSeriesPoint where
  bucketStart : Int
  dimensions : List (Option String)
  requests : Int64
  usageValue : F64
  totalCost : F64
  promptTokens : Int64
  completionTokens : Int64
  totalTokens : Int64

def UsageScope.column : UsageScope → UsageRow → Option String
  | .user, row => row.userId
  | .apiKey, row => row.apiKeyId
  | .project, row => row.projectId
  | .account, row => row.accountId

def UsageGroupBy.column : UsageGroupBy → UsageRow → Option String
  | .accountId, row => row.accountId
  | .projectId, row => row.projectId
  | .apiKeyId, row => row.apiKeyId
  | .userId, row => row.userId
  | .userName, row => row.userName
  | .model, row => row.model
  | .metricName, row => row.metricName
  | .signalType, row => some row.signalType

def UsageQueryFilters.value (filters : UsageQueryFilters) : UsageGroupBy → Option String
  | .accountId => filters.accountId
  | .projectId => filters.projectId
  | .apiKeyId => filters.apiKeyId
  | .userId => filters.userId
  | .userName => filters.userName
  | .model => filters.model
  | .metricName => filters.metricName
  | .signalType => filters.signalType

def allDimensions : List UsageGroupBy :=
  [.accountId, .projectId, .apiKeyId, .userId, .userName, .model, .metricName, .signalType]

def bucketUnits : List (String × Int) :=
  [("second", 1000000), ("seconds", 1000000), ("minute", 60000000), ("minutes", 60000000),
    ("hour", 3600000000), ("hours", 3600000000), ("day", 86400000000), ("days", 86400000000)]

def splitBucket (digit : Char → Bool) (text : List Char) : List Char × List Char × String :=
  let afterCount := text.dropWhile digit
  (text.takeWhile digit, afterCount.takeWhile isWhitespace,
    String.ofList (afterCount.dropWhile isWhitespace))

/-- `\d`: the decimal digits of ASCII and, beyond it, those that `otherDigit` tells. -/
def decimalDigit (otherDigit : Char → Bool) (char : Char) : Bool :=
  char.isDigit || (decide (128 ≤ char.toNat) && otherDigit char)

def validateBucketInterval (otherDigit : Char → Bool) (bucket : String) : Except Error Unit :=
  let (count, space, unit) := splitBucket (decimalDigit otherDigit) (trim bucket).toList
  if count ≠ [] ∧ space ≠ [] ∧ (bucketUnits.lookup unit).isSome then .ok ()
  else .error (.badRequest "bucket must look like `5 minutes`, `1 hour`, or `1 day`")

/-- The cast of a bucket to an interval, and the check of `date_bin`: Postgres reads
ASCII only, and the stride is a positive `bigint` of microseconds. -/
def bucketStride (bucket : String) : Option Int :=
  let (count, _, unit) := splitBucket Char.isDigit (trim bucket).toList
  if bucket.toList.all fun char => char.toNat < 128 then
    match parseDigits count, bucketUnits.lookup unit with
    | some number, some micros =>
        if 0 < number * micros ∧ number * micros ≤ Int64.maxValue.toInt then
          some (number * micros)
        else none
    | _, _ => none
  else none

/-- The first instant of a `timestamptz`, in 4714 BC. -/
def minTimestamp : Int := -210866803200000000

/-- `date_bin` with its origin in 1970: the start of the stride that holds the time. -/
def dateBin (stride observedAt : Int) : Int := observedAt / stride * stride

def inRange (request : UsageQueryRequest) (row : UsageRow) : Bool :=
  decide (request.startTime ≤ row.observedAt) && decide (row.observedAt < request.endTime)

def inScope (scope : UsageScope) (scopeId : String) (row : UsageRow) : Bool :=
  decide (scope.column row = some scopeId)

def passesFilters (filters : UsageQueryFilters) (row : UsageRow) : Bool :=
  allDimensions.all fun dimension =>
    (filters.value dimension).all fun wanted => decide (dimension.column row = some wanted)

/-- The `WHERE` clause. -/
def selects (request : UsageQueryRequest) (row : UsageRow) : Bool :=
  inRange request row && inScope request.scope request.scopeId row &&
    passesFilters request.filters row

/-- The bucket and the dimensions that the query groups by; the others are `NULL`. -/
def groupKey (request : UsageQueryRequest) (stride : Int) (row : UsageRow) :
    Int × List (Option String) :=
  (dateBin stride row.observedAt,
    allDimensions.map fun dimension =>
      if dimension ∈ request.groupBy then dimension.column row else none)

def requestCountColumn (row : UsageRow) : Option Int64 := some row.requestCount

def countColumns : List (UsageRow → Option Int64) :=
  [requestCountColumn, UsageRow.promptTokens, UsageRow.completionTokens, UsageRow.totalTokens]

/-- The exact sum of a column. A sum over no value is `NULL` and is answered as zero. -/
def columnTotal (column : UsageRow → Option Int64) (rows : List UsageRow) : Int :=
  ((rows.filterMap column).map Int64.toInt).sum

/-- The columns of `double precision`. -/
def doubleColumns : List (UsageRow → F64) := [UsageRow.usageValue, UsageRow.totalCost]

def exactSum (values : List F64) : Option F64 := some (F64.sum values)

section Sums

-- `SUM` over `double precision`, in the order it meets the rows; `none` on overflow.
variable (sumDoubles : List F64 → Option F64)

/-- One row of the answer; `none` where a sum is out of the range of its column. -/
def seriesPoint (group : List UsageRow) (key : Int × List (Option String)) :
    Option UsageSeriesPoint := do
  let requests ← toBigint (columnTotal requestCountColumn group)
  let promptTokens ← toBigint (columnTotal UsageRow.promptTokens group)
  let completionTokens ← toBigint (columnTotal UsageRow.completionTokens group)
  let totalTokens ← toBigint (columnTotal UsageRow.totalTokens group)
  let usageValue ← sumDoubles (group.map UsageRow.usageValue)
  let totalCost ← sumDoubles (group.map UsageRow.totalCost)
  return {
    bucketStart := key.1
    dimensions := key.2
    requests := requests
    usageValue := usageValue
    totalCost := totalCost
    promptTokens := promptTokens
    completionTokens := completionTokens
    totalTokens := totalTokens }

end Sums

def groupKeys (request : UsageQueryRequest) (stride : Int) (table : List UsageRow) :
    List (Int × List (Option String)) :=
  ((table.filter (selects request)).map (groupKey request stride)).dedup.insertionSort
    fun left right => left.1 ≤ right.1

def groupRows (request : UsageQueryRequest) (stride : Int) (table : List UsageRow)
    (key : Int × List (Option String)) : List UsageRow :=
  (table.filter (selects request)).filter fun row => groupKey request stride row = key

section Queries

variable (sumDoubles : List F64 → Option F64) (otherDigit : Char → Bool)

/-- `StoreRepo::query_usage`. Every group is summed before the order and the limit apply. -/
def repoQueryUsage (table : List UsageRow) (request : UsageQueryRequest) :
    Except Error (List UsageSeriesPoint) :=
  match validateBucketInterval otherDigit request.bucket with
  | .error error => .error error
  | .ok _ =>
      if request.startTime < minTimestamp ∨ request.endTime < minTimestamp then
        .error (.sqlx "timestamp out of range")
      else
        match bucketStride request.bucket with
        | none => .error (.sqlx "the bucket is no stride")
        | some stride =>
            match (groupKeys request stride table).mapM fun key =>
                seriesPoint sumDoubles (groupRows request stride table key) key with
            | none => .error (.sqlx "a sum is out of range")
            | some points => .ok (points.take request.limit.toNat)

def queryUsage (table : List UsageRow) (request : UsageQueryRequest) :
    Except Error (List UsageSeriesPoint) :=
  if request.endTime ≤ request.startTime then
    .error (.badRequest "start_time must be before end_time")
  else if trim request.scopeId = "" then
    .error (.badRequest "scope_id is required for usage queries")
  else if request.limit = 0 then
    .error (.badRequest "limit must be greater than zero")
  else repoQueryUsage sumDoubles otherDigit table request

/-- A request that the handler takes, with bounds and a bucket that Postgres can read. -/
structure ValidRequest (request : UsageQueryRequest) : Prop where
  ordered : request.startTime < request.endTime
  readableStart : minTimestamp ≤ request.startTime
  readableEnd : request.endTime ≤ maxUtc
  hasScope : trim request.scopeId ≠ ""
  limited : request.limit ≠ 0
  bucket : validateBucketInterval otherDigit request.bucket = .ok ()
  stride : (bucketStride request.bucket).isSome = true

def NeverPoisoned (table : List UsageRow) : Prop :=
  ∀ request, ValidRequest otherDigit request →
    ∃ points, queryUsage sumDoubles otherDigit table request = .ok points

end Queries

/-- The rows of every scope that can be asked for have sums in the range of `bigint`. -/
def TotalsFit (table : List UsageRow) : Prop :=
  ∀ (scope : UsageScope) (scopeId : String), trim scopeId ≠ "" →
    ∀ column ∈ countColumns,
      columnTotal column (table.filter (inScope scope scopeId)) ≤ Int64.maxValue.toInt

/-- Nor does `SUM` overflow over any selection of the rows of a scope. -/
def DoublesFit (sumDoubles : List F64 → Option F64) (table : List UsageRow) : Prop :=
  ∀ (scope : UsageScope) (scopeId : String), trim scopeId ≠ "" →
    ∀ part, part ≠ [] → part.Sublist (table.filter (inScope scope scopeId)) →
      ∀ column ∈ doubleColumns, (sumDoubles (part.map column)).isSome = true

/-- What ingestion checks of every row, and when a row can have been observed. -/
structure RowChecked (row : UsageRow) : Prop where
  counts : ∀ column ∈ countColumns, ∀ value, column row = some value → 0 ≤ value.toInt
  afterEpoch : 0 ≤ row.observedAt
  beforeEnd : row.observedAt < maxUtc

theorem to_bigint_is_some_iff (value : Int) :
    (toBigint value).isSome = true ↔
      Int64.minValue.toInt ≤ value ∧ value ≤ Int64.maxValue.toInt := by
  unfold toBigint
  split_ifs with fits
  · exact ⟨fun _ => fits, fun _ => rfl⟩
  · exact ⟨fun absent => absurd absent (by simp), fun inside => absurd inside fits⟩

/-- The sums of a group are in the range of their columns. -/
structure GroupFits (sumDoubles : List F64 → Option F64) (group : List UsageRow) : Prop where
  counts : ∀ column ∈ countColumns, (toBigint (columnTotal column group)).isSome = true
  doubles : ∀ column ∈ doubleColumns, (sumDoubles (group.map column)).isSome = true

theorem series_point_is_some_iff (sumDoubles : List F64 → Option F64) (group : List UsageRow)
    (key : Int × List (Option String)) :
    (seriesPoint sumDoubles group key).isSome = true ↔ GroupFits sumDoubles group := by
  have fields : GroupFits sumDoubles group ↔
      (∀ column ∈ countColumns, (toBigint (columnTotal column group)).isSome = true) ∧
        ∀ column ∈ doubleColumns, (sumDoubles (group.map column)).isSome = true :=
    ⟨fun fits => ⟨fits.counts, fits.doubles⟩, fun fits => ⟨fits.1, fits.2⟩⟩
  rw [fields]
  simp only [countColumns, doubleColumns, List.forall_mem_cons, List.not_mem_nil,
    IsEmpty.forall_iff, implies_true, and_true, seriesPoint]
  cases toBigint (columnTotal requestCountColumn group) <;>
    cases toBigint (columnTotal UsageRow.promptTokens group) <;>
    cases toBigint (columnTotal UsageRow.completionTokens group) <;>
    cases toBigint (columnTotal UsageRow.totalTokens group) <;>
    cases sumDoubles (group.map UsageRow.usageValue) <;>
    cases sumDoubles (group.map UsageRow.totalCost) <;> simp

theorem map_m_is_some_iff {Key Point : Type} (point : Key → Option Point) (keys : List Key) :
    (keys.mapM point).isSome = true ↔ ∀ key ∈ keys, (point key).isSome = true := by
  induction keys with
  | nil => simp
  | cons key rest ih =>
      rw [List.mapM_cons, List.forall_mem_cons, ← ih]
      cases point key with
      | none => simp
      | some value => cases rest.mapM point <;> simp

theorem query_answered_iff {sumDoubles : List F64 → Option F64} {otherDigit : Char → Bool}
    {request : UsageQueryRequest} {stride : Int} (table : List UsageRow)
    (valid : ValidRequest otherDigit request)
    (reads : bucketStride request.bucket = some stride) :
    (∃ points, queryUsage sumDoubles otherDigit table request = .ok points) ↔
      ∀ row ∈ table.filter (selects request),
        GroupFits sumDoubles
          (groupRows request stride table (groupKey request stride row)) := by
  have low := valid.readableStart
  have ordered := valid.ordered
  have summed : (∃ points, queryUsage sumDoubles otherDigit table request = .ok points) ↔
      ((groupKeys request stride table).mapM fun key =>
        seriesPoint sumDoubles (groupRows request stride table key) key).isSome = true := by
    unfold queryUsage repoQueryUsage
    rw [if_neg (by omega), if_neg valid.hasScope, if_neg valid.limited, valid.bucket]
    simp only [reads]
    rw [if_neg (by omega)]
    cases (groupKeys request stride table).mapM fun key =>
      seriesPoint sumDoubles (groupRows request stride table key) key <;> simp
  rw [summed, map_m_is_some_iff]
  simp only [series_point_is_some_iff, groupKeys, List.mem_insertionSort, List.mem_dedup,
    List.mem_map]
  constructor
  · intro each row member
    exact each _ ⟨row, member, rfl⟩
  · rintro each _ ⟨row, member, rfl⟩
    exact each row member

theorem column_total_nonneg {column : UsageRow → Option Int64} {rows : List UsageRow}
    (counted : column ∈ countColumns) (checked : ∀ row ∈ rows, RowChecked row) :
    0 ≤ columnTotal column rows := by
  apply List.sum_nonneg
  intro total member
  obtain ⟨value, fromRow, rfl⟩ := List.mem_map.mp member
  obtain ⟨row, inRows, read⟩ := List.mem_filterMap.mp fromRow
  exact (checked row inRows).counts column counted value read

theorem column_total_le {column : UsageRow → Option Int64} {fewer rows : List UsageRow}
    (counted : column ∈ countColumns) (checked : ∀ row ∈ rows, RowChecked row)
    (part : fewer.Sublist rows) : columnTotal column fewer ≤ columnTotal column rows := by
  apply List.Sublist.sum_le_sum ((part.filterMap column).map Int64.toInt)
  intro total member
  obtain ⟨value, fromRow, rfl⟩ := List.mem_map.mp member
  obtain ⟨row, inRows, read⟩ := List.mem_filterMap.mp fromRow
  exact (checked row inRows).counts column counted value read

theorem group_rows_sublist (request : UsageQueryRequest) (stride : Int) (table : List UsageRow)
    (key : Int × List (Option String)) :
    (groupRows request stride table key).Sublist
      (table.filter (inScope request.scope request.scopeId)) := by
  refine List.Sublist.trans List.filter_sublist ?_
  apply List.monotone_filter_right
  intro row selected
  simp only [selects, Bool.and_eq_true] at selected
  exact selected.1.2

theorem group_rows_ne_nil {request : UsageQueryRequest} {stride : Int} {table : List UsageRow}
    {row : UsageRow} (member : row ∈ table.filter (selects request)) :
    groupRows request stride table (groupKey request stride row) ≠ [] := by
  apply List.ne_nil_of_mem
  exact List.mem_filter.mpr ⟨member, decide_eq_true rfl⟩

theorem never_poisoned_of_fits {sumDoubles : List F64 → Option F64} {otherDigit : Char → Bool}
    {table : List UsageRow} (checked : ∀ row ∈ table, RowChecked row) (fits : TotalsFit table)
    (doublesFit : DoublesFit sumDoubles table) :
    NeverPoisoned sumDoubles otherDigit table := by
  intro request valid
  obtain ⟨stride, reads⟩ := Option.isSome_iff_exists.mp valid.stride
  rw [query_answered_iff table valid reads]
  intro row member
  have part := group_rows_sublist request stride table (groupKey request stride row)
  have scopeChecked : ∀ row ∈ table.filter (inScope request.scope request.scopeId),
      RowChecked row := fun row inScope => checked row (List.mem_filter.mp inScope).1
  constructor
  · intro column counted
    rw [to_bigint_is_some_iff]
    constructor
    · have bottom : Int64.minValue.toInt ≤ 0 := by decide
      exact bottom.trans (column_total_nonneg counted fun row inGroup =>
        scopeChecked row (part.subset inGroup))
    · exact (column_total_le counted scopeChecked part).trans
        (fits request.scope request.scopeId valid.hasScope column counted)
  · exact doublesFit request.scope request.scopeId valid.hasScope _
      (group_rows_ne_nil member) part

/-- The query for all rows of a scope in one bucket. -/
def wholeScope (scope : UsageScope) (scopeId : String) : UsageQueryRequest where
  scope := scope
  scopeId := scopeId
  startTime := 0
  endTime := maxUtc
  bucket := "100000000 days"
  filters := ⟨none, none, none, none, none, none, none, none⟩
  groupBy := []
  limit := 1

def wholeStride : Int := 8640000000000000000

theorem whole_scope_stride (scope : UsageScope) (scopeId : String) :
    bucketStride (wholeScope scope scopeId).bucket = some wholeStride := by
  have reads : bucketStride "100000000 days" = some wholeStride := by decide +kernel
  exact reads

theorem split_bucket_ascii (otherDigit : Char → Bool) {text : List Char}
    (ascii : ∀ char ∈ text, char.toNat < 128) :
    splitBucket (decimalDigit otherDigit) text = splitBucket Char.isDigit text := by
  have same : ∀ char ∈ text, decimalDigit otherDigit char = char.isDigit := by
    intro char member
    have small := ascii char member
    simp [decimalDigit, small]
  have digits : text.takeWhile (decimalDigit otherDigit) = text.takeWhile Char.isDigit ∧
      text.dropWhile (decimalDigit otherDigit) = text.dropWhile Char.isDigit := by
    induction text with
    | nil => exact ⟨rfl, rfl⟩
    | cons char rest ih =>
        have later := ih (fun char member => ascii char (List.mem_cons_of_mem _ member))
          (fun char member => same char (List.mem_cons_of_mem _ member))
        rw [List.takeWhile_cons, List.takeWhile_cons, List.dropWhile_cons, List.dropWhile_cons,
          same char List.mem_cons_self, later.1, later.2]
        exact ⟨rfl, rfl⟩
  simp only [splitBucket, digits.1, digits.2]

theorem whole_scope_valid (otherDigit : Char → Bool) (scope : UsageScope) {scopeId : String}
    (named : trim scopeId ≠ "") : ValidRequest otherDigit (wholeScope scope scopeId) where
  ordered := by simp [wholeScope, maxUtc]
  readableStart := by simp [wholeScope, minTimestamp]
  readableEnd := by simp [wholeScope]
  hasScope := named
  limited := by simp [wholeScope]
  bucket := by
    have small : ((trim "100000000 days").toList.all fun char => decide (char.toNat < 128)) =
        true := by decide +kernel
    have ascii : ∀ char ∈ (trim "100000000 days").toList, char.toNat < 128 :=
      fun char member => of_decide_eq_true (List.all_eq_true.mp small char member)
    have parts : splitBucket Char.isDigit (trim "100000000 days").toList =
        ("100000000".toList, [' '], "days") := by decide +kernel
    have matched : "100000000".toList ≠ [] ∧ [' '] ≠ [] ∧ (bucketUnits.lookup "days").isSome :=
      ⟨by decide +kernel, List.cons_ne_nil _ _, by decide +kernel⟩
    simp only [validateBucketInterval, wholeScope, split_bucket_ascii otherDigit ascii, parts]
    exact if_pos matched
  stride := by rw [whole_scope_stride]; rfl

theorem whole_scope_selects {scope : UsageScope} {scopeId : String} {row : UsageRow}
    (checked : RowChecked row) :
    selects (wholeScope scope scopeId) row = inScope scope scopeId row := by
  have after := checked.afterEpoch
  have before := checked.beforeEnd
  simp [selects, inRange, passesFilters, allDimensions, wholeScope, UsageQueryFilters.value, after,
    before]

theorem whole_scope_key {scope : UsageScope} {scopeId : String} {row : UsageRow}
    (checked : RowChecked row) :
    groupKey (wholeScope scope scopeId) wholeStride row = (0, allDimensions.map fun _ => none) := by
  have after := checked.afterEpoch
  have before := checked.beforeEnd
  have first : row.observedAt / wholeStride = 0 := by
    apply Int.ediv_eq_zero_of_lt after
    rw [maxUtc] at before
    rw [wholeStride]
    omega
  simp [groupKey, dateBin, first, wholeScope]

theorem totals_fit_of_never_poisoned {sumDoubles : List F64 → Option F64}
    {otherDigit : Char → Bool} {table : List UsageRow}
    (checked : ∀ row ∈ table, RowChecked row)
    (answers : NeverPoisoned sumDoubles otherDigit table) : TotalsFit table := by
  intro scope scopeId named column counted
  have valid := whole_scope_valid otherDigit scope named
  have fits := (query_answered_iff table valid (whole_scope_stride scope scopeId)).mp
    (answers _ valid)
  have selected : table.filter (selects (wholeScope scope scopeId)) =
      table.filter (inScope scope scopeId) :=
    List.filter_congr fun row member => whole_scope_selects (checked row member)
  rw [selected] at fits
  cases rows : table.filter (inScope scope scopeId) with
  | nil =>
      have top : (0 : Int) ≤ Int64.maxValue.toInt := by decide
      simpa [columnTotal] using top
  | cons first rest =>
      have member : first ∈ table.filter (inScope scope scopeId) := by simp [rows]
      have whole : groupRows (wholeScope scope scopeId) wholeStride table
          (groupKey (wholeScope scope scopeId) wholeStride first) =
            table.filter (inScope scope scopeId) := by
        rw [groupRows, selected]
        apply List.filter_eq_self.mpr
        intro row inRows
        rw [whole_scope_key (checked row (List.mem_filter.mp inRows).1),
          whole_scope_key (checked first (List.mem_filter.mp member).1)]
        exact decide_eq_true rfl
      have fit := (fits first member).counts column counted
      rw [whole, to_bigint_is_some_iff, rows] at fit
      exact fit.2

/-- A request at an ingest endpoint, and what its events read of the clock. -/
structure IngestCall where
  endpoint : Endpoint
  request : IngestRequest
  clock : Nat → Int
  afterEpoch : ∀ index, 0 ≤ clock index
  beforeEnd : ∀ index, clock index < maxUtc

section Runs

variable (decoders : Decoders) (storable : UsageRow → Bool) (formatFloat : Rat → String)

def step (table : List UsageRow) (call : IngestCall) : Option (List UsageRow) :=
  some (ingest decoders storable formatFloat call.clock call.endpoint call.request table).2

/-- Where the request is accepted, the totals of the table and its rows fit together. -/
def KeepsTotals (table : List UsageRow) (call : IngestCall) : Prop :=
  ∀ payload, acceptedPayload decoders formatFloat call.clock call.endpoint call.request payload →
    taken storable (payload.events formatFloat call.clock) →
      TotalsFit (table ++ rowsOf formatFloat call.clock payload)

/-- Where the request is accepted, no selection of the rows of a scope overflows. -/
def KeepsDoubles (sumDoubles : List F64 → Option F64) (table : List UsageRow)
    (call : IngestCall) : Prop :=
  ∀ payload, acceptedPayload decoders formatFloat call.clock call.endpoint call.request payload →
    taken storable (payload.events formatFloat call.clock) →
      DoublesFit sumDoubles (table ++ rowsOf formatFloat call.clock payload)

variable {decoders storable formatFloat} {table next : List UsageRow} {call : IngestCall}

theorem step_cases (stepped : step decoders storable formatFloat table call = some next) :
    (∃ payload,
      acceptedPayload decoders formatFloat call.clock call.endpoint call.request payload ∧
        taken storable (payload.events formatFloat call.clock) ∧
        next = table ++ rowsOf formatFloat call.clock payload) ∨ next = table := by
  have result := Option.some.inj stepped
  by_cases accepts : ∃ payload,
      acceptedPayload decoders formatFloat call.clock call.endpoint call.request payload
  · obtain ⟨payload, accepted⟩ := accepts
    by_cases takes : taken storable (payload.events formatFloat call.clock)
    · rw [ingest_taken decoders storable formatFloat call.clock call.endpoint call.request table
        accepted takes] at result
      exact Or.inl ⟨payload, accepted, takes, result.symm⟩
    · obtain ⟨message, refused⟩ := persist_not_taken table accepted.2 takes
      rw [ingest_accepted decoders storable formatFloat call.clock call.endpoint call.request table
        accepted, refused] at result
      exact Or.inr result.symm
  · obtain ⟨error, refused⟩ := ingest_refused decoders storable formatFloat call.clock call.endpoint
      call.request table accepts
    rw [refused] at result
    exact Or.inr result.symm

theorem step_accepted {payload : Payload} (table : List UsageRow)
    (accepted : acceptedPayload decoders formatFloat call.clock call.endpoint call.request payload)
    (takes : taken storable (payload.events formatFloat call.clock)) :
    step decoders storable formatFloat table call =
      some (table ++ rowsOf formatFloat call.clock payload) := by
  rw [step, ingest_taken decoders storable formatFloat call.clock call.endpoint call.request table
    accepted takes]

theorem rows_checked {payload : Payload}
    (accepted : acceptedPayload decoders formatFloat call.clock call.endpoint call.request
      payload) :
    ∀ row ∈ rowsOf formatFloat call.clock payload, RowChecked row := by
  intro row member
  obtain ⟨event, inEvents, rfl⟩ := List.mem_map.mp member
  have checked := event_checked ((validate_events_ok_iff _).mp accepted.2 event inEvents)
  obtain ⟨item, -, index, rfl⟩ := event_of_item formatFloat inEvents
  obtain ⟨nanos, observed⟩ := item_observed_at formatFloat (call.clock index) item
  have after := call.afterEpoch index
  have before := call.beforeEnd index
  have small := nanos.toNat_lt
  refine ⟨?_, ?_, ?_⟩
  · intro column counted value read
    simp only [countColumns, List.mem_cons, List.not_mem_nil, or_false] at counted
    obtain rfl | rfl | rfl | rfl := counted
    · have same := Option.some.inj read
      rw [← same]
      exact checked.requests
    · exact checked.tokens _ (by simp [rowOf]) value read
    · exact checked.tokens _ (by simp [rowOf]) value read
    · exact checked.tokens _ (by simp [rowOf]) value read
  · change 0 ≤ (item.toEvent formatFloat (call.clock index)).observedAt
    rw [observed, nanosToDatetime]
    split <;> omega
  · change (item.toEvent formatFloat (call.clock index)).observedAt < maxUtc
    rw [observed, nanosToDatetime]
    split
    · omega
    · rw [maxUtc]
      omega

theorem step_keeps_checked (checked : ∀ row ∈ table, RowChecked row)
    (stepped : step decoders storable formatFloat table call = some next) :
    ∀ row ∈ next, RowChecked row := by
  obtain ⟨payload, accepted, _, rfl⟩ | rfl := step_cases stepped
  · intro row member
    obtain old | new := List.mem_append.mp member
    · exact checked row old
    · exact rows_checked accepted row new
  · exact checked

theorem doubles_fit_nil (sumDoubles : List F64 → Option F64) : DoublesFit sumDoubles [] := by
  intro scope scopeId _ part nonempty sub
  exact absurd (List.sublist_nil.mp sub) nonempty

theorem totals_fit_nil : TotalsFit [] := by
  intro scope scopeId _ column _
  have top : (0 : Int) ≤ Int64.maxValue.toInt := by decide
  simpa [columnTotal] using top

end Runs

theorem epoch_before_end : 0 < maxUtc := by decide

/-- A log record of account `a` with the largest count of tokens. -/
def largestLog : LogRecord :=
  ⟨1, 0, "", [("account_id", .stringValue "a"), ("total_tokens", .intValue Int64.maxValue)]⟩

def largestLogBytes : List UInt8 :=
  [0x09, 1, 0, 0, 0, 0, 0, 0, 0] ++
    protobufField 0x32 (protobufField 0x0A (textBytes "account_id") ++
      protobufField 0x12 (protobufField 0x0A (textBytes "a"))) ++
    protobufField 0x32 (protobufField 0x0A (textBytes "total_tokens") ++
      protobufField 0x12 [0x18, 0xFF, 0xFF, 0xFF, 0xFF, 0xFF, 0xFF, 0xFF, 0xFF, 0x7F])

def oneLargestLog : Payload := .logs [⟨none, [[largestLog]]⟩]

def oneLargestBody : List UInt8 :=
  protobufField 0x0A (protobufField 0x12 (protobufField 0x12 largestLogBytes))

def oneLargestCall : IngestCall :=
  ⟨.logs, ⟨none, none, oneLargestBody⟩, atEpoch, fun _ => Int.le_refl 0, fun _ => epoch_before_end⟩

def twoLargestLogs : Payload := .logs [⟨none, [[largestLog, largestLog]]⟩]

def twoLargestBody : List UInt8 :=
  protobufField 0x0A (protobufField 0x12
    (protobufField 0x12 largestLogBytes ++ protobufField 0x12 largestLogBytes))

def twoLargestCall : IngestCall :=
  ⟨.logs, ⟨none, none, twoLargestBody⟩, atEpoch, fun _ => Int.le_refl 0, fun _ => epoch_before_end⟩

end LightbridgeAuthz.Usage.UsageQueries
