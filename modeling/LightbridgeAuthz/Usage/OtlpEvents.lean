import LightbridgeAuthz.Access.ModelPolicies
import LightbridgeAuthz.Library.CheckedInt
import LightbridgeAuthz.Library.SortedEntries
import LightbridgeAuthz.Sessions.TokenGrants
import Mathlib.Data.Rat.Floor
import Mathlib.Data.String.Basic

/-!
# Usage events from OTLP payloads

One usage event for each log record, span and metric data point. Its dimensions,
token counts and cost are attributes that the sender chooses: each is looked up
under several keys, in a map where a record's attributes override those of its
resource. A finite `f64` is an exact rational here; instants are in microseconds.
-/

namespace LightbridgeAuthz.Usage.OtlpEvents

open Library.CheckedInt Library.SortedEntries
open Access.ModelPolicies (Json)
open Sessions.RefreshTokens (parseDigits parseI64)
open Sessions.TokenGrants (trim)

set_option autoImplicit false

inductive F64 where
  | finite (value : Rat)
  | nonFinite
  deriving DecidableEq, Repr

def F64.isFinite : F64 → Bool
  | .finite _ => true
  | .nonFinite => false

def F64.add : F64 → F64 → F64
  | .finite left, .finite right => .finite (left + right)
  | _, _ => .nonFinite

/-- `SUM` over doubles. -/
def F64.sum : List F64 → F64
  | [] => .finite 0
  | value :: rest => value.add (F64.sum rest)

def F64.value : F64 → Rat
  | .finite value => value
  | .nonFinite => 0

theorem f64_sum_eq_finite_iff (values : List F64) (total : Rat) :
    F64.sum values = .finite total ↔
      (∀ value ∈ values, value.isFinite = true) ∧ (values.map F64.value).sum = total := by
  induction values generalizing total with
  | nil => simp [F64.sum]
  | cons value rest ih =>
      cases value with
      | nonFinite => simp [F64.sum, F64.add, F64.isFinite]
      | finite first =>
          cases sums : F64.sum rest with
          | finite other =>
              obtain ⟨finite, isOther⟩ := (ih other).mp sums
              have here : (F64.finite first).isFinite = true := rfl
              rw [F64.sum, sums, List.forall_mem_cons, List.map_cons, List.sum_cons, isOther]
              simp only [F64.add, F64.finite.injEq, F64.value, here, true_and]
              exact ⟨fun same => ⟨finite, same⟩, fun both => both.2⟩
          | nonFinite =>
              have infinite : ¬ ∀ value ∈ rest, value.isFinite = true := by
                intro finite
                have summed := (ih _).mpr ⟨finite, rfl⟩
                rw [sums] at summed
                cases summed
              simp only [F64.sum, F64.add, sums, List.forall_mem_cons, infinite, and_false,
                false_and, reduceCtorEq]

/-- `AnyValue`. A value that is not there and a reference into a string table, which
is not resolved, have their own cases. -/
inductive AnyValue where
  | stringValue (value : String)
  | boolValue (value : Bool)
  | intValue (value : Int64)
  | doubleValue (value : F64)
  | arrayValue (values : List AnyValue)
  | kvlistValue (entries : List (String × AnyValue))
  | bytesValue (value : List UInt8)
  | stringValueStrindex
  | absent

structure LogRecord where
  timeUnixNano : UInt64
  observedTimeUnixNano : UInt64
  severityText : String
  attributes : List (String × AnyValue)

structure Span where
  name : String
  startTimeUnixNano : UInt64
  endTimeUnixNano : UInt64
  attributes : List (String × AnyValue)

inductive NumberValue where
  | asDouble (value : F64)
  | asInt (value : Int64)

structure NumberDataPoint where
  attributes : List (String × AnyValue)
  timeUnixNano : UInt64
  value : Option NumberValue

/-- The fields read of a histogram's point; an exponential histogram's are the same. -/
structure HistogramDataPoint where
  attributes : List (String × AnyValue)
  timeUnixNano : UInt64
  count : UInt64
  sum : Option F64

structure SummaryDataPoint where
  attributes : List (String × AnyValue)
  timeUnixNano : UInt64
  count : UInt64
  sum : F64

inductive MetricData where
  | gauge (points : List NumberDataPoint)
  | sum (points : List NumberDataPoint)
  | histogram (points : List HistogramDataPoint)
  | exponentialHistogram (points : List HistogramDataPoint)
  | summary (points : List SummaryDataPoint)

structure Metric where
  name : String
  metadata : List (String × AnyValue)
  data : Option MetricData

/-- What one resource sends: its attributes, if it has any, and the records of each
of its scopes. -/
structure ResourceRecords (Record : Type) where
  resource : Option (List (String × AnyValue))
  scopes : List (List Record)

inductive Payload where
  | logs (resources : List (ResourceRecords LogRecord))
  | traces (resources : List (ResourceRecords Span))
  | metrics (resources : List (ResourceRecords Metric))

structure UsageEvent where
  observedAt : Int
  signalType : String
  accountId : Option String
  projectId : Option String
  apiKeyId : Option String
  userId : Option String
  userName : Option String
  model : Option String
  metricName : Option String
  usageValue : F64
  requestCount : Int64
  promptTokens : Option Int64
  completionTokens : Option Int64
  totalTokens : Option Int64
  totalCost : Option F64
  attributes : Json

def accountKeys : List String :=
  ["account_id", "account.id", "x-account-id", "authz.account_id", "lb.account_id"]

def projectKeys : List String :=
  ["project_id", "project.id", "x-project-id", "authz.project_id", "lb.project_id"]

def apiKeyKeys : List String :=
  ["api_key_id", "api_key.id", "x-api-key-id", "authz.api_key_id", "lb.api_key_id"]

def userKeys : List String :=
  ["user_id", "user.id", "end_user.id", "lc_user_id", "x-user-id", "authz.user_id"]

def userNameKeys : List String :=
  ["user_name", "user.name", "end_user.name", "lc_user_name", "x-user-name", "authz.user_name"]

def modelKeys : List String :=
  ["model", "llm.model", "ai.model", "gen_ai.request.model", "genai.request.model"]

def promptTokensKeys : List String :=
  ["prompt_tokens", "input_tokens", "usage.prompt_tokens", "gen_ai.usage.prompt_tokens",
    "genai.usage.prompt_tokens", "gen_ai.usage.input_tokens"]

def completionTokensKeys : List String :=
  ["completion_tokens", "output_tokens", "usage.completion_tokens",
    "gen_ai.usage.completion_tokens", "genai.usage.completion_tokens",
    "gen_ai.usage.output_tokens"]

def totalTokensKeys : List String :=
  ["total_tokens", "usage.total_tokens", "tokens", "gen_ai.usage.total_tokens",
    "genai.usage.total_tokens"]

def usageValueKeys : List String :=
  ["usage_value", "usage", "gen_ai.usage.total_tokens"]

def costKeys : List String :=
  ["io.envoy.ai_gateway.llm_custom_total_cost", "custom_total_cost", "cost",
    "gen_ai.usage.custom_total_cost"]

def hexDigit (value : Nat) : Char :=
  "0123456789abcdef".toList.getD value '0'

def hexEncode (bytes : List UInt8) : String :=
  String.ofList
    (bytes.flatMap fun byte => [hexDigit (byte.toNat / 16), hexDigit (byte.toNat % 16)])

/-- Maps are listed by their keys; inserting under a key replaces its value. -/
def attrRank (key : String) : String := key

mutual

/-- A double without a finite value has no JSON number. -/
def anyValueToJson : AnyValue → Json
  | .stringValue value => .string value
  | .boolValue value => .bool value
  | .intValue value => .integer value.toInt
  | .doubleValue (.finite value) => .real value
  | .doubleValue .nonFinite => .null
  | .arrayValue values => .array (anyValuesToJson values)
  | .kvlistValue entries => .object (collect attrRank (anyEntriesToJson entries))
  | .bytesValue value => .string (hexEncode value)
  | .stringValueStrindex => .null
  | .absent => .null

def anyValuesToJson : List AnyValue → List Json
  | [] => []
  | value :: rest => anyValueToJson value :: anyValuesToJson rest

def anyEntriesToJson : List (String × AnyValue) → List (String × Json)
  | [] => []
  | (key, value) :: rest => (key, anyValueToJson value) :: anyEntriesToJson rest

end

def keyValuesToMap (values : List (String × AnyValue)) : List (String × Json) :=
  collect attrRank (anyEntriesToJson values)

def mergeAttrMaps (base additional : List (String × Json)) : List (String × Json) :=
  merge attrRank base additional

/-- An exponent's sign and digits, with nothing after them. -/
def parseExponent : List Char → Option Int
  | '-' :: digits => (parseDigits digits).map fun magnitude => -(magnitude : Int)
  | '+' :: digits => (parseDigits digits).map fun magnitude => (magnitude : Int)
  | digits => (parseDigits digits).map fun magnitude => (magnitude : Int)

/-- Digits around at most one point, then an exponent. -/
def parseDecimal (text : List Char) : Option Rat :=
  let whole := text.takeWhile Char.isDigit
  let afterWhole := text.dropWhile Char.isDigit
  let fraction :=
    match afterWhole with
    | '.' :: rest => rest.takeWhile Char.isDigit
    | _ => []
  let afterFraction :=
    match afterWhole with
    | '.' :: rest => rest.dropWhile Char.isDigit
    | rest => rest
  let exponent : Option Int :=
    match afterFraction with
    | [] => some 0
    | mark :: rest => if mark = 'e' ∨ mark = 'E' then parseExponent rest else none
  match parseDigits (whole ++ fraction), exponent with
  | some mantissa, some power => some (mantissa * (10 : Rat) ^ (power - fraction.length))
  | _, _ => none

/-- From here on the nearest `f64` is infinite. -/
def f64Overflow : Rat := 2 ^ 1024 - 2 ^ 970

def parseMagnitude (text : List Char) : Option F64 :=
  if ["inf", "infinity", "nan"].contains (String.ofList (text.map Char.toLower)) then
    some .nonFinite
  else
    (parseDecimal text).map fun value =>
      if value < f64Overflow then .finite value else .nonFinite

/-- `str::parse::<f64>`. -/
def parseF64 (text : String) : Option F64 :=
  match text.toList with
  | '-' :: magnitude =>
      (parseMagnitude magnitude).map fun
        | .finite value => .finite (-value)
        | .nonFinite => .nonFinite
  | '+' :: magnitude => parseMagnitude magnitude
  | magnitude => parseMagnitude magnitude

def extractI64 (attrs : List (String × Json)) (keys : List String) : Option Int64 :=
  keys.findSome? fun key =>
    (attrs.lookup key).bind fun
      | .integer value => toBigint value
      | .string value => parseI64 value
      | _ => none

def extractF64 (attrs : List (String × Json)) (keys : List String) : Option F64 :=
  keys.findSome? fun key =>
    (attrs.lookup key).bind fun
      | .integer value => some (.finite value)
      | .real value => some (.finite value)
      | .string value => parseF64 value
      | _ => none

def nonEmpty (value : String) : Option String :=
  if trim value = "" then none else some (trim value)

def combineTokenTotal (promptTokens completionTokens : Option Int64) : Option Int64 :=
  match promptTokens, completionTokens with
  | some prompt, some completion => toBigint (prompt.toInt + completion.toInt)
  | some prompt, none => some prompt
  | none, some completion => some completion
  | none, none => none

def roundHalfUp (value : Rat) : Int := ⌊value + 1 / 2⌋

/-- `(value.round()) as i64`: a value from 1 on, cut at the largest `i64`. -/
def requestCountFromMetricValue : F64 → Int64
  | .finite value =>
      if 1 ≤ value then (toBigint (roundHalfUp value)).getD Int64.maxValue else 1
  | .nonFinite => 1

def u64ToI64 (value : UInt64) : Int64 :=
  (toBigint value.toNat).getD Int64.maxValue

/-- Zero stands for an absent time. Every other one is a year before 2555. -/
def nanosToDatetime (now : Int) (nanos : UInt64) : Int :=
  if nanos = 0 then now else nanos.toNat / 1000

section Extraction

-- How `serde_json` writes a float.
variable (formatFloat : Rat → String)

def extractString (attrs : List (String × Json)) (keys : List String) : Option String :=
  keys.findSome? fun key =>
    (attrs.lookup key).bind fun
      | .string value => if value = "" then none else some value
      | .integer value => some (toString value)
      | .real value => some (formatFloat value)
      | .bool value => some (toString value)
      | _ => none

/-- What every event takes from its attributes in the same way. -/
def eventOf (attrs : List (String × Json)) (observedNanos : UInt64) (signalType : String)
    (metricName : Option String) (usageValue : F64) (requestCount : Int64)
    (totalTokens : Option Int64) (now : Int) : UsageEvent where
  observedAt := nanosToDatetime now observedNanos
  signalType := signalType
  accountId := extractString formatFloat attrs accountKeys
  projectId := extractString formatFloat attrs projectKeys
  apiKeyId := extractString formatFloat attrs apiKeyKeys
  userId := extractString formatFloat attrs userKeys
  userName := extractString formatFloat attrs userNameKeys
  model := extractString formatFloat attrs modelKeys
  metricName := metricName
  usageValue := usageValue
  requestCount := requestCount
  promptTokens := extractI64 attrs promptTokensKeys
  completionTokens := extractI64 attrs completionTokensKeys
  totalTokens := totalTokens
  totalCost := extractF64 attrs costKeys
  attributes := .object attrs

/-- The total of the attributes, or else the sum of the two parts. -/
def totalOrCombined (attrs : List (String × Json)) : Option Int64 :=
  (extractI64 attrs totalTokensKeys).or
    (combineTokenTotal (extractI64 attrs promptTokensKeys)
      (extractI64 attrs completionTokensKeys))

/-- The usage of a log record or a span: its own attribute, else its tokens, else one. -/
def recordUsage (attrs : List (String × Json)) : F64 :=
  (extractF64 attrs usageValueKeys).getD
    (((totalOrCombined attrs).map fun tokens => F64.finite tokens.toInt).getD (.finite 1))

def logRecordToEvent (resourceAttrs : List (String × Json)) (record : LogRecord)
    (now : Int) : UsageEvent :=
  let attrs := mergeAttrMaps resourceAttrs (keyValuesToMap record.attributes)
  let observedNanos :=
    if 0 < record.timeUnixNano then record.timeUnixNano else record.observedTimeUnixNano
  eventOf formatFloat attrs observedNanos "log" (nonEmpty record.severityText)
    (recordUsage attrs) 1 (totalOrCombined attrs) now

def spanToEvent (resourceAttrs : List (String × Json)) (span : Span) (now : Int) :
    UsageEvent :=
  let attrs := mergeAttrMaps resourceAttrs (keyValuesToMap span.attributes)
  let observedNanos :=
    if 0 < span.endTimeUnixNano then span.endTimeUnixNano else span.startTimeUnixNano
  eventOf formatFloat attrs observedNanos "trace" (nonEmpty span.name) (recordUsage attrs) 1
    (totalOrCombined attrs) now

def numberDataPointToEvent (metricAttrs : List (String × Json)) (metricName : Option String)
    (point : NumberDataPoint) (now : Int) : UsageEvent :=
  let attrs := mergeAttrMaps metricAttrs (keyValuesToMap point.attributes)
  let value :=
    match point.value with
    | some (.asDouble value) => value
    | some (.asInt value) => .finite value.toInt
    | none => .finite 0
  eventOf formatFloat attrs point.timeUnixNano "metric" metricName value
    (requestCountFromMetricValue value) (totalOrCombined attrs) now

/-- A point that counts: the total of its tokens is not combined from the parts. -/
def countedPointToEvent (metricAttrs : List (String × Json)) (metricName : Option String)
    (pointAttributes : List (String × AnyValue)) (timeUnixNano count : UInt64)
    (usageValue : F64) (now : Int) : UsageEvent :=
  let attrs := mergeAttrMaps metricAttrs (keyValuesToMap pointAttributes)
  eventOf formatFloat attrs timeUnixNano "metric" metricName usageValue
    (max (u64ToI64 count) 1) (extractI64 attrs totalTokensKeys) now

def histogramDataPointToEvent (metricAttrs : List (String × Json)) (metricName : Option String)
    (point : HistogramDataPoint) (now : Int) : UsageEvent :=
  countedPointToEvent formatFloat metricAttrs metricName point.attributes point.timeUnixNano
    point.count (point.sum.getD (.finite (u64ToI64 point.count).toInt)) now

def exponentialHistogramDataPointToEvent (metricAttrs : List (String × Json))
    (metricName : Option String) (point : HistogramDataPoint) (now : Int) : UsageEvent :=
  countedPointToEvent formatFloat metricAttrs metricName point.attributes point.timeUnixNano
    point.count (point.sum.getD (.finite (u64ToI64 point.count).toInt)) now

def summaryDataPointToEvent (metricAttrs : List (String × Json)) (metricName : Option String)
    (point : SummaryDataPoint) (now : Int) : UsageEvent :=
  countedPointToEvent formatFloat metricAttrs metricName point.attributes point.timeUnixNano
    point.count point.sum now

def metricToEvents (resourceAttrs : List (String × Json)) (metric : Metric) :
    List (Int → UsageEvent) :=
  let metricName := nonEmpty metric.name
  let metricAttrs := mergeAttrMaps resourceAttrs (keyValuesToMap metric.metadata)
  match metric.data with
  | none => []
  | some (.gauge points) =>
      points.map (numberDataPointToEvent formatFloat metricAttrs metricName)
  | some (.sum points) =>
      points.map (numberDataPointToEvent formatFloat metricAttrs metricName)
  | some (.histogram points) =>
      points.map (histogramDataPointToEvent formatFloat metricAttrs metricName)
  | some (.exponentialHistogram points) =>
      points.map (exponentialHistogramDataPointToEvent formatFloat metricAttrs metricName)
  | some (.summary points) =>
      points.map (summaryDataPointToEvent formatFloat metricAttrs metricName)

/-- The loops over resources, scopes and records that the three extractions share: the
events, before each has read the clock. -/
def extractEvents {Record : Type}
    (toEvents : List (String × Json) → Record → List (Int → UsageEvent))
    (resources : List (ResourceRecords Record)) : List (Int → UsageEvent) :=
  resources.flatMap fun records =>
    records.scopes.flatMap fun scope =>
      scope.flatMap (toEvents ((records.resource.map keyValuesToMap).getD []))

def readClock (clock : Nat → Int) (events : List (Int → UsageEvent)) : List UsageEvent :=
  events.mapIdx fun index event => event (clock index)

def extractLogEvents (clock : Nat → Int) (resources : List (ResourceRecords LogRecord)) :
    List UsageEvent :=
  readClock clock
    (extractEvents (fun attrs record => [logRecordToEvent formatFloat attrs record]) resources)

def extractTraceEvents (clock : Nat → Int) (resources : List (ResourceRecords Span)) :
    List UsageEvent :=
  readClock clock
    (extractEvents (fun attrs span => [spanToEvent formatFloat attrs span]) resources)

def extractMetricEvents (clock : Nat → Int) (resources : List (ResourceRecords Metric)) :
    List UsageEvent :=
  readClock clock (extractEvents (metricToEvents formatFloat) resources)

def Payload.events (clock : Nat → Int) : Payload → List UsageEvent
  | .logs resources => extractLogEvents formatFloat clock resources
  | .traces resources => extractTraceEvents formatFloat clock resources
  | .metrics resources => extractMetricEvents formatFloat clock resources

end Extraction

inductive MetricPoint where
  | number (point : NumberDataPoint)
  | histogram (point : HistogramDataPoint)
  | exponentialHistogram (point : HistogramDataPoint)
  | summary (point : SummaryDataPoint)

def Metric.points (metric : Metric) : List MetricPoint :=
  match metric.data with
  | none => []
  | some (.gauge points) => points.map .number
  | some (.sum points) => points.map .number
  | some (.histogram points) => points.map .histogram
  | some (.exponentialHistogram points) => points.map .exponentialHistogram
  | some (.summary points) => points.map .summary

/-- A log record, a span or a data point, with what surrounds it in the payload. -/
inductive OtlpItem where
  | log (resource : Option (List (String × AnyValue))) (record : LogRecord)
  | trace (resource : Option (List (String × AnyValue))) (span : Span)
  | point (resource : Option (List (String × AnyValue))) (metric : Metric) (point : MetricPoint)

def Payload.items : Payload → List OtlpItem
  | .logs resources =>
      resources.flatMap fun records =>
        records.scopes.flatten.flatMap fun record => [.log records.resource record]
  | .traces resources =>
      resources.flatMap fun records =>
        records.scopes.flatten.flatMap fun span => [.trace records.resource span]
  | .metrics resources =>
      resources.flatMap fun records =>
        records.scopes.flatten.flatMap fun metric =>
          metric.points.map (.point records.resource metric)

section Items

variable (formatFloat : Rat → String)

def resourceMap (resource : Option (List (String × AnyValue))) : List (String × Json) :=
  (resource.map keyValuesToMap).getD []

def pointToEvent (metricAttrs : List (String × Json)) (metricName : Option String) :
    MetricPoint → Int → UsageEvent
  | .number point => numberDataPointToEvent formatFloat metricAttrs metricName point
  | .histogram point => histogramDataPointToEvent formatFloat metricAttrs metricName point
  | .exponentialHistogram point =>
      exponentialHistogramDataPointToEvent formatFloat metricAttrs metricName point
  | .summary point => summaryDataPointToEvent formatFloat metricAttrs metricName point

def OtlpItem.toEvent : OtlpItem → Int → UsageEvent
  | .log resource record => logRecordToEvent formatFloat (resourceMap resource) record
  | .trace resource span => spanToEvent formatFloat (resourceMap resource) span
  | .point resource metric dataPoint =>
      pointToEvent formatFloat
        (mergeAttrMaps (resourceMap resource) (keyValuesToMap metric.metadata))
        (nonEmpty metric.name) dataPoint

theorem item_observed_at (now : Int) (item : OtlpItem) :
    ∃ nanos, (item.toEvent formatFloat now).observedAt = nanosToDatetime now nanos := by
  cases item with
  | log resource record => exact ⟨_, rfl⟩
  | trace resource span => exact ⟨_, rfl⟩
  | point resource metric dataPoint => cases dataPoint <;> exact ⟨_, rfl⟩

theorem metric_to_events_eq (resource : Option (List (String × AnyValue))) (metric : Metric) :
    metricToEvents formatFloat (resourceMap resource) metric =
      (metric.points.map (OtlpItem.point resource metric)).map
        (OtlpItem.toEvent formatFloat) := by
  unfold metricToEvents Metric.points
  cases metric.data with
  | none => rfl
  | some data => cases data <;> simp [OtlpItem.toEvent, pointToEvent, Function.comp_def]

theorem extract_events_eq {Record : Type}
    (toEvents : List (String × Json) → Record → List (Int → UsageEvent))
    (toItems : Option (List (String × AnyValue)) → Record → List OtlpItem)
    (agree : ∀ resource record,
      toEvents (resourceMap resource) record =
        (toItems resource record).map (OtlpItem.toEvent formatFloat))
    (resources : List (ResourceRecords Record)) :
    extractEvents toEvents resources =
      (resources.flatMap fun records =>
        records.scopes.flatten.flatMap (toItems records.resource)).map
          (OtlpItem.toEvent formatFloat) := by
  unfold extractEvents
  rw [List.map_flatMap]
  congr 1
  funext records
  induction records.scopes with
  | nil => rfl
  | cons scope scopes ih =>
      simp only [List.flatMap_cons, List.flatten_cons, List.flatMap_append, List.map_append, ih]
      congr 1
      rw [List.map_flatMap]
      congr 1
      funext record
      exact agree records.resource record

theorem read_clock_map (clock : Nat → Int) (items : List OtlpItem) :
    readClock clock (items.map (OtlpItem.toEvent formatFloat)) =
      items.mapIdx fun index item => item.toEvent formatFloat (clock index) := by
  refine List.mapIdx_eq_iff.mpr fun index => ?_
  rw [List.getElem?_mapIdx, List.getElem?_map, Option.map_map]
  rfl

theorem payload_events_eq (clock : Nat → Int) (payload : Payload) :
    payload.events formatFloat clock =
      payload.items.mapIdx fun index item => item.toEvent formatFloat (clock index) := by
  cases payload with
  | logs resources =>
      rw [Payload.events, extractLogEvents, extract_events_eq formatFloat _
        (fun resource record => [.log resource record]) (fun _ _ => rfl), read_clock_map]
      rfl
  | traces resources =>
      rw [Payload.events, extractTraceEvents, extract_events_eq formatFloat _
        (fun resource span => [.trace resource span]) (fun _ _ => rfl), read_clock_map]
      rfl
  | metrics resources =>
      rw [Payload.events, extractMetricEvents, extract_events_eq formatFloat _
        (fun resource metric => metric.points.map (.point resource metric))
        (metric_to_events_eq formatFloat), read_clock_map]
      rfl

theorem events_map_eq {Value : Type} {read : UsageEvent → Value} {value : OtlpItem → Value}
    (reads : ∀ item now, read (item.toEvent formatFloat now) = value item)
    (clock : Nat → Int) (payload : Payload) :
    (payload.events formatFloat clock).map read = payload.items.map value := by
  apply List.ext_getElem?
  intro index
  rw [payload_events_eq, List.getElem?_map, List.getElem?_mapIdx, Option.map_map,
    List.getElem?_map]
  congr 1
  funext item
  exact reads item (clock index)

theorem event_of_item {clock : Nat → Int} {payload : Payload} {event : UsageEvent}
    (member : event ∈ payload.events formatFloat clock) :
    ∃ item ∈ payload.items, ∃ index, event = item.toEvent formatFloat (clock index) := by
  rw [payload_events_eq] at member
  obtain ⟨index, inItems, same⟩ := List.mem_mapIdx.mp member
  exact ⟨payload.items[index], List.getElem_mem inItems, index, same.symm⟩

end Items

end LightbridgeAuthz.Usage.OtlpEvents
