import LightbridgeAuthz.Usage.OtlpEvents
import Mathlib.Data.List.Infix
import Mathlib.Data.List.ReduceOption

/-!
# The ingest endpoints

A request is decoded, its events are extracted and validated, and one `INSERT`
writes a row for each. The statement binds sixteen values for each event, and a
statement of Postgres takes at most 65535 of them.
-/

namespace LightbridgeAuthz.Usage.Ingestion

open Access.ModelPolicies (Json)
open Sessions.TokenGrants (trim)
open OtlpEvents

set_option autoImplicit false

inductive Error where
  | badRequest (message : String)
  | sqlx (message : String)
  deriving DecidableEq, Repr

/-- A row of `usage_events`, without the columns that the table fills itself. -/
structure UsageRow where
  observedAt : Int
  signalType : String
  accountId : Option String
  projectId : Option String
  apiKeyId : Option String
  userId : Option String
  userName : Option String
  model : Option String
  metricName : Option String
  usageValue : F64
  requestCount : Int64
  promptTokens : Option Int64
  completionTokens : Option Int64
  totalTokens : Option Int64
  totalCost : F64
  attributes : Json

/-- The values bound for one event: an absent cost is written as zero. -/
def rowOf (event : UsageEvent) : UsageRow where
  observedAt := event.observedAt
  signalType := event.signalType
  accountId := event.accountId
  projectId := event.projectId
  apiKeyId := event.apiKeyId
  userId := event.userId
  userName := event.userName
  model := event.model
  metricName := event.metricName
  usageValue := event.usageValue
  requestCount := event.requestCount
  promptTokens := event.promptTokens
  completionTokens := event.completionTokens
  totalTokens := event.totalTokens
  totalCost := event.totalCost.getD (.finite 0)
  attributes := event.attributes

/-- The checks of one event, in the order of the loop's body. -/
def validateEvent (event : UsageEvent) : Except Error Unit :=
  if trim event.signalType = "" then
    .error (.badRequest "signal_type is required")
  else if ¬ event.usageValue.isFinite then
    .error (.badRequest "usage_value must be finite")
  else if event.totalCost.any fun value => ¬ value.isFinite then
    .error (.badRequest "total_cost must be finite")
  else if event.requestCount < 0 then
    .error (.badRequest "request_count cannot be negative")
  else if [event.promptTokens, event.completionTokens, event.totalTokens].reduceOption.any
      fun value => value < 0 then
    .error (.badRequest "token counts cannot be negative")
  else .ok ()

def validateEvents : List UsageEvent → Except Error Unit
  | [] => .ok ()
  | event :: rest =>
      match validateEvent event with
      | .error error => .error error
      | .ok _ => validateEvents rest

def bindsPerEvent : Nat := 16

/-- The length of a `Bind` message's list of parameters has two bytes. -/
def maxBinds : Nat := 65535

section Statement

-- Whether Postgres takes a row: text with a NUL has no encoding there, and the entry of
-- an index has a largest size.
variable (storable : UsageRow → Bool)

/-- One statement: all rows or none. It answers `rows_affected`. -/
def insertUsageEvents (events : List UsageEvent) (table : List UsageRow) :
    Except Error Nat × List UsageRow :=
  if events = [] then (.ok 0, table)
  else if maxBinds < bindsPerEvent * events.length then
    (.error (.sqlx "too many arguments for the statement"), table)
  else if (events.map rowOf).all storable then
    (.ok events.length, table ++ events.map rowOf)
  else (.error (.sqlx "a row was refused"), table)

/-- A count of persisted rows below the number of events is answered with that number. -/
def persistEvents (events : List UsageEvent) (table : List UsageRow) :
    Except Error Nat × List UsageRow :=
  match validateEvents events with
  | .error error => (.error error, table)
  | .ok _ =>
      match insertUsageEvents storable events table with
      | (.error error, after) => (.error error, after)
      | (.ok persisted, after) =>
          if persisted < events.length then (.ok events.length, after) else (.ok persisted, after)

end Statement

inductive Endpoint where
  | traces
  | metrics
  | logs
  deriving DecidableEq, Repr

/-- A header that is not visible ASCII counts as absent. -/
structure IngestRequest where
  contentEncoding : Option String
  contentType : Option String
  body : List UInt8

/-- The decompression and the parsers, each with its own text for what it refuses. -/
structure Decoders where
  gunzip : List UInt8 → Except String (List UInt8)
  json : Endpoint → List UInt8 → Except String Payload
  protobuf : Endpoint → List UInt8 → Except String Payload

def Endpoint.label : Endpoint → String
  | .traces => "trace"
  | .metrics => "metrics"
  | .logs => "logs"

def isJsonContent (request : IngestRequest) : Bool :=
  request.contentType.any fun value => decide ("json".toList <:+: value.toList)

def isGzip (request : IngestRequest) : Bool :=
  ((request.contentEncoding.getD "").toList.splitOnP (· = ',')).any fun encoding =>
    (trim (String.ofList encoding)).toList.map Char.toLower = "gzip".toList

section Requests

variable (decoders : Decoders)

def decodeMaybeGzip (request : IngestRequest) : Except Error (List UInt8) :=
  if isGzip request then
    (decoders.gunzip request.body).mapError fun detail =>
      .badRequest ("invalid gzip body: " ++ detail)
  else .ok request.body

/-- What the three endpoints do with a body that is not compressed. -/
def decodeBody (endpoint : Endpoint) (request : IngestRequest) (body : List UInt8) :
    Except Error Payload :=
  if isJsonContent request then
    (decoders.json endpoint body).mapError fun detail =>
      .badRequest ("invalid OTLP " ++ endpoint.label ++ " JSON payload: " ++ detail)
  else
    (decoders.protobuf endpoint body).mapError fun detail =>
      .badRequest ("invalid OTLP " ++ endpoint.label ++ " protobuf payload: " ++ detail)

def decodeRequest (endpoint : Endpoint) (request : IngestRequest) : Except Error Payload :=
  match endpoint with
  | .logs =>
      match decodeMaybeGzip decoders request with
      | .error error => .error error
      | .ok body => decodeBody decoders .logs request body
  | .traces => decodeBody decoders .traces request request.body
  | .metrics => decodeBody decoders .metrics request request.body

variable (storable : UsageRow → Bool) (formatFloat : Rat → String) (clock : Nat → Int)

/-- `ingest_traces`, `ingest_metrics` and `ingest_logs`: the number of accepted events. -/
def ingest (endpoint : Endpoint) (request : IngestRequest) (table : List UsageRow) :
    Except Error Nat × List UsageRow :=
  match decodeRequest decoders endpoint request with
  | .error error => (.error error, table)
  | .ok payload => persistEvents storable (payload.events formatFloat clock) table

end Requests

/-- The values of a valid event are finite, and its counts are not negative. -/
structure EventChecked (event : UsageEvent) : Prop where
  finiteCost : ∀ cost, event.totalCost = some cost → cost.isFinite = true
  requests : 0 ≤ event.requestCount.toInt
  tokens : ∀ tokens ∈ [event.promptTokens, event.completionTokens, event.totalTokens],
    ∀ value, tokens = some value → 0 ≤ value.toInt

theorem nonneg_of_not_lt {value : Int64} (notNegative : ¬ value < 0) : 0 ≤ value.toInt := by
  rw [Int64.lt_iff_toInt_lt, Int64.toInt_zero] at notNegative
  omega

theorem event_checked {event : UsageEvent} (valid : validateEvent event = .ok ()) :
    EventChecked event := by
  unfold validateEvent at valid
  split at valid
  · cases valid
  · split at valid
    · cases valid
    · split at valid
      · cases valid
      next finiteCost =>
        split at valid
        · cases valid
        next requests =>
          split at valid
          · cases valid
          next tokens =>
            refine ⟨?_, nonneg_of_not_lt requests, ?_⟩
            · intro cost present
              simpa [present] using finiteCost
            · intro column member value present
              apply nonneg_of_not_lt
              intro negative
              apply tokens
              rw [List.any_eq_true]
              exact ⟨value, List.reduceOption_mem_iff.mpr (present ▸ member),
                decide_eq_true negative⟩

theorem validate_events_ok_iff (events : List UsageEvent) :
    validateEvents events = .ok () ↔ ∀ event ∈ events, validateEvent event = .ok () := by
  induction events with
  | nil => simp [validateEvents]
  | cons event rest ih =>
      unfold validateEvents
      cases checked : validateEvent event with
      | error error => simp [checked]
      | ok passed => simp [checked, ih]

section Persisting

variable {storable : UsageRow → Bool} {events : List UsageEvent}

theorem persist_refused {error : Error} (table : List UsageRow)
    (invalid : validateEvents events = .error error) :
    persistEvents storable events table = (.error error, table) := by
  simp only [persistEvents, invalid]

/-- What Postgres asks of a batch before it takes its rows. -/
def taken (storable : UsageRow → Bool) (events : List UsageEvent) : Prop :=
  bindsPerEvent * events.length ≤ maxBinds ∧ ∀ event ∈ events, storable (rowOf event) = true

theorem persist_taken (table : List UsageRow) (valid : validateEvents events = .ok ())
    (takes : taken storable events) :
    persistEvents storable events table =
      (.ok events.length, table ++ events.map rowOf) := by
  have stored : (events.map rowOf).all storable = true := by
    simpa using takes.2
  have few : ¬ maxBinds < bindsPerEvent * events.length := by
    have bound := takes.1
    omega
  unfold persistEvents
  simp only [valid]
  unfold insertUsageEvents
  by_cases empty : events = []
  · simp [empty]
  · rw [if_neg empty, if_neg few, if_pos stored]
    simp

theorem persist_not_taken (table : List UsageRow) (valid : validateEvents events = .ok ())
    (refuses : ¬ taken storable events) :
    ∃ message, persistEvents storable events table = (.error (.sqlx message), table) := by
  have notEmpty : events ≠ [] := by
    rintro rfl
    exact refuses ⟨by simp, by simp⟩
  unfold persistEvents
  simp only [valid]
  unfold insertUsageEvents
  rw [if_neg notEmpty]
  by_cases many : maxBinds < bindsPerEvent * events.length
  · exact ⟨_, by rw [if_pos many]⟩
  · have unstored : ¬ (events.map rowOf).all storable = true := by
      intro stored
      exact refuses ⟨by omega, by simpa using stored⟩
    exact ⟨_, by rw [if_neg many, if_neg unstored]⟩

end Persisting

section Requests

variable (decoders : Decoders) (storable : UsageRow → Bool) (formatFloat : Rat → String)
variable (clock : Nat → Int) (endpoint : Endpoint) (request : IngestRequest) (table : List UsageRow)

/-- The request decodes to `payload`, and its events pass validation. -/
def acceptedPayload (payload : Payload) : Prop :=
  decodeRequest decoders endpoint request = .ok payload ∧
    validateEvents (payload.events formatFloat clock) = .ok ()

/-- An accepted payload gives one row for each item, in order and in a statement within
the limit; any other request is an error that leaves the table. -/
structure AllOrNothing : Prop where
  whole : ∀ payload, acceptedPayload decoders formatFloat clock endpoint request payload →
    bindsPerEvent * (payload.events formatFloat clock).length ≤ maxBinds ∧
      ingest decoders storable formatFloat clock endpoint request table =
        (.ok payload.items.length,
          table ++ payload.items.mapIdx fun index item =>
            rowOf (item.toEvent formatFloat (clock index)))
  nothing : (¬ ∃ payload, acceptedPayload decoders formatFloat clock endpoint request payload) →
    ∃ error,
      ingest decoders storable formatFloat clock endpoint request table = (.error error, table)

theorem ingest_refused
    (refused : ¬ ∃ payload, acceptedPayload decoders formatFloat clock endpoint request payload) :
    ∃ error,
      ingest decoders storable formatFloat clock endpoint request table =
        (.error error, table) := by
  unfold ingest
  cases decoded : decodeRequest decoders endpoint request with
  | error error => exact ⟨error, rfl⟩
  | ok payload =>
      cases checked : validateEvents (payload.events formatFloat clock) with
      | error error => exact ⟨error, persist_refused table checked⟩
      | ok passed => exact absurd ⟨payload, decoded, checked⟩ refused

theorem ingest_accepted {payload : Payload}
    (accepted : acceptedPayload decoders formatFloat clock endpoint request payload) :
    ingest decoders storable formatFloat clock endpoint request table =
      persistEvents storable (payload.events formatFloat clock) table := by
  simp only [ingest, accepted.1]

/-- The rows that an accepted payload adds to the table. -/
def rowsOf (formatFloat : Rat → String) (clock : Nat → Int) (payload : Payload) : List UsageRow :=
  (payload.events formatFloat clock).map rowOf

theorem rows_of_eq (payload : Payload) :
    rowsOf formatFloat clock payload =
      payload.items.mapIdx fun index item => rowOf (item.toEvent formatFloat (clock index)) := by
  symm
  refine List.mapIdx_eq_iff.mpr fun index => ?_
  rw [rowsOf, payload_events_eq, List.getElem?_map, List.getElem?_mapIdx, Option.map_map]
  rfl

theorem ingest_taken {payload : Payload}
    (accepted : acceptedPayload decoders formatFloat clock endpoint request payload)
    (takes : taken storable (payload.events formatFloat clock)) :
    ingest decoders storable formatFloat clock endpoint request table =
      (.ok (payload.events formatFloat clock).length,
        table ++ rowsOf formatFloat clock payload) := by
  rw [ingest_accepted decoders storable formatFloat clock endpoint request table accepted,
    persist_taken table accepted.2 takes]
  rfl

/-- Ingestion is all or nothing exactly for the payloads of at most 4095 items whose
rows Postgres takes. -/
theorem ingestion_all_or_nothing_iff :
    AllOrNothing decoders storable formatFloat clock endpoint request table ↔
      ∀ payload, acceptedPayload decoders formatFloat clock endpoint request payload →
        payload.items.length ≤ 4095 ∧
          ∀ event ∈ payload.events formatFloat clock, storable (rowOf event) = true := by
  have taken_iff : ∀ payload : Payload, taken storable (payload.events formatFloat clock) ↔
      payload.items.length ≤ 4095 ∧
        ∀ event ∈ payload.events formatFloat clock, storable (rowOf event) = true := by
    intro payload
    have counted : (payload.events formatFloat clock).length = payload.items.length := by
      rw [payload_events_eq, List.length_mapIdx]
    rw [taken, counted, bindsPerEvent, maxBinds]
    constructor
    · rintro ⟨bound, stored⟩
      exact ⟨by omega, stored⟩
    · rintro ⟨bound, stored⟩
      exact ⟨by omega, stored⟩
  constructor
  · intro claim payload accepted
    rw [← taken_iff payload]
    by_contra refuses
    obtain ⟨message, fails⟩ := persist_not_taken table accepted.2 refuses
    have whole := (claim.whole payload accepted).2
    rw [ingest_accepted decoders storable formatFloat clock endpoint request table accepted,
      fails] at whole
    simp at whole
  · intro condition
    refine ⟨?_, ingest_refused decoders storable formatFloat clock endpoint request table⟩
    intro payload accepted
    have takes := (taken_iff payload).mpr (condition payload accepted)
    refine ⟨takes.1, ?_⟩
    rw [ingest_taken decoders storable formatFloat clock endpoint request table accepted takes,
      rows_of_eq, payload_events_eq, List.length_mapIdx]

end Requests

def atEpoch (_ : Nat) : Int := 0

def blankLog : LogRecord := ⟨0, 0, "", []⟩

def blankLogs (count : Nat) : Payload := .logs [⟨none, [List.replicate count blankLog]⟩]

/-- The protobuf encoding of 4096 blank log records in one scope of one resource. -/
def blankLogsBody : List UInt8 :=
  [0x0A, 0x83, 0x40, 0x12, 0x80, 0x40] ++ (List.replicate 4096 [0x12, 0x00]).flatten

/-- A field of a protobuf message, for contents shorter than 128 bytes. -/
def protobufField (tag : UInt8) (content : List UInt8) : List UInt8 :=
  tag :: UInt8.ofNat content.length :: content

def textBytes (text : String) : List UInt8 := text.toUTF8.data.toList

/-- `prost` on one body that it can decode. -/
def decodersOf (known : List UInt8) (payload : Payload) : Decoders where
  gunzip := .ok
  json := fun _ _ => .error "expected value at line 1 column 1"
  protobuf := fun _ body =>
    if body = known then .ok payload else .error "failed to decode Protobuf message"

theorem blank_logs_items (count : Nat) :
    (blankLogs count).items = List.replicate count (.log none blankLog) := by
  simp only [blankLogs, Payload.items, List.flatMap_cons, List.flatMap_nil, List.flatten_cons,
    List.flatten_nil, List.append_nil]
  rw [← List.map_eq_flatMap, List.map_replicate]

theorem decode_without_headers (body : List UInt8) (payload : Payload) :
    decodeRequest (decodersOf body payload) .logs ⟨none, none, body⟩ = .ok payload := by
  have plain : isGzip ⟨none, none, body⟩ = false := rfl
  have binary : isJsonContent ⟨none, none, body⟩ = false := rfl
  simp [decodeRequest, decodeMaybeGzip, decodeBody, plain, binary, decodersOf, Except.mapError]

/-- A valid payload of 4096 log records is refused by the limit on bound values. -/
theorem blank_logs_not_ingested :
    acceptedPayload (decodersOf blankLogsBody (blankLogs 4096)) (fun _ => "") atEpoch .logs
        ⟨none, none, blankLogsBody⟩ (blankLogs 4096) ∧
      ¬ AllOrNothing (decodersOf blankLogsBody (blankLogs 4096)) (fun _ => true) (fun _ => "")
        atEpoch .logs ⟨none, none, blankLogsBody⟩ [] := by
  have accepted : acceptedPayload (decodersOf blankLogsBody (blankLogs 4096)) (fun _ => "")
      atEpoch .logs ⟨none, none, blankLogsBody⟩ (blankLogs 4096) := by
    constructor
    · exact decode_without_headers blankLogsBody (blankLogs 4096)
    · rw [validate_events_ok_iff]
      intro event member
      obtain ⟨item, inItems, index, rfl⟩ := event_of_item _ member
      rw [blank_logs_items] at inItems
      rw [List.eq_of_mem_replicate inItems, atEpoch]
      rfl
  refine ⟨accepted, fun claim => ?_⟩
  have bound := (claim.whole _ accepted).1
  rw [payload_events_eq, List.length_mapIdx, blank_logs_items,
    List.length_replicate] at bound
  exact absurd bound (by decide)

end LightbridgeAuthz.Usage.Ingestion
