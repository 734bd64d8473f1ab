import LightbridgeAuthz.Library.KeyRenames
import LightbridgeAuthz.Usage.OtlpEvents

/-!
# To whom an event is attributed

A log record, a span and each kind of data point is read by a function of its own.
Whom an event is attributed to, its token counts and its cost should depend on the
attributes alone. They do, but for the total of the points that count: there a
total that is absent is not combined from its parts.
-/

namespace LightbridgeAuthz.Usage.EventAttribution

open Library.SortedEntries
open Library.KeyRenames (lookup_reverse_of_nodup)
open Access.ModelPolicies (Json)
open Library.CheckedInt
open Sessions.RefreshTokens (parseI64)
open OtlpEvents

set_option autoImplicit false

/-- What an event says of the sender's attributes. -/
structure Attributed where
  accountId : Option String
  projectId : Option String
  apiKeyId : Option String
  userId : Option String
  userName : Option String
  model : Option String
  promptTokens : Option Int64
  completionTokens : Option Int64
  totalTokens : Option Int64
  totalCost : Option F64

def attributionIn (event : UsageEvent) : Attributed where
  accountId := event.accountId
  projectId := event.projectId
  apiKeyId := event.apiKeyId
  userId := event.userId
  userName := event.userName
  model := event.model
  promptTokens := event.promptTokens
  completionTokens := event.completionTokens
  totalTokens := event.totalTokens
  totalCost := event.totalCost

def MetricPoint.attributes : MetricPoint → List (String × AnyValue)
  | .number point => point.attributes
  | .histogram point => point.attributes
  | .exponentialHistogram point => point.attributes
  | .summary point => point.attributes

/-- The attribute lists of an item, each before the ones that it overrides. -/
def layers : OtlpItem → List (List (String × AnyValue))
  | .log resource record => [record.attributes, resource.getD []]
  | .trace resource span => [span.attributes, resource.getD []]
  | .point resource metric point =>
      [MetricPoint.attributes point, metric.metadata, resource.getD []]

/-- The value of a key: the last one of the first list that has the key. -/
def mergedAttr (lists : List (List (String × AnyValue))) (key : String) : Option Json :=
  lists.findSome? fun entries => (entries.reverse.lookup key).map anyValueToJson

/-- The first of the keys whose value is there and can be read. -/
def firstUsable {Value : Type} (read : Json → Option Value) (attr : String → Option Json)
    (keys : List String) : Option Value :=
  keys.findSome? fun key => (attr key).bind read

def readI64 : Json → Option Int64
  | .integer value => toBigint value
  | .string value => parseI64 value
  | _ => none

def readF64 : Json → Option F64
  | .integer value => some (.finite value)
  | .real value => some (.finite value)
  | .string value => parseF64 value
  | _ => none

def readString (formatFloat : Rat → String) : Json → Option String
  | .string value => if value = "" then none else some value
  | .integer value => some (toString value)
  | .real value => some (formatFloat value)
  | .bool value => some (toString value)
  | _ => none

/-- The attribution by a map of attributes, whatever the record they belong to. -/
def attributionOf (formatFloat : Rat → String) (attr : String → Option Json) : Attributed where
  accountId := firstUsable (readString formatFloat) attr accountKeys
  projectId := firstUsable (readString formatFloat) attr projectKeys
  apiKeyId := firstUsable (readString formatFloat) attr apiKeyKeys
  userId := firstUsable (readString formatFloat) attr userKeys
  userName := firstUsable (readString formatFloat) attr userNameKeys
  model := firstUsable (readString formatFloat) attr modelKeys
  promptTokens := firstUsable readI64 attr promptTokensKeys
  completionTokens := firstUsable readI64 attr completionTokensKeys
  totalTokens :=
    (firstUsable readI64 attr totalTokensKeys).or
      (combineTokenTotal (firstUsable readI64 attr promptTokensKeys)
        (firstUsable readI64 attr completionTokensKeys))
  totalCost := firstUsable readF64 attr costKeys

/-- The points whose value is a count: all but those of a gauge or a sum. -/
def isCounted : OtlpItem → Bool
  | .point _ _ (.number _) => false
  | .point _ _ _ => true
  | .log _ _ => false
  | .trace _ _ => false

/-- A counted point that gives no total but parts of one that can be combined. -/
structure LosesTotal (item : OtlpItem) : Prop where
  counted : isCounted item = true
  noTotal : firstUsable readI64 (mergedAttr (layers item)) totalTokensKeys = none
  parts : (combineTokenTotal (firstUsable readI64 (mergedAttr (layers item)) promptTokensKeys)
    (firstUsable readI64 (mergedAttr (layers item)) completionTokensKeys)).isSome = true

section Maps

theorem any_entries_lookup (entries : List (String × AnyValue)) (key : String) :
    (anyEntriesToJson entries).lookup key = (entries.lookup key).map anyValueToJson := by
  induction entries with
  | nil => rfl
  | cons entry rest ih =>
      obtain ⟨name, value⟩ := entry
      rw [anyEntriesToJson, List.lookup_cons, List.lookup_cons]
      cases key == name with
      | true => rfl
      | false => exact ih

theorem any_entries_append (first second : List (String × AnyValue)) :
    anyEntriesToJson (first ++ second) = anyEntriesToJson first ++ anyEntriesToJson second := by
  induction first with
  | nil => rfl
  | cons entry rest ih =>
      obtain ⟨name, value⟩ := entry
      rw [List.cons_append, anyEntriesToJson, ih, anyEntriesToJson, List.cons_append]

theorem any_entries_reverse (entries : List (String × AnyValue)) :
    (anyEntriesToJson entries).reverse = anyEntriesToJson entries.reverse := by
  induction entries with
  | nil => rfl
  | cons entry rest ih =>
      obtain ⟨name, value⟩ := entry
      rw [anyEntriesToJson, List.reverse_cons, List.reverse_cons, ih, any_entries_append]
      rfl

theorem key_values_sorted (values : List (String × AnyValue)) :
    SortedKeys attrRank (keyValuesToMap values) :=
  merge_sorted (fun _ _ same => same) _ List.Pairwise.nil

theorem key_values_lookup (values : List (String × AnyValue)) (key : String) :
    (keyValuesToMap values).lookup key = (values.reverse.lookup key).map anyValueToJson := by
  rw [keyValuesToMap, collect, lookup_merge, any_entries_reverse, any_entries_lookup,
    List.lookup_nil, Option.or_none]

theorem merge_lookup (base : List (String × Json)) (values : List (String × AnyValue))
    (key : String) :
    (mergeAttrMaps base (keyValuesToMap values)).lookup key =
      ((values.reverse.lookup key).map anyValueToJson).or (base.lookup key) := by
  rw [mergeAttrMaps, lookup_merge,
    lookup_reverse_of_nodup (nodup_of_sorted (key_values_sorted values)), key_values_lookup]

theorem merged_attr_cons (entries : List (String × AnyValue))
    (lists : List (List (String × AnyValue))) (key : String) :
    mergedAttr (entries :: lists) key =
      ((entries.reverse.lookup key).map anyValueToJson).or (mergedAttr lists key) := by
  rw [mergedAttr, List.findSome?_cons]
  cases (entries.reverse.lookup key).map anyValueToJson <;> rfl

theorem resource_lookup (resource : Option (List (String × AnyValue))) (key : String) :
    (resourceMap resource).lookup key = mergedAttr [resource.getD []] key := by
  have alone : mergedAttr [] key = none := rfl
  rw [merged_attr_cons, alone, Option.or_none]
  cases resource with
  | none => rfl
  | some values => exact key_values_lookup values key

def itemMap : OtlpItem → List (String × Json)
  | .log resource record =>
      mergeAttrMaps (resourceMap resource) (keyValuesToMap record.attributes)
  | .trace resource span => mergeAttrMaps (resourceMap resource) (keyValuesToMap span.attributes)
  | .point resource metric point =>
      mergeAttrMaps (mergeAttrMaps (resourceMap resource) (keyValuesToMap metric.metadata))
        (keyValuesToMap (MetricPoint.attributes point))

theorem item_map_lookup (item : OtlpItem) (key : String) :
    (itemMap item).lookup key = mergedAttr (layers item) key := by
  cases item with
  | log resource record =>
      rw [itemMap, merge_lookup, resource_lookup, layers, merged_attr_cons record.attributes]
  | trace resource span =>
      rw [itemMap, merge_lookup, resource_lookup, layers, merged_attr_cons span.attributes]
  | point resource metric point =>
      rw [itemMap, merge_lookup, merge_lookup, resource_lookup, layers,
        merged_attr_cons (MetricPoint.attributes point), merged_attr_cons metric.metadata]

end Maps

section Items

variable (formatFloat : Rat → String) (now : Int)

/-- Every event is attributed by the merged attributes of its item, but for the total
of a counted point. -/
theorem item_attribution (item : OtlpItem) :
    attributionIn (item.toEvent formatFloat now) =
      { attributionOf formatFloat (mergedAttr (layers item)) with
        totalTokens :=
          if isCounted item = true then
            firstUsable readI64 (mergedAttr (layers item)) totalTokensKeys
          else (attributionOf formatFloat (mergedAttr (layers item))).totalTokens } := by
  have reads : ((itemMap item).lookup ·) = mergedAttr (layers item) :=
    funext (item_map_lookup item)
  rw [← reads]
  cases item with
  | log resource record => rfl
  | trace resource span => rfl
  | point resource metric point => cases point <;> rfl

theorem item_attributed_iff (item : OtlpItem) :
    attributionIn (item.toEvent formatFloat now) =
        attributionOf formatFloat (mergedAttr (layers item)) ↔ ¬ LosesTotal item := by
  rw [item_attribution]
  constructor
  · intro same loses
    have totals := congrArg Attributed.totalTokens same
    simp only [if_pos loses.counted, attributionOf, loses.noTotal, Option.none_or] at totals
    have parts := loses.parts
    rw [← totals] at parts
    cases parts
  · intro keeps
    by_cases counted : isCounted item = true
    · rw [if_pos counted]
      cases total : firstUsable readI64 (mergedAttr (layers item)) totalTokensKeys with
      | some tokens => simp only [attributionOf, total, Option.some_or]
      | none =>
          have noParts := fun parts => keeps ⟨counted, total, parts⟩
          rw [Option.isSome_iff_ne_none, ne_eq, imp_false, not_not] at noParts
          simp only [attributionOf, total, Option.none_or, noParts]
    · rw [if_neg counted]

/-- The events of a payload are attributed by their merged attributes exactly where no
counted point gives the parts of a total and not the total. -/
theorem attribution_uniform_iff (clock : Nat → Int) (payload : Payload) :
    (payload.events formatFloat clock).map attributionIn =
        payload.items.map (fun item => attributionOf formatFloat (mergedAttr (layers item))) ↔
      ∀ item ∈ payload.items, ¬ LosesTotal item := by
  have timeless : ∀ (item : OtlpItem) (now : Int), attributionIn (item.toEvent formatFloat now) =
      attributionIn (item.toEvent formatFloat 0) := by
    intro item now
    rw [item_attribution, item_attribution]
  rw [events_map_eq formatFloat timeless, List.map_inj_left]
  exact forall_congr' fun item => imp_congr_right fun _ =>
    item_attributed_iff formatFloat 0 item

end Items

def partsOnly : List (String × AnyValue) :=
  [("prompt_tokens", .intValue 10), ("completion_tokens", .intValue 5)]

def partsLog : Payload := .logs [⟨none, [[⟨1, 0, "", partsOnly⟩]]⟩]

def partsHistogram : Payload :=
  .metrics [⟨none, [[⟨"tokens", [], some (.histogram [⟨partsOnly, 1, 1, none⟩])⟩]]⟩]

/-- A log record with the two counts has the total fifteen, a histogram's point with the
same attributes has none. -/
theorem histogram_loses_total :
    (∀ formatFloat clock,
      (partsLog.events formatFloat clock).map UsageEvent.totalTokens = [some 15] ∧
        (partsHistogram.events formatFloat clock).map UsageEvent.totalTokens = [none]) ∧
      ¬ ∀ (formatFloat : Rat → String) (clock : Nat → Int) (payload : Payload),
        (payload.events formatFloat clock).map attributionIn =
          payload.items.map fun item => attributionOf formatFloat (mergedAttr (layers item)) := by
  have loses : LosesTotal (.point none
      ⟨"tokens", [], some (.histogram [⟨partsOnly, 1, 1, none⟩])⟩
      (.histogram ⟨partsOnly, 1, 1, none⟩)) :=
    ⟨rfl, by decide +kernel, by decide +kernel⟩
  refine ⟨fun formatFloat clock => ⟨rfl, rfl⟩, fun uniform => ?_⟩
  have all := (item_attributed_iff (fun _ => "") 0 _).not.mpr (not_not_intro loses)
  have same := uniform (fun _ => "") (fun _ => 0) partsHistogram
  exact all (List.cons.inj same).1

end LightbridgeAuthz.Usage.EventAttribution
