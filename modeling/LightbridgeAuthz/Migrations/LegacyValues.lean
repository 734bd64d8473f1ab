import LightbridgeAuthz.Access.ModelPolicies
import LightbridgeAuthz.Library.SortedEntries
import Mathlib.Data.Prod.Lex
import Mathlib.Data.String.Basic

/-!
# Untagging the legacy JSON columns

The columns `allowed_models` and `default_limits` were written in serde's
externally tagged form. The migration strips the tags with a recursive function
that recognises a tag by an object with a single key. The unit variant is not
written as an object, so a null keeps its tag.
-/

namespace LightbridgeAuthz.Migrations.LegacyValues

open Library.SortedEntries
open Access.ModelPolicies

set_option autoImplicit false

/-- `jsonb` lists the keys of an object by their length in bytes, then bytewise. -/
def keyRank (key : String) : Nat ×ₗ String :=
  toLex (key.utf8ByteSize, key)

theorem key_rank_injective : Function.Injective keyRank := by
  intro left right same
  exact congrArg (fun rank => (ofLex rank).2) same

def byteArray (bytes : List UInt8) : Json :=
  .array (bytes.map (fun byte => .integer byte.toNat))

/-- A float without a finite value is written as `null`. -/
def floatJson : Option Rat → Json
  | some value => .real value
  | none => .null

mutual

/-- The externally tagged form, as `jsonb` stores it. A unit variant is the bare
string of its name. -/
def tag : Value → Json
  | .null => .string "Null"
  | .bool value => .object [("Bool", .bool value)]
  | .int value => .object [("Int", .integer value)]
  | .float value => .object [("Float", floatJson value)]
  | .string value => .object [("String", .string value)]
  | .bytes value => .object [("Bytes", byteArray value)]
  | .list items => .object [("List", .array (tagItems items))]
  | .map entries => .object [("Map", .object (collect keyRank (tagEntries entries)))]

def tagItems : List Value → List Json
  | [] => []
  | item :: rest => tag item :: tagItems rest

def tagEntries : List (String × Value) → List (String × Json)
  | [] => []
  | (key, value) :: rest => (key, tag value) :: tagEntries rest

end

mutual

/-- The ordinary JSON of a value, as `jsonb` stores it. -/
def plain : Value → Json
  | .null => .null
  | .bool value => .bool value
  | .int value => .integer value
  | .float value => floatJson value
  | .string value => .string value
  | .bytes value => byteArray value
  | .list items => .array (plainItems items)
  | .map entries => .object (collect keyRank (plainEntries entries))

def plainItems : List Value → List Json
  | [] => []
  | item :: rest => plain item :: plainItems rest

def plainEntries : List (String × Value) → List (String × Json)
  | [] => []
  | (key, value) :: rest => (key, plain value) :: plainEntries rest

end

def isLeafTag (tagKey : String) : Bool :=
  ["Null", "Bool", "Int", "Float", "String", "Bytes"].contains tagKey

mutual

/-- Only an object with exactly one key is looked at; every other input, and an
object under a key that is no tag, is returned as it is. -/
def cratestackUntagValue : Json → Json
  | .object [(tagKey, .array items)] =>
      if isLeafTag tagKey then .array items
      else if tagKey = "List" then .array (untagElements [] items)
      else .object [(tagKey, .array items)]
  | .object [(tagKey, .object entries)] =>
      if isLeafTag tagKey then .object entries
      else if tagKey = "Map" then .object (untagEntries [] entries)
      else .object [(tagKey, .object entries)]
  | .object [(tagKey, inner)] =>
      if isLeafTag tagKey then inner else .object [(tagKey, inner)]
  | input => input

/-- The loop over `jsonb_array_elements`. -/
def untagElements (result : List Json) : List Json → List Json
  | [] => result
  | item :: rest => untagElements (result ++ [cratestackUntagValue item]) rest

/-- The loop over `jsonb_each`. -/
def untagEntries (result : List (String × Json)) : List (String × Json) → List (String × Json)
  | [] => result
  | (key, value) :: rest =>
      untagEntries (put keyRank result (key, cratestackUntagValue value)) rest

end

mutual

/-- The entries of a map are those of a `BTreeMap`, which holds each key once. -/
def DistinctKeys : Value → Prop
  | .list items => DistinctKeysItems items
  | .map entries => (entries.map Prod.fst).Nodup ∧ DistinctKeysEntries entries
  | _ => True

def DistinctKeysItems : List Value → Prop
  | [] => True
  | item :: rest => DistinctKeys item ∧ DistinctKeysItems rest

def DistinctKeysEntries : List (String × Value) → Prop
  | [] => True
  | (_, value) :: rest => DistinctKeys value ∧ DistinctKeysEntries rest

end

mutual

def containsNull : Value → Bool
  | .null => true
  | .list items => containsNullItems items
  | .map entries => containsNullEntries entries
  | _ => false

def containsNullItems : List Value → Bool
  | [] => false
  | item :: rest => containsNull item || containsNullItems rest

def containsNullEntries : List (String × Value) → Bool
  | [] => false
  | (_, value) :: rest => containsNull value || containsNullEntries rest

end

theorem tag_items_eq (items : List Value) : tagItems items = items.map tag := by
  induction items with
  | nil => rfl
  | cons item rest induction => rw [tagItems, induction, List.map_cons]

theorem tag_entries_eq (entries : List (String × Value)) :
    tagEntries entries = entries.map (onValue tag) := by
  induction entries with
  | nil => rfl
  | cons entry rest induction =>
      obtain ⟨key, value⟩ := entry
      rw [tagEntries, induction, List.map_cons, onValue]

theorem plain_items_eq (items : List Value) : plainItems items = items.map plain := by
  induction items with
  | nil => rfl
  | cons item rest induction => rw [plainItems, induction, List.map_cons]

theorem plain_entries_eq (entries : List (String × Value)) :
    plainEntries entries = entries.map (onValue plain) := by
  induction entries with
  | nil => rfl
  | cons entry rest induction =>
      obtain ⟨key, value⟩ := entry
      rw [plainEntries, induction, List.map_cons, onValue]

theorem untag_elements_eq (result items : List Json) :
    untagElements result items = result ++ items.map cratestackUntagValue := by
  induction items generalizing result with
  | nil => rw [untagElements, List.map_nil, List.append_nil]
  | cons item rest induction =>
      rw [untagElements, induction, List.map_cons, List.append_assoc, List.singleton_append]

theorem untag_entries_eq (result entries : List (String × Json)) :
    untagEntries result entries =
      merge keyRank result (entries.map (onValue cratestackUntagValue)) := by
  induction entries generalizing result with
  | nil => rfl
  | cons entry rest induction =>
      obtain ⟨key, value⟩ := entry
      rw [untagEntries, induction]
      rfl

theorem untag_tag_list (items : List Value) :
    cratestackUntagValue (tag (.list items)) =
      .array (items.map (fun item => cratestackUntagValue (tag item))) := by
  rw [tag, cratestackUntagValue, if_neg (by decide), if_pos rfl, untag_elements_eq,
    tag_items_eq, List.map_map, List.nil_append]
  rfl

theorem untag_tag_map (entries : List (String × Value)) :
    cratestackUntagValue (tag (.map entries)) =
      .object (collect keyRank
        (entries.map (onValue (fun value => cratestackUntagValue (tag value))))) := by
  have untagged := collect_map_on_value key_rank_injective cratestackUntagValue
    (entries.map (onValue tag))
  rw [List.map_map] at untagged
  rw [tag, cratestackUntagValue, if_neg (by decide), if_pos rfl, untag_entries_eq,
    tag_entries_eq]
  exact congrArg Json.object untagged

mutual

theorem untag_tag_eq_plain_iff : (value : Value) → DistinctKeys value →
    (cratestackUntagValue (tag value) = plain value ↔ containsNull value = false)
  | .null, _ => by simp [tag, cratestackUntagValue, plain, containsNull]
  | .bool value, _ => by simp [tag, cratestackUntagValue, plain, containsNull, isLeafTag]
  | .int value, _ => by simp [tag, cratestackUntagValue, plain, containsNull, isLeafTag]
  | .float value, _ => by
      cases value <;>
        simp [tag, cratestackUntagValue, plain, containsNull, isLeafTag, floatJson]
  | .string value, _ => by simp [tag, cratestackUntagValue, plain, containsNull, isLeafTag]
  | .bytes value, _ => by
      simp [tag, cratestackUntagValue, plain, containsNull, isLeafTag, byteArray]
  | .list items, distinct => by
      rw [DistinctKeys] at distinct
      rw [untag_tag_list, plain, plain_items_eq, containsNull, Json.array.injEq,
        List.map_inj_left]
      exact untag_tag_items_iff items distinct
  | .map entries, distinct => by
      rw [DistinctKeys] at distinct
      rw [untag_tag_map, plain, plain_entries_eq, containsNull, Json.object.injEq,
        collect_map_on_value_eq_iff distinct.1]
      exact untag_tag_entries_iff entries distinct.2

theorem untag_tag_items_iff : (items : List Value) → DistinctKeysItems items →
    ((∀ item ∈ items, cratestackUntagValue (tag item) = plain item) ↔
      containsNullItems items = false)
  | [], _ => by simp [containsNullItems]
  | item :: rest, distinct => by
      rw [DistinctKeysItems] at distinct
      rw [List.forall_mem_cons, untag_tag_eq_plain_iff item distinct.1,
        untag_tag_items_iff rest distinct.2, containsNullItems, Bool.or_eq_false_iff]

theorem untag_tag_entries_iff : (entries : List (String × Value)) →
    DistinctKeysEntries entries →
    ((∀ entry ∈ entries, cratestackUntagValue (tag entry.2) = plain entry.2) ↔
      containsNullEntries entries = false)
  | [], _ => by simp [containsNullEntries]
  | (_, value) :: rest, distinct => by
      rw [DistinctKeysEntries] at distinct
      rw [List.forall_mem_cons, untag_tag_eq_plain_iff value distinct.1,
        untag_tag_entries_iff rest distinct.2, containsNullEntries, Bool.or_eq_false_iff]

end

structure ProjectColumns where
  allowedModels : Option Json
  defaultLimits : Json

def untagAllowedModels (row : ProjectColumns) : ProjectColumns :=
  match row.allowedModels with
  | none => row
  | some stored => { row with allowedModels := some (cratestackUntagValue stored) }

def untagDefaultLimits (row : ProjectColumns) : ProjectColumns :=
  { row with defaultLimits := cratestackUntagValue row.defaultLimits }

def untagProjects (rows : List ProjectColumns) : List ProjectColumns :=
  (rows.map untagAllowedModels).map untagDefaultLimits

structure LegacyProject where
  allowedModels : Option Value
  defaultLimits : Value

def LegacyProject.columns (write : Value → Json) (project : LegacyProject) : ProjectColumns where
  allowedModels := project.allowedModels.map write
  defaultLimits := write project.defaultLimits

def LegacyProject.DistinctKeys (project : LegacyProject) : Prop :=
  (∀ models ∈ project.allowedModels, LegacyValues.DistinctKeys models) ∧
    LegacyValues.DistinctKeys project.defaultLimits

def LegacyProject.containsNull (project : LegacyProject) : Bool :=
  project.allowedModels.any LegacyValues.containsNull ||
    LegacyValues.containsNull project.defaultLimits

theorem untag_columns (project : LegacyProject) :
    untagDefaultLimits (untagAllowedModels (project.columns tag)) =
      project.columns (fun value => cratestackUntagValue (tag value)) := by
  obtain ⟨models, limits⟩ := project
  cases models <;> rfl

theorem untag_columns_eq_plain_iff (project : LegacyProject) (distinct : project.DistinctKeys) :
    project.columns (fun value => cratestackUntagValue (tag value)) = project.columns plain ↔
      project.containsNull = false := by
  obtain ⟨models, limits⟩ := project
  obtain ⟨distinctModels, distinctLimits⟩ := distinct
  have limitsIff := untag_tag_eq_plain_iff limits distinctLimits
  cases models with
  | none => simp [LegacyProject.columns, LegacyProject.containsNull, limitsIff]
  | some models =>
      have modelsIff := untag_tag_eq_plain_iff models (distinctModels models rfl)
      simp [LegacyProject.columns, LegacyProject.containsNull, modelsIff, limitsIff]

/-- Untagging gives back a value's ordinary JSON exactly when the value holds no
null, and the migration every project's columns exactly when none of them does. -/
theorem untag_inverts_tag_iff (value : Value) (distinct : DistinctKeys value)
    (projects : List LegacyProject)
    (distinctProjects : ∀ project ∈ projects, project.DistinctKeys) :
    (cratestackUntagValue (tag value) = plain value ↔ containsNull value = false) ∧
      (untagProjects (projects.map (LegacyProject.columns tag)) =
          projects.map (LegacyProject.columns plain) ↔
        ∀ project ∈ projects, project.containsNull = false) := by
  refine ⟨untag_tag_eq_plain_iff value distinct, ?_⟩
  rw [untagProjects, List.map_map, List.map_map, List.map_inj_left]
  refine forall₂_congr (fun project member => ?_)
  simp only [Function.comp_apply, untag_columns]
  exact untag_columns_eq_plain_iff project (distinctProjects project member)

/-- Limits with an absent daily bound beside a map entry named like a tag. -/
def partialLimits : Value :=
  .map [("requests_per_second", .int 5), ("Int", .string "x"), ("requests_per_day", .null)]

theorem partial_limits_distinct : DistinctKeys partialLimits := by
  simp [partialLimits, DistinctKeys, DistinctKeysEntries]

theorem untag_inverts_tag_partial_limits :
    (cratestackUntagValue (tag partialLimits) = plain partialLimits ↔
        containsNull partialLimits = false) ∧
      (untagProjects ([⟨none, partialLimits⟩].map (LegacyProject.columns tag)) =
          [⟨none, partialLimits⟩].map (LegacyProject.columns plain) ↔
        ∀ project ∈ [LegacyProject.mk none partialLimits], project.containsNull = false) :=
  untag_inverts_tag_iff partialLimits partial_limits_distinct [⟨none, partialLimits⟩] (by
    simp [LegacyProject.DistinctKeys, partial_limits_distinct])

/-- The bare string of a null stays where JSON's own null stood. -/
theorem untag_keeps_null_string :
    cratestackUntagValue (tag .null) = .string "Null" ∧
      ¬ ∀ value : Value, DistinctKeys value → cratestackUntagValue (tag value) = plain value := by
  refine ⟨by simp [tag, cratestackUntagValue], ?_⟩
  intro inverts
  have untagged := inverts partialLimits partial_limits_distinct
  rw [untag_tag_eq_plain_iff _ partial_limits_distinct] at untagged
  simp [partialLimits, containsNull, containsNullEntries] at untagged

end LightbridgeAuthz.Migrations.LegacyValues
