import Mathlib.Data.Rat.Defs
import LightbridgeAuthz.Budget.PolicyStore
import LightbridgeAuthz.Budget.RuleDocuments

/-!
# Rule data in its column

What the readers make of a document they make of the stored one: a field that is
read once is read from its last value, and every part is read alike. So the
column gives back the rule set that was submitted, to the process that activated
it and to every process that starts later.
-/

namespace LightbridgeAuthz.Budget.StoredRules

open Library.KeyedRows Library.SortedEntries
open Access.ModelPolicies Migrations.LegacyValues
open Domain RuleData PolicyStore RuleDocuments

set_option autoImplicit false

section Fields

variable {Value Other : Type}

theorem values_of_cons (name : String) (entry : String × Value)
    (rest : List (String × Value)) :
    valuesOf name (entry :: rest) =
      if entry.1 = name then entry.2 :: valuesOf name rest else valuesOf name rest := by
  by_cases named : entry.1 = name
  · simp [valuesOf, named]
  · simp [valuesOf, named]

theorem values_of_map (change : Value → Other) (name : String)
    (entries : List (String × Value)) :
    valuesOf name (entries.map (onValue change)) = (valuesOf name entries).map change := by
  induction entries with
  | nil => rfl
  | cons entry rest ih =>
      rw [List.map_cons, values_of_cons, values_of_cons, ih]
      by_cases named : entry.1 = name
      · simp [onValue, named]
      · simp [onValue, named]

theorem field_of_map (change : Value → Other) (name : String)
    (entries : List (String × Value)) :
    fieldOf name (entries.map (onValue change)) =
      (fieldOf name entries).map (Option.map change) := by
  unfold fieldOf
  rw [values_of_map]
  cases valuesOf name entries with
  | nil => rfl
  | cons first rest =>
      cases rest with
      | nil => rfl
      | cons second others => rfl

theorem lookup_eq_last (name : String) (entries : List (String × Value)) :
    entries.reverse.lookup name = (valuesOf name entries).getLast? := by
  induction entries with
  | nil => rfl
  | cons entry rest ih =>
      obtain ⟨key, value⟩ := entry
      rw [List.reverse_cons, List.lookup_append, ih, values_of_cons, List.lookup_cons]
      by_cases named : key = name
      · subst named
        cases valuesOf key rest with
        | nil => simp
        | cons first others => simp [List.getLast?_cons]
      · have different : (name == key) = false := by
          simpa using fun same => named (Eq.symm same)
        simp [different, named]

theorem values_of_nodup {entries : List (String × Value)}
    (distinct : (entries.map Prod.fst).Nodup) (name : String) :
    valuesOf name entries = (entries.lookup name).toList := by
  induction entries with
  | nil => rfl
  | cons entry rest ih =>
      obtain ⟨absent, restDistinct⟩ := List.nodup_cons.mp distinct
      rw [values_of_cons, List.lookup_cons, ih restDistinct]
      by_cases named : entry.1 = name
      · subst named
        have missing : rest.lookup entry.1 = none := by
          rw [List.lookup_eq_none_iff]
          intro other member
          have differs : entry.1 ≠ other.1 := by
            intro same
            exact absent (List.mem_map.mpr ⟨other, member, same.symm⟩)
          simpa using differs
        simp [missing]
      · have different : (name == entry.1) = false := by
          simpa using fun same => named (Eq.symm same)
        simp [named, different]

theorem field_of_collect {entries : List (String × Value)} {name : String}
    {given : Option Value} (isField : fieldOf name entries = some given) :
    fieldOf name (collect keyRank entries) = some given := by
  have sorted : SortedKeys keyRank (collect keyRank entries) :=
    merge_sorted key_rank_injective entries List.Pairwise.nil
  have looked : (collect keyRank entries).lookup name = (valuesOf name entries).getLast? := by
    rw [collect, lookup_merge, lookup_eq_last]
    simp
  unfold fieldOf at isField ⊢
  rw [values_of_nodup (nodup_of_sorted sorted), looked]
  cases values : valuesOf name entries with
  | nil =>
      rw [values] at isField
      simpa using isField
  | cons first rest =>
      rw [values] at isField
      cases rest with
      | nil => simpa using isField
      | cons second others => cases isField

end Fields

section Stored

abbrev FieldStoredAs : Option Json → Option Json → Prop := Option.Rel StoredAs

abbrev FieldsStoredAs : List (Option Json) → List (Option Json) → Prop :=
  List.Forall₂ FieldStoredAs

theorem values_stored {entries others : List (String × Json)}
    (isStored : StoredEntries entries others) (name : String) :
    StoredItems (valuesOf name entries) (valuesOf name others) := by
  induction entries generalizing others with
  | nil =>
      obtain rfl := isStored
      rfl
  | cons entry rest ih =>
      obtain ⟨key, value⟩ := entry
      obtain ⟨other, further, storedValue, storedRest, rfl⟩ := isStored
      rw [values_of_cons, values_of_cons]
      by_cases named : key = name
      · rw [if_pos named, if_pos named]
        exact ⟨other, valuesOf name further, storedValue, ih storedRest, rfl⟩
      · rw [if_neg named, if_neg named]
        exact ih storedRest

theorem field_stored {entries others : List (String × Json)}
    (isStored : StoredEntries entries others) {name : String} {given : Option Json}
    (isField : fieldOf name entries = some given) :
    ∃ found, fieldOf name (collect keyRank others) = some found ∧ FieldStoredAs given found := by
  have stored := values_stored isStored name
  unfold fieldOf at isField
  cases values : valuesOf name entries with
  | nil =>
      rw [values] at isField stored
      obtain rfl := Option.some.inj isField
      exact ⟨none, field_of_collect (by rw [fieldOf, stored]), .none⟩
  | cons first rest =>
      rw [values] at isField stored
      obtain ⟨other, further, storedFirst, storedRest, isOthers⟩ := stored
      cases rest with
      | nil =>
          obtain rfl := Option.some.inj isField
          obtain rfl := storedRest
          exact ⟨some other, field_of_collect (by rw [fieldOf, isOthers]), .some storedFirst⟩
      | cons second more => cases isField

theorem fields_stored {entries others : List (String × Json)}
    (isStored : StoredEntries entries others) {names : List String}
    {fields : List (Option Json)}
    (isFields : names.mapM (fun name => fieldOf name entries) = some fields) :
    ∃ found, names.mapM (fun name => fieldOf name (collect keyRank others)) = some found ∧
      FieldsStoredAs fields found := by
  induction names generalizing fields with
  | nil =>
      obtain rfl := Option.some.inj isFields
      exact ⟨[], rfl, .nil⟩
  | cons name rest ih =>
      rw [List.mapM_cons] at isFields
      obtain ⟨given, isField, isRest⟩ := Option.bind_eq_some_iff.mp isFields
      obtain ⟨further, isFurther, isAll⟩ := Option.bind_eq_some_iff.mp isRest
      obtain rfl := Option.some.inj isAll
      obtain ⟨found, isFound, storedField⟩ := field_stored isStored isField
      obtain ⟨more, isMore, storedRest⟩ := ih isFurther
      refine ⟨found :: more, ?_, .cons storedField storedRest⟩
      rw [List.mapM_cons, isFound, isMore]
      rfl

theorem items_stored_length {items others : List Json} (isStored : StoredItems items others) :
    items.length = others.length := by
  induction items generalizing others with
  | nil =>
      obtain rfl := isStored
      rfl
  | cons item rest ih =>
      obtain ⟨other, further, -, storedRest, rfl⟩ := isStored
      rw [List.length_cons, List.length_cons, ih storedRest]

theorem item_stored {items others : List Json} (isStored : StoredItems items others)
    (index : Nat) : FieldStoredAs items[index]? others[index]? := by
  induction items generalizing others index with
  | nil =>
      obtain rfl := isStored
      exact .none
  | cons item rest ih =>
      obtain ⟨other, further, storedItem, storedRest, rfl⟩ := isStored
      cases index with
      | zero => exact .some storedItem
      | succ index => exact ih storedRest index

theorem struct_fields_stored {names : List String} {document stored : Json}
    (isStored : StoredAs document stored) {fields : List (Option Json)}
    (isFields : structFields names document = some fields) :
    ∃ found, structFields names stored = some found ∧ FieldsStoredAs fields found := by
  cases document with
  | object entries =>
      obtain ⟨others, storedEntries, rfl⟩ := isStored
      exact fields_stored storedEntries isFields
  | array items =>
      obtain ⟨others, storedItems, rfl⟩ := isStored
      simp only [structFields] at isFields ⊢
      rw [← items_stored_length storedItems]
      split_ifs at isFields ⊢
      obtain rfl := Option.some.inj isFields
      refine ⟨_, rfl, ?_⟩
      rw [FieldsStoredAs, List.forall₂_map_left_iff, List.forall₂_map_right_iff,
        List.forall₂_same]
      exact fun index _ => item_stored storedItems index
  | null => cases isFields
  | bool value => cases isFields
  | integer value => cases isFields
  | real value => cases isFields
  | string value => cases isFields

/-- The reader makes of a stored document what it made of the document. -/
def Unchanged {Value : Type} (read : Json → Option Value) : Prop :=
  ∀ {document stored : Json}, StoredAs document stored → ∀ {value : Value},
    read document = some value → read stored = some value

theorem read_string_stored : Unchanged readString := by
  intro document stored isStored value isRead
  cases document with
  | string text =>
      obtain rfl := isStored
      exact isRead
  | null => cases isRead
  | bool value => cases isRead
  | integer value => cases isRead
  | real value => cases isRead
  | array items => cases isRead
  | object entries => cases isRead

theorem read_i64_stored : Unchanged readI64 := by
  intro document stored isStored value isRead
  cases document with
  | integer number =>
      obtain rfl := isStored
      exact isRead
  | null => cases isRead
  | bool value => cases isRead
  | real value => cases isRead
  | string text => cases isRead
  | array items => cases isRead
  | object entries => cases isRead

theorem read_optional_i64_stored : Unchanged readOptionalI64 := by
  intro document stored isStored value isRead
  cases document with
  | null =>
      obtain rfl := isStored
      exact isRead
  | integer number =>
      obtain rfl := isStored
      exact isRead
  | bool value => cases isRead
  | real value => cases isRead
  | string text => cases isRead
  | array items => cases isRead
  | object entries => cases isRead

theorem collect_single {Value : Type} (entry : String × Value) :
    collect keyRank [entry] = [entry] :=
  collect_of_sorted (List.pairwise_singleton _ _)

theorem read_variant_stored {Variant : Type} (byName : String → Option Variant) :
    Unchanged (readVariant byName) := by
  intro document stored isStored variant isRead
  unfold readVariant at isRead
  split at isRead
  · obtain rfl := isStored
    exact isRead
  · rename_i name
    obtain ⟨others, ⟨other, further, storedNull, storedRest, rfl⟩, rfl⟩ := isStored
    obtain rfl := storedNull
    obtain rfl := storedRest
    rw [collect_single]
    exact isRead
  · cases isRead

theorem read_tag_stored (buffered : Bool) : Unchanged (readTag buffered) := by
  intro document stored isStored tag isRead
  cases document with
  | string name =>
      obtain rfl := isStored
      exact isRead
  | integer index =>
      obtain rfl := isStored
      exact isRead
  | null => cases isRead
  | bool value => cases isRead
  | real value => cases isRead
  | array items => cases isRead
  | object entries => cases isRead

theorem read_threshold_stored {fields found : List (Option Json)}
    (areStored : FieldsStoredAs fields found) {condition : Condition}
    (isRead : readThreshold fields = some condition) : readThreshold found = some condition := by
  unfold readThreshold at isRead
  split at isRead
  · obtain _ | ⟨⟨storedField⟩, _ | ⟨⟨storedOperator⟩, _ | ⟨⟨storedValue⟩, _ | _⟩⟩⟩ := areStored
    simp only [Option.bind_eq_bind, Option.bind_eq_some_iff] at isRead
    obtain ⟨isField, readField, isOperator, readOperator, isValue, readValue, isCondition⟩ := isRead
    simp only [readThreshold, read_variant_stored fieldNamed storedField readField,
      read_variant_stored operatorNamed storedOperator readOperator,
      read_i64_stored storedValue readValue]
    exact isCondition
  · cases isRead

/-- A condition is read from its tag and its parts, and so alike from parts that are
read alike. -/
theorem condition_of_stored {tag : ConditionTag} {document stored : Json}
    (isStored : StoredAs document stored) {conditions others : Option (List Condition)}
    {condition : Condition}
    (isRead : conditionOf tag (structFields thresholdFields document) conditions =
      some condition)
    (nested : ∀ given, conditions = some given → others = some given) :
    conditionOf tag (structFields thresholdFields stored) others = some condition := by
  cases tag with
  | threshold =>
      obtain ⟨fields, isFields, isThreshold⟩ := Option.bind_eq_some_iff.mp isRead
      obtain ⟨found, areFound, areStored⟩ := struct_fields_stored isStored isFields
      simp only [conditionOf, areFound]
      exact read_threshold_stored areStored isThreshold
  | all =>
      obtain ⟨given, isGiven, isAll⟩ := Option.map_eq_some_iff.mp isRead
      simp only [conditionOf, nested given isGiven, Option.map_some, isAll]
  | any =>
      obtain ⟨given, isGiven, isAny⟩ := Option.map_eq_some_iff.mp isRead
      simp only [conditionOf, nested given isGiven, Option.map_some, isAny]

theorem read_entries_eq (entries : List (String × Json)) :
    readEntries entries = entries.map (onValue readConditions) := by
  induction entries with
  | nil => rfl
  | cons entry rest ih =>
      obtain ⟨key, value⟩ := entry
      rw [readEntries, ih]
      rfl

theorem values_of_singleton {Value : Type} {entries : List (String × Value)} {name : String}
    {value : Value} :
    valuesOf name entries = [value] ↔ fieldOf name entries = some (some value) := by
  unfold fieldOf
  split
  · rename_i none
    simp [none]
  · rename_i one single
    simp [single]
  · rename_i first second others several
    simp [several]

theorem field_of_mem {Value : Type} {entries : List (String × Value)} {name : String}
    {value : Value} (isField : fieldOf name entries = some (some value)) :
    (name, value) ∈ entries := by
  have single := values_of_singleton.mpr isField
  have member : value ∈ valuesOf name entries := by
    rw [single]
    exact List.mem_singleton_self value
  obtain ⟨⟨key, found⟩, inEntries, isValue⟩ := List.mem_map.mp member
  obtain ⟨stored, named⟩ := List.mem_filter.mp inEntries
  simp only [beq_iff_eq] at named isValue
  rw [← named, ← isValue]
  exact stored

theorem nested_stored {entries others : List (String × Json)}
    (isStored : StoredEntries entries others) {name : String}
    (alike : ∀ entry ∈ entries, ∀ {stored : Json}, StoredAs entry.2 stored →
      ∀ {conditions : List Condition}, readConditions entry.2 = some conditions →
        readConditions stored = some conditions)
    {conditions : List Condition}
    (isRead : ((fieldOf name (readEntries entries)).bind fun given => given.bind id) =
      some conditions) :
    ((fieldOf name (readEntries (collect keyRank others))).bind fun given => given.bind id) =
      some conditions := by
  rw [read_entries_eq, field_of_map] at isRead ⊢
  cases isField : fieldOf name entries with
  | none => simp [isField] at isRead
  | some given =>
      cases given with
      | none => simp [isField] at isRead
      | some value =>
          obtain ⟨_, isFound, ⟨storedValue⟩⟩ := field_stored isStored isField
          simp only [isField, Option.map_some, Option.bind_some, id_eq] at isRead
          simp only [isFound, Option.map_some, Option.bind_some, id_eq]
          exact alike (name, value) (field_of_mem isField) storedValue isRead

mutual

theorem read_condition_stored : (document : Json) → ∀ {stored : Json},
    StoredAs document stored → ∀ {buffered : Bool} {condition : Condition},
    readCondition buffered document = some condition →
    readCondition buffered stored = some condition
  | .object entries, stored, isStored, buffered, condition, isRead => by
      have alike := read_values_stored entries
      obtain ⟨others, storedEntries, rfl⟩ := id isStored
      rw [readCondition] at isRead
      split at isRead
      · rename_i tag isTag
        obtain ⟨asTag, readAsTag, isCondition⟩ := Option.bind_eq_some_iff.mp isRead
        obtain ⟨_, isFound, ⟨storedTag⟩⟩ :=
          field_stored storedEntries (values_of_singleton.mp isTag)
        have stored := condition_of_stored isStored isCondition
          fun given => nested_stored storedEntries alike
        rw [readCondition]
        simp only [values_of_singleton.mpr isFound, read_tag_stored buffered storedTag readAsTag]
        exact stored
      · cases isRead
  | .array [], _, _, _, _, isRead => by cases isRead
  | .array (tag :: items), stored, isStored, buffered, condition, isRead => by
      obtain ⟨_, ⟨otherTag, others, storedTag, storedItems, rfl⟩, rfl⟩ := isStored
      rw [readCondition] at isRead
      obtain ⟨asTag, readAsTag, isCondition⟩ := Option.bind_eq_some_iff.mp isRead
      have asArray : StoredAs (.array items) (.array others) := ⟨others, storedItems, rfl⟩
      have stored := condition_of_stored asArray isCondition
        fun given => read_lists_stored items storedItems
      rw [readCondition, read_tag_stored buffered storedTag readAsTag]
      exact stored
  | .null, _, _, _, _, isRead => by cases isRead
  | .bool _, _, _, _, _, isRead => by cases isRead
  | .integer _, _, _, _, _, isRead => by cases isRead
  | .real _, _, _, _, _, isRead => by cases isRead
  | .string _, _, _, _, _, isRead => by cases isRead

theorem read_conditions_stored : (document : Json) → ∀ {stored : Json},
    StoredAs document stored → ∀ {conditions : List Condition},
    readConditions document = some conditions → readConditions stored = some conditions
  | .array items, stored, isStored, conditions, isRead => by
      obtain ⟨others, storedItems, rfl⟩ := isStored
      rw [readConditions] at isRead ⊢
      exact read_items_stored items storedItems isRead
  | .object _, _, _, _, isRead => by cases isRead
  | .null, _, _, _, isRead => by cases isRead
  | .bool _, _, _, _, isRead => by cases isRead
  | .integer _, _, _, _, isRead => by cases isRead
  | .real _, _, _, _, isRead => by cases isRead
  | .string _, _, _, _, isRead => by cases isRead

theorem read_items_stored : (items : List Json) → ∀ {others : List Json},
    StoredItems items others → ∀ {conditions : List Condition},
    readItems items = some conditions → readItems others = some conditions
  | [], others, isStored, _, isRead => by
      obtain rfl := isStored
      exact isRead
  | item :: rest, others, isStored, conditions, isRead => by
      obtain ⟨other, further, storedItem, storedRest, rfl⟩ := isStored
      rw [readItems] at isRead
      obtain ⟨condition, readHead, isRest⟩ := Option.bind_eq_some_iff.mp isRead
      obtain ⟨more, readRest, isAll⟩ := Option.bind_eq_some_iff.mp isRest
      rw [readItems, read_condition_stored item storedItem readHead,
        read_items_stored rest storedRest readRest]
      exact isAll

theorem read_lists_stored : (items : List Json) → ∀ {others : List Json},
    StoredItems items others → ∀ {conditions : List Condition},
    onlyList (readLists items) = some conditions →
    onlyList (readLists others) = some conditions
  | [], _, _, _, isRead => by cases isRead
  | [item], others, isStored, conditions, isRead => by
      obtain ⟨other, _, storedItem, storedRest, rfl⟩ := isStored
      obtain rfl := storedRest
      exact read_conditions_stored item storedItem isRead
  | _ :: _ :: _, _, _, _, isRead => by cases isRead

theorem read_values_stored : (entries : List (String × Json)) →
    ∀ entry ∈ entries, ∀ {stored : Json}, StoredAs entry.2 stored →
      ∀ {conditions : List Condition}, readConditions entry.2 = some conditions →
        readConditions stored = some conditions
  | [], _, member, _, _, _, _ => absurd member List.not_mem_nil
  | (key, value) :: rest, entry, member, stored, isStored, conditions, isRead => by
      rcases List.mem_cons.mp member with head | tail
      · subst head
        exact read_conditions_stored value isStored isRead
      · exact read_values_stored rest entry tail isStored isRead

end

variable {finite : Rat → Bool}

theorem bufferable_entries_iff (entries : List (String × Json)) :
    bufferableEntries finite entries = true ↔
      ∀ entry ∈ entries, bufferable finite entry.2 = true := by
  induction entries with
  | nil => simp [bufferableEntries]
  | cons entry rest ih =>
      obtain ⟨key, value⟩ := entry
      simp [bufferableEntries, ih]

theorem bufferable_number_stored {value : Rat} {stored : Json}
    (isStored : StoredAs (.real value) stored) (isFinite : finite value = true) :
    bufferable finite stored = true := by
  obtain rfl | ⟨whole, rfl⟩ := isStored
  · exact isFinite
  · rw [bufferable, Rat.coe_int_num_of_den_eq_one whole]
    exact isFinite

mutual

theorem bufferable_stored : (document : Json) → ∀ {stored : Json}, StoredAs document stored →
    bufferable finite document = true → bufferable finite stored = true
  | .real value, _, isStored, isFinite => bufferable_number_stored isStored isFinite
  | .array items, _, isStored, allFinite => by
      obtain ⟨others, storedItems, rfl⟩ := isStored
      rw [bufferable] at allFinite ⊢
      exact bufferable_items_stored items storedItems allFinite
  | .object entries, _, isStored, allFinite => by
      obtain ⟨others, storedEntries, rfl⟩ := isStored
      rw [bufferable, bufferable_entries_iff] at allFinite ⊢
      intro entry member
      obtain isNone | isEntry := mem_merge member
      · cases isNone
      · exact bufferable_values_stored entries storedEntries allFinite entry isEntry
  | .null, _, isStored, _ => by
      obtain rfl := isStored
      rfl
  | .bool _, _, isStored, _ => by
      obtain rfl := isStored
      rfl
  | .integer _, _, isStored, isFinite => by
      obtain rfl := isStored
      exact isFinite
  | .string _, _, isStored, _ => by
      obtain rfl := isStored
      rfl

theorem bufferable_items_stored : (items : List Json) → ∀ {others : List Json},
    StoredItems items others → bufferableItems finite items = true →
    bufferableItems finite others = true
  | [], _, isStored, _ => by
      obtain rfl := isStored
      rfl
  | item :: rest, _, isStored, allFinite => by
      obtain ⟨other, further, storedItem, storedRest, rfl⟩ := isStored
      rw [bufferableItems, Bool.and_eq_true] at allFinite ⊢
      exact ⟨bufferable_stored item storedItem allFinite.1,
        bufferable_items_stored rest storedRest allFinite.2⟩

theorem bufferable_values_stored : (entries : List (String × Json)) →
    ∀ {others : List (String × Json)}, StoredEntries entries others →
    (∀ entry ∈ entries, bufferable finite entry.2 = true) →
    ∀ entry ∈ others, bufferable finite entry.2 = true
  | [], _, isStored, _, entry, member => by
      obtain rfl := isStored
      cases member
  | (key, value) :: rest, _, isStored, allFinite, entry, member => by
      obtain ⟨other, further, storedValue, storedRest, rfl⟩ := isStored
      rw [List.forall_mem_cons] at allFinite
      obtain rfl | inRest := List.mem_cons.mp member
      · exact bufferable_stored value storedValue allFinite.1
      · exact bufferable_values_stored rest storedRest allFinite.2 entry inRest

end

theorem read_rule_condition_stored : Unchanged (readRuleCondition finite) := by
  intro document stored isStored condition isRead
  unfold readRuleCondition at isRead ⊢
  split_ifs at isRead with isBufferable
  rw [if_pos (bufferable_stored document isStored isBufferable)]
  exact read_condition_stored document isStored isRead

theorem read_rule_stored : Unchanged (readRule finite) := by
  intro document stored isStored rule isRead
  unfold readRule at isRead
  obtain ⟨fields, isFields, further⟩ := Option.bind_eq_some_iff.mp isRead
  obtain ⟨found, areFound, areStored⟩ := struct_fields_stored isStored isFields
  split at further
  · obtain ⟨isId, readId, further⟩ := Option.bind_eq_some_iff.mp further
    obtain ⟨isCondition, readIsCondition, further⟩ := Option.bind_eq_some_iff.mp further
    obtain ⟨isEffect, readEffect, further⟩ := Option.bind_eq_some_iff.mp further
    obtain ⟨isReason, readReason, further⟩ := Option.bind_eq_some_iff.mp further
    obtain ⟨isCap, readCap, isRule⟩ := Option.bind_eq_some_iff.mp further
    obtain _ | ⟨⟨storedId⟩, _ | ⟨⟨storedCondition⟩, _ | ⟨⟨storedEffect⟩, _ | ⟨⟨storedReason⟩,
      _ | ⟨storedCap, _ | _⟩⟩⟩⟩⟩ := areStored
    rename_i otherCap
    have capAlike : (otherCap.map readOptionalI64).getD (some none) = some isCap := by
      cases storedCap with
      | none => exact readCap
      | some storedCap => exact read_optional_i64_stored storedCap readCap
    unfold readRule
    simp only [areFound, Option.bind_eq_bind, Option.bind_some,
      read_string_stored storedId readId,
      read_rule_condition_stored storedCondition readIsCondition,
      read_variant_stored effectNamed storedEffect readEffect,
      read_string_stored storedReason readReason, capAlike]
    exact isRule
  · cases further

theorem read_list_stored {Value : Type} {read : Json → Option Value} (alike : Unchanged read) :
    Unchanged (readList read) := by
  intro document stored isStored values isRead
  have items_alike : ∀ {items others : List Json} {values : List Value},
      StoredItems items others → items.mapM read = some values →
      others.mapM read = some values := by
    intro items
    induction items with
    | nil =>
        intro others values storedItems isRead
        obtain rfl := storedItems
        exact isRead
    | cons item rest ih =>
        intro others values storedItems isRead
        obtain ⟨other, further, storedItem, storedRest, rfl⟩ := storedItems
        rw [List.mapM_cons] at isRead
        obtain ⟨value, readHead, isRest⟩ := Option.bind_eq_some_iff.mp isRead
        obtain ⟨more, readRest, isAll⟩ := Option.bind_eq_some_iff.mp isRest
        rw [List.mapM_cons, alike storedItem readHead, ih storedRest readRest]
        exact isAll
  cases document with
  | array items =>
      obtain ⟨others, storedItems, rfl⟩ := isStored
      exact items_alike storedItems isRead
  | null => cases isRead
  | bool value => cases isRead
  | integer value => cases isRead
  | real value => cases isRead
  | string value => cases isRead
  | object entries => cases isRead

theorem read_rule_set_stored : Unchanged (readRuleSet finite) := by
  intro document stored isStored ruleSet isRead
  unfold readRuleSet at isRead
  obtain ⟨fields, isFields, further⟩ := Option.bind_eq_some_iff.mp isRead
  obtain ⟨found, areFound, areStored⟩ := struct_fields_stored isStored isFields
  split at further
  · obtain ⟨isRevision, readRevision, further⟩ := Option.bind_eq_some_iff.mp further
    obtain ⟨isRules, readRules, further⟩ := Option.bind_eq_some_iff.mp further
    obtain ⟨isEffect, readEffect, further⟩ := Option.bind_eq_some_iff.mp further
    obtain ⟨isReason, readReason, further⟩ := Option.bind_eq_some_iff.mp further
    obtain ⟨areAmounts, readAmounts, further⟩ := Option.bind_eq_some_iff.mp further
    obtain ⟨isStarting, readStarting, further⟩ := Option.bind_eq_some_iff.mp further
    obtain ⟨isFloor, readFloor, isRuleSet⟩ := Option.bind_eq_some_iff.mp further
    obtain _ | ⟨⟨storedRevision⟩, _ | ⟨⟨storedRules⟩, _ | ⟨⟨storedEffect⟩, _ | ⟨⟨storedReason⟩,
      _ | ⟨⟨storedAmounts⟩, _ | ⟨⟨storedStarting⟩, _ | ⟨⟨storedFloor⟩, _ | _⟩⟩⟩⟩⟩⟩⟩ := areStored
    unfold readRuleSet
    simp only [areFound, Option.bind_eq_bind, Option.bind_some,
      read_string_stored storedRevision readRevision,
      read_list_stored read_rule_stored storedRules readRules,
      read_variant_stored effectNamed storedEffect readEffect,
      read_string_stored storedReason readReason,
      read_list_stored read_i64_stored storedAmounts readAmounts,
      read_i64_stored storedStarting readStarting, read_i64_stored storedFloor readFloor]
    exact isRuleSet
  · cases further

end Stored

/-- What lies outside: `serde_json`'s reader of a text up to its document, and the numbers
it reads as finite doubles. -/
structure Documents where
  document : String → Option Json
  finite : Rat → Bool

/-- Rule data is read from the document of its text, and the text of the column has the
stored document. -/
structure ReadsDocuments (json : JsonLayer) (documents : Documents) : Prop where
  reads : ∀ text ruleSet, json.parse text = .ok ruleSet ↔
    (documents.document text).bind (readRuleSet documents.finite) = some ruleSet
  column : ∀ text stored document, json.jsonb text = .ok stored →
    documents.document text = some document →
    ∃ storedDocument, documents.document stored = some storedDocument ∧
      StoredAs document storedDocument

theorem stores_faithfully_of_documents {json : JsonLayer} {documents : Documents}
    (reading : ReadsDocuments json documents) : StoresFaithfully json := by
  intro text stored ruleSet cast parsed
  obtain ⟨document, isDocument, isRead⟩ :=
    Option.bind_eq_some_iff.mp ((reading.reads text ruleSet).mp parsed)
  obtain ⟨storedDocument, isStoredDocument, isStored⟩ :=
    reading.column text stored document cast isDocument
  rw [reading.reads, isStoredDocument, Option.bind_some]
  exact read_rule_set_stored isStored isRead

theorem validated_parts {parse : String → Except String RuleSet} {text : String}
    {ruleSet : RuleSet} (valid : validateRuleData parse text = .ok ruleSet) :
    parse text = .ok ruleSet ∧ validate ruleSet = .ok () := by
  unfold validateRuleData at valid
  split at valid
  · cases valid
  · rename_i parsed isParsed
    cases checked : validate parsed with
    | error error => simp [checked, Except.map] at valid
    | ok done =>
        simp only [checked, Except.map, Except.ok.injEq] at valid
        rw [← valid]
        exact ⟨isParsed, checked⟩

theorem insert_revision_set {json : JsonLayer} {db next : PolicyDb} {policySetId newId : String}
    {ruleSet : RuleSet} {text : String} {actorId : Option String}
    (ran : insertRevision json db policySetId newId ruleSet text actorId = .ok next) :
    (findKey setId db.sets policySetId).isSome = true := by
  unfold insertRevision at ran
  split at ran
  · cases ran
  · split_ifs at ran with _ _ missing
    simpa [Option.isSome_iff_ne_none] using missing

/-- What the column gives back of rule data is what was submitted: the stores' premise
holds, and a process that starts on a committed activation serves its rule set. -/
structure RuleDataKept (json : JsonLayer) : Prop where
  faithful : StoresFaithfully json
  restarts : ∀ (db committed : PolicyDb) (policySetId newId text : String) (ruleSet : RuleSet)
    (actorId : Option String) (evaluationBudget : Nat),
    validateRuleData json.parse text = .ok ruleSet →
    commitActivation json db policySetId newId ruleSet text actorId = .ok committed →
    loadActiveFromDb json committed policySetId evaluationBudget =
      .ok ⟨ruleSet, evaluationBudget⟩

section Sample

def submittedCondition : Json :=
  .object
    [("conditions", .array
      [.array [.integer 0, .string "requested_amount_micros",
        .object [("lte", .null)], .integer 6000000]]),
      ("type", .string "any")]

def storedCondition : Json :=
  .object
    [("type", .string "any"),
      ("conditions", .array
        [.array [.integer 0, .string "requested_amount_micros",
          .object [("lte", .null)], .integer 6000000]])]

/-- A submission with a nested condition in an array's form, a key that no reader knows,
given twice, and one number written as `2e2` and as `200.0`. -/
def submittedDocument : Json :=
  .object
    [("note", .integer 1), ("note", .real 200), ("scale", .real 200),
      ("policy_revision", .string "v2"),
      ("rules", .array
        [.array
          [.string "small", submittedCondition, .string "auto_approve", .string "small"]]),
      ("default_effect", .string "deny"),
      ("default_reason_code", .string "closed"),
      ("allowed_amounts_micros", .array [.integer 6000000]),
      ("starting_amount_micros", .integer 6000000),
      ("fail_closed_floor_micros", .integer 6000000)]

def storedDocument : Json :=
  .object
    [("note", .integer 200),
      ("rules", .array
        [.array
          [.string "small", storedCondition, .string "auto_approve", .string "small"]]),
      ("scale", .real 200),
      ("default_effect", .string "deny"),
      ("policy_revision", .string "v2"),
      ("default_reason_code", .string "closed"),
      ("allowed_amounts_micros", .array [.integer 6000000]),
      ("starting_amount_micros", .integer 6000000),
      ("fail_closed_floor_micros", .integer 6000000)]

def submittedRuleSet : RuleSet where
  policyRevision := "v2"
  rules :=
    [⟨"small", .any [.threshold .requestedAmountMicros .lte 6000000], .autoApprove, "small", none⟩]
  defaultEffect := .deny
  defaultReasonCode := "closed"
  allowedAmountsMicros := [6000000]
  startingAmountMicros := 6000000
  failClosedFloorMicros := 6000000

def submittedText : String :=
  "\x7b\"note\":1,\"note\":2e2,\"scale\":200.0,\"policy_revision\":\"v2\",\"rules\":[[\"small\"," ++
    "\x7b\"conditions\":[[0,\"requested_amount_micros\",\x7b\"lte\":null\x7d,6000000]]," ++
    "\"type\":\"any\"\x7d,\"auto_approve\",\"small\"]],\"default_effect\":\"deny\"," ++
    "\"default_reason_code\":\"closed\",\"allowed_amounts_micros\":[6000000]," ++
    "\"starting_amount_micros\":6000000,\"fail_closed_floor_micros\":6000000\x7d"

def storedText : String :=
  "\x7b\"note\": 200, \"rules\": [[\"small\", " ++
    "\x7b\"type\": \"any\", " ++
    "\"conditions\": [[0, \"requested_amount_micros\", \x7b\"lte\": null\x7d, 6000000]]\x7d, " ++
    "\"auto_approve\", \"small\"]], \"scale\": 200.0, \"default_effect\": \"deny\", " ++
    "\"policy_revision\": \"v2\", \"default_reason_code\": \"closed\", " ++
    "\"allowed_amounts_micros\": [6000000], \"starting_amount_micros\": 6000000, " ++
    "\"fail_closed_floor_micros\": 6000000\x7d"

def sampleDocuments : Documents where
  document := fun text =>
    if text = submittedText then some submittedDocument
    else if text = storedText then some storedDocument
    else none
  finite := fun _ => true

def documentLayer : JsonLayer where
  parse := fun text =>
    match (sampleDocuments.document text).bind (readRuleSet sampleDocuments.finite) with
    | some ruleSet => .ok ruleSet
    | none => .error "expected value at line 1 column 1"
  jsonb := fun text =>
    if text = submittedText then .ok storedText
    else .error (.message "invalid input syntax for type json")

theorem submitted_stored_as : StoredAs submittedDocument storedDocument := by
  have condition : StoredAs submittedCondition storedCondition := by
    refine ⟨[("conditions", .array
      [.array [.integer 0, .string "requested_amount_micros",
        .object [("lte", .null)], .integer 6000000]]), ("type", .string "any")], ?_, rfl⟩
    simp [StoredEntries, StoredItems, StoredAs, collect_single]
  refine ⟨[("note", .integer 1), ("note", .integer 200), ("scale", .real 200),
      ("policy_revision", .string "v2"),
      ("rules", .array
        [.array
          [.string "small", storedCondition, .string "auto_approve", .string "small"]]),
      ("default_effect", .string "deny"),
      ("default_reason_code", .string "closed"),
      ("allowed_amounts_micros", .array [.integer 6000000]),
      ("starting_amount_micros", .integer 6000000),
      ("fail_closed_floor_micros", .integer 6000000)], ?_, rfl⟩
  simpa [StoredEntries, StoredItems, StoredAs] using condition

theorem document_layer_reads : ReadsDocuments documentLayer sampleDocuments where
  reads := by
    intro text ruleSet
    simp only [documentLayer]
    cases (sampleDocuments.document text).bind (readRuleSet sampleDocuments.finite) with
    | none => simp
    | some found => simp
  column := by
    intro text stored document cast isDocument
    simp only [documentLayer] at cast
    split_ifs at cast with submitted
    cases cast
    simp only [sampleDocuments, submitted, if_true, Option.some.injEq] at isDocument
    have apart : storedText ≠ submittedText := by decide
    refine ⟨storedDocument, ?_, isDocument ▸ submitted_stored_as⟩
    simp [sampleDocuments, apart]

end Sample

end LightbridgeAuthz.Budget.StoredRules
