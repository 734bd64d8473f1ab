import LightbridgeAuthz.Budget.RuleData
import LightbridgeAuthz.Library.CheckedInt
import LightbridgeAuthz.Migrations.LegacyValues

/-!
# Rule data as a JSON document

`RuleSet` is read by serde's derived readers: a struct from an object, in any
order of its fields and beside fields it does not know, or from an array by
position; an enum from its name or from an object that holds it; a condition by
its tag, after the rest of it was buffered. The column is `jsonb`, which keeps
the last value of each key of an object, sorts the keys and prints each number with
the scale of its literal.
-/

namespace LightbridgeAuthz.Budget.RuleDocuments

open Library.CheckedInt Library.SortedEntries
open Access.ModelPolicies Migrations.LegacyValues
open Domain RuleData

set_option autoImplicit false

section Column

mutual

/-- What `::text` may give back of a document cast to `jsonb`: `numeric` keeps the scale of
each literal, so a number without a fraction is printed with or without one. -/
def StoredAs : Json → Json → Prop
  | .real value, stored => stored = .real value ∨ value.den = 1 ∧ stored = .integer value.num
  | .array items, stored => ∃ others, StoredItems items others ∧ stored = .array others
  | .object entries, stored =>
      ∃ others, StoredEntries entries others ∧ stored = .object (collect keyRank others)
  | .null, stored => stored = .null
  | .bool value, stored => stored = .bool value
  | .integer value, stored => stored = .integer value
  | .string value, stored => stored = .string value

def StoredItems : List Json → List Json → Prop
  | [], others => others = []
  | item :: rest, others =>
      ∃ other further, StoredAs item other ∧ StoredItems rest further ∧ others = other :: further

def StoredEntries : List (String × Json) → List (String × Json) → Prop
  | [], others => others = []
  | (key, value) :: rest, others =>
      ∃ other further, StoredAs value other ∧ StoredEntries rest further ∧
        others = (key, other) :: further

end

end Column

section Readers

/-- The values that an object gives a key, in order. -/
def valuesOf {Value : Type} (name : String) (entries : List (String × Value)) : List Value :=
  (entries.filter fun entry => entry.1 == name).map Prod.snd

/-- One field of a struct read from an object: absent, given once, or refused as a
duplicate. -/
def fieldOf {Value : Type} (name : String) (entries : List (String × Value)) :
    Option (Option Value) :=
  match valuesOf name entries with
  | [] => some none
  | [value] => some (some value)
  | _ :: _ :: _ => none

/-- The fields of a struct, from an object by name or from an array by position. -/
def structFields (names : List String) : Json → Option (List (Option Json))
  | .object entries => names.mapM fun name => fieldOf name entries
  | .array items =>
      if items.length ≤ names.length then
        some ((List.range names.length).map fun index => items[index]?)
      else none
  | _ => none

def readString : Json → Option String
  | .string value => some value
  | _ => none

def readI64 : Json → Option Int64
  | .integer value => toBigint value
  | _ => none

def readOptionalI64 : Json → Option (Option Int64)
  | .null => some none
  | value => (readI64 value).map some

/-- A unit variant: its name, or an object that gives the name a null. -/
def readVariant {Variant : Type} (byName : String → Option Variant) : Json → Option Variant
  | .string name => byName name
  | .object [(name, .null)] => byName name
  | _ => none

def fieldNamed (name : String) : Option Field :=
  if name = "self_service_grant_count" then some .selfServiceGrantCount
  else if name = "effective_balance_micros" then some .effectiveBalanceMicros
  else if name = "spend_this_period_micros" then some .spendThisPeriodMicros
  else if name = "spend_last_period_micros" then some .spendLastPeriodMicros
  else if name = "requested_amount_micros" then some .requestedAmountMicros
  else none

def operatorNamed (name : String) : Option Operator :=
  if name = "lt" then some .lt
  else if name = "lte" then some .lte
  else if name = "gt" then some .gt
  else if name = "gte" then some .gte
  else if name = "eq" then some .eq
  else none

def effectNamed (name : String) : Option Effect :=
  if name = "auto_approve" then some .autoApprove
  else if name = "auto_approve_capped" then some .autoApproveCapped
  else if name = "manual_review" then some .manualReview
  else if name = "deny" then some .deny
  else if name = "no_action" then some .noAction
  else none

inductive ConditionTag where
  | threshold
  | all
  | any
  deriving DecidableEq, Repr

def tagNamed (name : String) : Option ConditionTag :=
  if name = "threshold" then some .threshold
  else if name = "all" then some .all
  else if name = "any" then some .any
  else none

/-- The tag of a condition. Inside a buffered document an index does as well as the
name. -/
def readTag (buffered : Bool) : Json → Option ConditionTag
  | .string name => tagNamed name
  | .integer index =>
      if buffered = false then none
      else if index = 0 then some .threshold
      else if index = 1 then some .all
      else if index = 2 then some .any
      else none
  | _ => none

def readThreshold : List (Option Json) → Option Condition
  | [some field, some operator, some value] => do
      let field ← readVariant fieldNamed field
      let operator ← readVariant operatorNamed operator
      let value ← readI64 value
      some (.threshold field operator value)
  | _ => none

def thresholdFields : List String := ["field", "operator", "value"]

/-- What a tagged condition is made of: the fields of a threshold, or the conditions
read from the field `conditions`. -/
def conditionOf (tag : ConditionTag) (threshold : Option (List (Option Json)))
    (conditions : Option (List Condition)) : Option Condition :=
  match tag with
  | .threshold => threshold.bind readThreshold
  | .all => conditions.map .all
  | .any => conditions.map .any

def onlyList : List (Option (List Condition)) → Option (List Condition)
  | [conditions] => conditions
  | _ => none

mutual

/-- `buffered` says that the document is part of a condition that was buffered. -/
def readCondition (buffered : Bool) : Json → Option Condition
  | .object entries =>
      match valuesOf "type" entries with
      | [tag] => do
          let tag ← readTag buffered tag
          conditionOf tag (structFields thresholdFields (.object entries))
            ((fieldOf "conditions" (readEntries entries)).bind fun given => given.bind id)
      | _ => none
  | .array (tag :: items) => do
      let tag ← readTag buffered tag
      conditionOf tag (structFields thresholdFields (.array items)) (onlyList (readLists items))
  | _ => none

/-- `Vec<Condition>`, from a buffered document. -/
def readConditions : Json → Option (List Condition)
  | .array items => readItems items
  | _ => none

def readItems : List Json → Option (List Condition)
  | [] => some []
  | item :: rest => do
      let condition ← readCondition true item
      let conditions ← readItems rest
      some (condition :: conditions)

def readLists : List Json → List (Option (List Condition))
  | [] => []
  | item :: rest => readConditions item :: readLists rest

def readEntries : List (String × Json) → List (String × Option (List Condition))
  | [] => []
  | (key, value) :: rest => (key, readConditions value) :: readEntries rest

end

-- Whether a number is read as a finite double, which buffering asks for.
variable (finite : Rat → Bool)

mutual

def bufferable : Json → Bool
  | .integer value => finite value
  | .real value => finite value
  | .array items => bufferableItems items
  | .object entries => bufferableEntries entries
  | .null => true
  | .bool _ => true
  | .string _ => true

def bufferableItems : List Json → Bool
  | [] => true
  | item :: rest => bufferable item && bufferableItems rest

def bufferableEntries : List (String × Json) → Bool
  | [] => true
  | (_, value) :: rest => bufferable value && bufferableEntries rest

end

def readRuleCondition (document : Json) : Option Condition :=
  if bufferable finite document then readCondition false document else none

def readRule (document : Json) : Option Rule := do
  match ← structFields ["id", "condition", "effect", "reason_code", "cap_micros"] document with
  | [some id, some condition, some effect, some reasonCode, capMicros] =>
      let id ← readString id
      let condition ← readRuleCondition finite condition
      let effect ← readVariant effectNamed effect
      let reasonCode ← readString reasonCode
      let capMicros ← (capMicros.map readOptionalI64).getD (some none)
      some ⟨id, condition, effect, reasonCode, capMicros⟩
  | _ => none

def readList {Value : Type} (read : Json → Option Value) : Json → Option (List Value)
  | .array items => items.mapM read
  | _ => none

def ruleSetFields : List String :=
  ["policy_revision", "rules", "default_effect", "default_reason_code",
    "allowed_amounts_micros", "starting_amount_micros", "fail_closed_floor_micros"]

/-- `serde_json::from_str::<RuleSet>`, from the document on. -/
def readRuleSet (document : Json) : Option RuleSet := do
  match ← structFields ruleSetFields document with
  | [some policyRevision, some rules, some defaultEffect, some defaultReasonCode, some amounts,
      some startingAmount, some failClosedFloor] =>
      let policyRevision ← readString policyRevision
      let rules ← readList (readRule finite) rules
      let defaultEffect ← readVariant effectNamed defaultEffect
      let defaultReasonCode ← readString defaultReasonCode
      let amounts ← readList readI64 amounts
      let startingAmount ← readI64 startingAmount
      let failClosedFloor ← readI64 failClosedFloor
      some ⟨policyRevision, rules, defaultEffect, defaultReasonCode, amounts, startingAmount,
        failClosedFloor⟩
  | _ => none

end Readers

/-- `default_rule_set_json`. -/
def defaultDocument : Json :=
  .object
    [("policy_revision", .string "budget-policy-v1"),
      ("rules", .array
        [.object
          [("id", .string "within-unaided-allowance"),
            ("condition", .object
              [("type", .string "threshold"), ("field", .string "self_service_grant_count"),
                ("operator", .string "lt"), ("value", .integer 2)]),
            ("effect", .string "auto_approve"),
            ("reason_code", .string "within_unaided_allowance")]]),
      ("default_effect", .string "manual_review"),
      ("default_reason_code", .string "unaided_allowance_exhausted"),
      ("allowed_amounts_micros", .array [.integer 6000000, .integer 15000000, .integer 30000000]),
      ("starting_amount_micros", .integer 15000000),
      ("fail_closed_floor_micros", .integer 6000000)]

example : readRuleSet (fun _ => true) defaultDocument = some defaultRuleSet := by rfl

end LightbridgeAuthz.Budget.RuleDocuments
