import LightbridgeAuthz.Budget.Domain

/-!
# Rule data and its evaluator

The policy language of `rule_data.rs`: an ordered list of rules, each a boolean
expression over the facts, with a default when none matches. Evaluation visits
condition nodes in order and stops at the evaluation budget; the node counter
is threaded through as the source threads its `&mut usize`.
-/

namespace LightbridgeAuthz.Budget.RuleData

open Domain

set_option autoImplicit false

inductive Field where
  | selfServiceGrantCount
  | effectiveBalanceMicros
  | spendThisPeriodMicros
  | spendLastPeriodMicros
  | requestedAmountMicros
  deriving DecidableEq, Repr

inductive Operator where
  | lt
  | lte
  | gt
  | gte
  | eq
  deriving DecidableEq, Repr

inductive Condition where
  | threshold (field : Field) (operator : Operator) (value : Int64)
  | all (conditions : List Condition)
  | any (conditions : List Condition)

structure Rule where
  id : String
  condition : Condition
  effect : Effect
  reasonCode : String
  capMicros : Option Int64

structure RuleSet where
  policyRevision : String
  rules : List Rule
  defaultEffect : Effect
  defaultReasonCode : String
  allowedAmountsMicros : List Int64
  startingAmountMicros : Int64
  failClosedFloorMicros : Int64

/-- `default_rule_set_json`, parsed. -/
def defaultRuleSet : RuleSet where
  policyRevision := "budget-policy-v1"
  rules :=
    [{ id := "within-unaided-allowance"
       condition := .threshold .selfServiceGrantCount .lt 2
       effect := .autoApprove
       reasonCode := "within_unaided_allowance"
       capMicros := none }]
  defaultEffect := .manualReview
  defaultReasonCode := "unaided_allowance_exhausted"
  allowedAmountsMicros := [6000000, 15000000, 30000000]
  startingAmountMicros := 15000000
  failClosedFloorMicros := 6000000

def refuse (reason : String) : Except BudgetError Unit := .error (.invalidRuleData reason)

def validateRules (seenIds : List String) : List Rule → Except BudgetError Unit
  | [] => .ok ()
  | rule :: rest =>
      if isBlank rule.id then refuse "rule id must not be empty"
      else if isBlank rule.reasonCode then
        refuse ("rule '" ++ rule.id ++ "' reason_code must not be empty")
      else if rule.id ∈ seenIds then refuse ("duplicate rule id: " ++ rule.id)
      else validateRules (rule.id :: seenIds) rest

def validateAmounts (seenAmounts : List Int64) (previousAmount : Option Int64) :
    List Int64 → Except BudgetError Unit
  | [] => .ok ()
  | amount :: rest =>
      if amount ≤ 0 then
        refuse ("allowed_amounts_micros entries must be positive, got " ++ toString amount)
      else if amount ∈ seenAmounts then
        refuse ("duplicate entry in allowed_amounts_micros: " ++ toString amount)
      else if ∃ previous ∈ previousAmount, amount ≤ previous then
        refuse "allowed_amounts_micros must be strictly ascending"
      else validateAmounts (amount :: seenAmounts) (some amount) rest

def validate (ruleSet : RuleSet) : Except BudgetError Unit := do
  if isBlank ruleSet.policyRevision then refuse "policy_revision must not be empty"
  if isBlank ruleSet.defaultReasonCode then refuse "default_reason_code must not be empty"
  validateRules [] ruleSet.rules
  if ruleSet.allowedAmountsMicros = [] then refuse "allowed_amounts_micros must not be empty"
  validateAmounts [] none ruleSet.allowedAmountsMicros
  if ruleSet.startingAmountMicros ≤ 0 then
    refuse ("starting_amount_micros must be positive, got " ++
      toString ruleSet.startingAmountMicros)
  if ruleSet.failClosedFloorMicros ≤ 0 then
    refuse ("fail_closed_floor_micros must be positive, got " ++
      toString ruleSet.failClosedFloorMicros)
  if ruleSet.startingAmountMicros < ruleSet.failClosedFloorMicros then
    refuse ("fail_closed_floor_micros (" ++ toString ruleSet.failClosedFloorMicros ++
      ") must not exceed starting_amount_micros (" ++ toString ruleSet.startingAmountMicros ++
      "): an outage must never grant more than a legitimate new signup would get")

theorem default_rule_set_valid : validate defaultRuleSet = .ok () := by rfl

/-- `validate_rule_data`; `parse` is `serde_json::from_str`, with the text of its
error. -/
def validateRuleData (parse : String → Except String RuleSet) (ruleDataJson : String) :
    Except BudgetError RuleSet :=
  match parse ruleDataJson with
  | .error text => .error (.invalidRuleData ("failed to parse rule data JSON: " ++ text))
  | .ok ruleSet => (validate ruleSet).map fun _ => ruleSet

inductive EvalAbort where
  | budgetExceeded
  | fieldUnavailable
  deriving DecidableEq, Repr

def resolveSpend : Spend → Except EvalAbort Int64
  | .known micros => .ok micros
  | .unavailable => .error .fieldUnavailable

/-- `resolve_field`; its one error is what `eval_condition` maps it to. -/
def resolveField (facts : Facts) (requestedAmountMicros : Int64) :
    Field → Except EvalAbort Int64
  | .selfServiceGrantCount => .ok facts.selfServiceGrantCount.toInt64
  | .effectiveBalanceMicros => .ok facts.effectiveBalanceMicros
  | .spendThisPeriodMicros => resolveSpend facts.spendThisPeriod
  | .spendLastPeriodMicros => resolveSpend facts.spendLastPeriod
  | .requestedAmountMicros => .ok requestedAmountMicros

def compare (actual : Int64) (operator : Operator) (expected : Int64) : Bool :=
  match operator with
  | .lt => actual < expected
  | .lte => actual ≤ expected
  | .gt => expected < actual
  | .gte => expected ≤ actual
  | .eq => actual == expected

section Evaluation

variable (facts : Facts) (requestedAmountMicros : Int64) (evaluationBudget : Nat)

-- The pair is the counter after the visit and the verdict. Each visit counts
-- itself first, also when it then exceeds the budget.
mutual

def evalCondition : Condition → Nat → Nat × Except EvalAbort Bool
  | .threshold field operator value, nodesEvaluated =>
      if evaluationBudget < nodesEvaluated + 1 then
        (nodesEvaluated + 1, .error .budgetExceeded)
      else
        (nodesEvaluated + 1, (resolveField facts requestedAmountMicros field).map
          fun actual => compare actual operator value)
  | .all conditions, nodesEvaluated =>
      if evaluationBudget < nodesEvaluated + 1 then
        (nodesEvaluated + 1, .error .budgetExceeded)
      else evalAll conditions (nodesEvaluated + 1)
  | .any conditions, nodesEvaluated =>
      if evaluationBudget < nodesEvaluated + 1 then
        (nodesEvaluated + 1, .error .budgetExceeded)
      else evalAny conditions (nodesEvaluated + 1)

def evalAll : List Condition → Nat → Nat × Except EvalAbort Bool
  | [], nodesEvaluated => (nodesEvaluated, .ok true)
  | nested :: rest, nodesEvaluated =>
      match evalCondition nested nodesEvaluated with
      | (visited, .ok true) => evalAll rest visited
      | (visited, .ok false) => (visited, .ok false)
      | (visited, .error abort) => (visited, .error abort)

def evalAny : List Condition → Nat → Nat × Except EvalAbort Bool
  | [], nodesEvaluated => (nodesEvaluated, .ok false)
  | nested :: rest, nodesEvaluated =>
      match evalCondition nested nodesEvaluated with
      | (visited, .ok true) => (visited, .ok true)
      | (visited, .ok false) => evalAny rest visited
      | (visited, .error abort) => (visited, .error abort)

end

def decisionForEffect (effect : Effect) (capMicros : Option Int64) (reasonCode : String)
    (matchedRuleIds : List String) (policyRevision : String) : Decision :=
  let amounts : Int64 × Int64 :=
    match effect with
    | .autoApprove => (requestedAmountMicros, requestedAmountMicros)
    | .autoApproveCapped =>
        let cap := capMicros.getD requestedAmountMicros
        (min requestedAmountMicros cap, cap)
    | .manualReview => (0, requestedAmountMicros)
    | .deny => (0, requestedAmountMicros)
    | .noAction => (0, requestedAmountMicros)
  { effect := effect
    approvedAmountMicros := amounts.1
    maximumAmountMicros := amounts.2
    reasonCodes := [reasonCode]
    matchedRuleIds := matchedRuleIds
    policyRevision := policyRevision
    requiredApproverRole := none }

def abortDecision (abort : EvalAbort) (policyRevision : String) : Decision :=
  match abort with
  | .budgetExceeded =>
      decisionForEffect requestedAmountMicros .deny none "evaluation_budget_exceeded" []
        policyRevision
  | .fieldUnavailable =>
      decisionForEffect requestedAmountMicros .manualReview none "required_fact_unavailable" []
        policyRevision

/-- The rule loop of `RuleDataEngine::evaluate`: the first match decides. -/
def evaluateRules (ruleSet : RuleSet) : List Rule → Nat → Decision
  | [], _ =>
      decisionForEffect requestedAmountMicros ruleSet.defaultEffect none
        ruleSet.defaultReasonCode [] ruleSet.policyRevision
  | rule :: rest, nodesEvaluated =>
      match evalCondition facts requestedAmountMicros evaluationBudget rule.condition
          nodesEvaluated with
      | (_, .ok true) =>
          decisionForEffect requestedAmountMicros rule.effect rule.capMicros rule.reasonCode
            [rule.id] ruleSet.policyRevision
      | (visited, .ok false) => evaluateRules ruleSet rest visited
      | (_, .error abort) => abortDecision requestedAmountMicros abort ruleSet.policyRevision

end Evaluation

/-- The `PolicyEngine` trait object: what a refill asks of the policy. Any
engine may answer with an error. -/
structure PolicyEngine where
  evaluate : Facts → Int64 → Except BudgetError Decision
  allowedAmountsMicros : List Int64

/-- `RuleDataEngine` serving one rule set. -/
def ruleDataEngine (ruleSet : RuleSet) (evaluationBudget : Nat) : PolicyEngine where
  evaluate facts requestedAmountMicros :=
    .ok (evaluateRules facts requestedAmountMicros evaluationBudget ruleSet ruleSet.rules 0)
  allowedAmountsMicros := ruleSet.allowedAmountsMicros

end LightbridgeAuthz.Budget.RuleData
