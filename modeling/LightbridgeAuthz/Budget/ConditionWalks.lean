import LightbridgeAuthz.Budget.RuleData
import LightbridgeAuthz.Library.MeteredRuns

/-!
# What the evaluator computes

An evaluation without a limit walks the conditions in order and counts the nodes
it visits. The evaluator is that walk on a meter: the evaluation budget cuts it
off and changes nothing else.
-/

namespace LightbridgeAuthz.Budget.ConditionWalks

open Library.MeteredRuns
open Domain RuleData

set_option autoImplicit false

section Walks

variable (facts : Facts) (requestedAmountMicros : Int64)

mutual

/-- The nodes visited without a limit, and the verdict. -/
def walkCondition : Condition → Nat × Except EvalAbort Bool
  | .threshold field operator value =>
      (1, (resolveField facts requestedAmountMicros field).map
        fun actual => compare actual operator value)
  | .all conditions => ((walkAll conditions).1 + 1, (walkAll conditions).2)
  | .any conditions => ((walkAny conditions).1 + 1, (walkAny conditions).2)

def walkAll : List Condition → Nat × Except EvalAbort Bool
  | [] => (0, .ok true)
  | nested :: rest =>
      match walkCondition nested with
      | (visited, .ok true) => (visited + (walkAll rest).1, (walkAll rest).2)
      | (visited, .ok false) => (visited, .ok false)
      | (visited, .error abort) => (visited, .error abort)

def walkAny : List Condition → Nat × Except EvalAbort Bool
  | [] => (0, .ok false)
  | nested :: rest =>
      match walkCondition nested with
      | (visited, .ok true) => (visited, .ok true)
      | (visited, .ok false) => (visited + (walkAny rest).1, (walkAny rest).2)
      | (visited, .error abort) => (visited, .error abort)

end

def walkRules (ruleSet : RuleSet) : List Rule → Nat × Decision
  | [] =>
      (0, decisionForEffect requestedAmountMicros ruleSet.defaultEffect none
        ruleSet.defaultReasonCode [] ruleSet.policyRevision)
  | rule :: rest =>
      match walkCondition facts requestedAmountMicros rule.condition with
      | (visited, .ok true) =>
          (visited, decisionForEffect requestedAmountMicros rule.effect rule.capMicros
            rule.reasonCode [rule.id] ruleSet.policyRevision)
      | (visited, .ok false) => (visited + (walkRules ruleSet rest).1, (walkRules ruleSet rest).2)
      | (visited, .error abort) =>
          (visited, abortDecision requestedAmountMicros abort ruleSet.policyRevision)

end Walks

section Metered

variable {facts : Facts} {requestedAmountMicros : Int64} {evaluationBudget : Nat}

mutual

theorem eval_condition_eq (condition : Condition) {nodesEvaluated : Nat}
    (within : nodesEvaluated ≤ evaluationBudget) :
    evalCondition facts requestedAmountMicros evaluationBudget condition nodesEvaluated =
      cutOff evaluationBudget (.error .budgetExceeded) nodesEvaluated
        (walkCondition facts requestedAmountMicros condition) := by
  cases condition with
  | threshold field operator value =>
      simp only [evalCondition, walkCondition]
      rw [← cut_off_tick within (0, _)]
      split_ifs with beyond
      · rfl
      · rw [cut_off_free (by omega)]
  | all conditions =>
      simp only [evalCondition, walkCondition]
      rw [← cut_off_tick within]
      split_ifs with beyond
      · rfl
      · exact eval_all_eq conditions (by omega)
  | any conditions =>
      simp only [evalCondition, walkCondition]
      rw [← cut_off_tick within]
      split_ifs with beyond
      · rfl
      · exact eval_any_eq conditions (by omega)

theorem eval_all_eq (conditions : List Condition) {nodesEvaluated : Nat}
    (within : nodesEvaluated ≤ evaluationBudget) :
    evalAll facts requestedAmountMicros evaluationBudget conditions nodesEvaluated =
      cutOff evaluationBudget (.error .budgetExceeded) nodesEvaluated
        (walkAll facts requestedAmountMicros conditions) := by
  cases conditions with
  | nil =>
      simp only [evalAll, walkAll]
      rw [cut_off_free within]
  | cons nested rest =>
      simp only [evalAll, walkAll, eval_condition_eq nested within]
      match walkCondition facts requestedAmountMicros nested with
      | (visited, .error abort) =>
          simp only [cutOff]
          split_ifs <;> rfl
      | (visited, .ok false) =>
          simp only [cutOff]
          split_ifs <;> rfl
      | (visited, .ok true) =>
          by_cases fits : nodesEvaluated + visited ≤ evaluationBudget
          · rw [cut_off_within fits, ← cut_off_after]
            exact eval_all_eq rest fits
          · rw [cut_off_beyond (Nat.not_le.mp fits), cut_off_beyond (by omega)]

theorem eval_any_eq (conditions : List Condition) {nodesEvaluated : Nat}
    (within : nodesEvaluated ≤ evaluationBudget) :
    evalAny facts requestedAmountMicros evaluationBudget conditions nodesEvaluated =
      cutOff evaluationBudget (.error .budgetExceeded) nodesEvaluated
        (walkAny facts requestedAmountMicros conditions) := by
  cases conditions with
  | nil =>
      simp only [evalAny, walkAny]
      rw [cut_off_free within]
  | cons nested rest =>
      simp only [evalAny, walkAny, eval_condition_eq nested within]
      match walkCondition facts requestedAmountMicros nested with
      | (visited, .error abort) =>
          simp only [cutOff]
          split_ifs <;> rfl
      | (visited, .ok true) =>
          simp only [cutOff]
          split_ifs <;> rfl
      | (visited, .ok false) =>
          by_cases fits : nodesEvaluated + visited ≤ evaluationBudget
          · rw [cut_off_within fits, ← cut_off_after]
            exact eval_any_eq rest fits
          · rw [cut_off_beyond (Nat.not_le.mp fits), cut_off_beyond (by omega)]

end

theorem evaluate_rules_eq (ruleSet : RuleSet) (rules : List Rule) {nodesEvaluated : Nat}
    (within : nodesEvaluated ≤ evaluationBudget) :
    evaluateRules facts requestedAmountMicros evaluationBudget ruleSet rules nodesEvaluated =
      (cutOff evaluationBudget
        (abortDecision requestedAmountMicros .budgetExceeded ruleSet.policyRevision)
        nodesEvaluated (walkRules facts requestedAmountMicros ruleSet rules)).2 := by
  induction rules generalizing nodesEvaluated with
  | nil =>
      simp only [evaluateRules, walkRules]
      rw [cut_off_free within]
  | cons rule rest ih =>
      simp only [evaluateRules, walkRules, eval_condition_eq rule.condition within]
      match walkCondition facts requestedAmountMicros rule.condition with
      | (visited, .error abort) =>
          simp only [cutOff]
          split_ifs <;> rfl
      | (visited, .ok true) =>
          simp only [cutOff]
          split_ifs <;> rfl
      | (visited, .ok false) =>
          by_cases fits : nodesEvaluated + visited ≤ evaluationBudget
          · rw [cut_off_within fits, ← cut_off_after]
            exact ih fits
          · rw [cut_off_beyond (Nat.not_le.mp fits), cut_off_beyond (by omega)]

end Metered

/-- The decision of an evaluation that nothing cuts off. -/
def unlimitedDecision (ruleSet : RuleSet) (facts : Facts) (requestedAmountMicros : Int64) :
    Decision :=
  (walkRules facts requestedAmountMicros ruleSet ruleSet.rules).2

/-- The nodes that an evaluation visits when nothing cuts it off. -/
def visitedNodes (ruleSet : RuleSet) (facts : Facts) (requestedAmountMicros : Int64) : Nat :=
  (walkRules facts requestedAmountMicros ruleSet ruleSet.rules).1

theorem engine_evaluate_eq (ruleSet : RuleSet) (evaluationBudget : Nat) (facts : Facts)
    (requestedAmountMicros : Int64) :
    (ruleDataEngine ruleSet evaluationBudget).evaluate facts requestedAmountMicros =
      .ok (if visitedNodes ruleSet facts requestedAmountMicros ≤ evaluationBudget then
          unlimitedDecision ruleSet facts requestedAmountMicros
        else abortDecision requestedAmountMicros .budgetExceeded ruleSet.policyRevision) := by
  simp only [ruleDataEngine, evaluate_rules_eq ruleSet ruleSet.rules (Nat.zero_le _)]
  by_cases enough : visitedNodes ruleSet facts requestedAmountMicros ≤ evaluationBudget
  · rw [if_pos enough, cutOff, if_pos (by rw [Nat.zero_add]; exact enough)]
    rfl
  · rw [if_neg enough, cutOff, if_neg (by rw [Nat.zero_add]; exact enough)]

/-- The refusal of an evaluation that exceeds its budget. -/
def IsCutOff (requestedAmountMicros : Int64) (decision : Decision) : Prop :=
  decision.effect = .deny ∧ decision.approvedAmountMicros = 0 ∧
    decision.maximumAmountMicros = requestedAmountMicros ∧
      decision.reasonCodes = ["evaluation_budget_exceeded"] ∧ decision.matchedRuleIds = []

theorem abort_is_cut_off (requestedAmountMicros : Int64) (policyRevision : String) :
    IsCutOff requestedAmountMicros
      (abortDecision requestedAmountMicros .budgetExceeded policyRevision) :=
  ⟨rfl, rfl, rfl, rfl, rfl⟩

/-- The evaluation budget is a pure cut-off. -/
theorem evaluation_budget_cuts_off (ruleSet : RuleSet) (facts : Facts)
    (requestedAmountMicros : Int64) :
    ∃ nodes, ∀ evaluationBudget, ∃ decision,
      (ruleDataEngine ruleSet evaluationBudget).evaluate facts requestedAmountMicros =
          .ok decision ∧
        (nodes ≤ evaluationBudget →
          decision = unlimitedDecision ruleSet facts requestedAmountMicros) ∧
        (evaluationBudget < nodes → IsCutOff requestedAmountMicros decision) ∧
        (decision.effect ≠ .deny → ∀ raised, evaluationBudget ≤ raised →
          (ruleDataEngine ruleSet raised).evaluate facts requestedAmountMicros =
            .ok decision) := by
  refine ⟨visitedNodes ruleSet facts requestedAmountMicros, fun evaluationBudget =>
    ⟨_, engine_evaluate_eq ruleSet evaluationBudget facts requestedAmountMicros, ?_, ?_, ?_⟩⟩
  · intro enough
    rw [if_pos enough]
  · intro short
    rw [if_neg (Nat.not_le.mpr short)]
    exact abort_is_cut_off requestedAmountMicros ruleSet.policyRevision
  · intro allowed raised more
    by_cases enough : visitedNodes ruleSet facts requestedAmountMicros ≤ evaluationBudget
    · rw [engine_evaluate_eq, if_pos enough, if_pos (Nat.le_trans enough more)]
    · rw [if_neg enough] at allowed
      exact absurd rfl allowed

end LightbridgeAuthz.Budget.ConditionWalks
