import LightbridgeAuthz.Budget.ConditionWalks
import Mathlib.Algebra.GroupWithZero.Nat

/-!
# Decisions of a rule set

The plain reading of a rule set: a condition is true or false of the facts, and
the first true rule decides. The evaluator computes this reading once both
spends are known and its budget covers the nodes of all rules. A spend that is
missing never helps: what is approved without it is approved with any value.
-/

namespace LightbridgeAuthz.Budget.PolicyDecisions

open Domain RuleData ConditionWalks

set_option autoImplicit false

def Operator.relates (actual : Int) (expected : Int) : Operator → Bool
  | .lt => actual < expected
  | .lte => actual ≤ expected
  | .gt => expected < actual
  | .gte => expected ≤ actual
  | .eq => actual = expected

theorem compare_eq_relates (actual expected : Int64) (operator : Operator) :
    compare actual operator expected = Operator.relates actual.toInt expected.toInt operator := by
  cases operator with
  | lt => exact decide_eq_decide.mpr Int64.lt_iff_toInt_lt
  | lte => exact decide_eq_decide.mpr Int64.le_iff_toInt_le
  | gt => exact decide_eq_decide.mpr Int64.lt_iff_toInt_lt
  | gte => exact decide_eq_decide.mpr Int64.le_iff_toInt_le
  | eq => exact decide_eq_decide.mpr Int64.toInt_inj.symm

def knownMicros : Spend → Option Int
  | .known micros => some micros.toInt
  | .unavailable => none

/-- The integer that a field stands for, if it is known. -/
def fieldValue (facts : Facts) (requestedAmountMicros : Int64) : Field → Option Int
  | .selfServiceGrantCount => some facts.selfServiceGrantCount.toInt
  | .effectiveBalanceMicros => some facts.effectiveBalanceMicros.toInt
  | .spendThisPeriodMicros => knownMicros facts.spendThisPeriod
  | .spendLastPeriodMicros => knownMicros facts.spendLastPeriod
  | .requestedAmountMicros => some requestedAmountMicros.toInt

section Semantics

variable (facts : Facts) (requestedAmountMicros : Int64)

mutual

/-- Boolean semantics, without an order of evaluation. -/
def holds : Condition → Bool
  | .threshold field operator value =>
      (fieldValue facts requestedAmountMicros field).any
        fun actual => Operator.relates actual value.toInt operator
  | .all conditions => allHold conditions
  | .any conditions => anyHolds conditions

def allHold : List Condition → Bool
  | [] => true
  | nested :: rest => holds nested && allHold rest

def anyHolds : List Condition → Bool
  | [] => false
  | nested :: rest => holds nested || anyHolds rest

end

/-- The decision of the first of the rules that is true, or the default. -/
def firstMatch (ruleSet : RuleSet) (rules : List Rule) : Decision :=
  match rules.find? fun rule => holds facts requestedAmountMicros rule.condition with
  | some rule =>
      decisionForEffect requestedAmountMicros rule.effect rule.capMicros rule.reasonCode
        [rule.id] ruleSet.policyRevision
  | none =>
      decisionForEffect requestedAmountMicros ruleSet.defaultEffect none
        ruleSet.defaultReasonCode [] ruleSet.policyRevision

end Semantics

mutual

def nodes : Condition → Nat
  | .threshold _ _ _ => 1
  | .all conditions => nodesOfList conditions + 1
  | .any conditions => nodesOfList conditions + 1

def nodesOfList : List Condition → Nat
  | [] => 0
  | nested :: rest => nodes nested + nodesOfList rest

end

def totalNodes (rules : List Rule) : Nat := (rules.map fun rule => nodes rule.condition).sum

structure SpendsKnown (facts : Facts) : Prop where
  thisPeriod : facts.spendThisPeriod ≠ .unavailable
  lastPeriod : facts.spendLastPeriod ≠ .unavailable

section Walks

variable {facts : Facts} (requestedAmountMicros : Int64)

theorem resolve_spend_known {spend : Spend} (known : spend ≠ .unavailable) :
    ∃ micros, resolveSpend spend = .ok micros ∧ knownMicros spend = some micros.toInt := by
  cases spend with
  | known micros => exact ⟨micros, rfl, rfl⟩
  | unavailable => exact absurd rfl known

theorem resolve_field_known (known : SpendsKnown facts) (field : Field) :
    ∃ actual, resolveField facts requestedAmountMicros field = .ok actual ∧
      fieldValue facts requestedAmountMicros field = some actual.toInt := by
  cases field with
  | selfServiceGrantCount =>
      refine ⟨_, rfl, ?_⟩
      rw [fieldValue, Int32.toInt_toInt64]
  | effectiveBalanceMicros => exact ⟨_, rfl, rfl⟩
  | spendThisPeriodMicros => exact resolve_spend_known known.thisPeriod
  | spendLastPeriodMicros => exact resolve_spend_known known.lastPeriod
  | requestedAmountMicros => exact ⟨_, rfl, rfl⟩

mutual

theorem walk_condition_verdict (known : SpendsKnown facts) (condition : Condition) :
    (walkCondition facts requestedAmountMicros condition).2 =
      .ok (holds facts requestedAmountMicros condition) := by
  cases condition with
  | threshold field operator value =>
      obtain ⟨actual, resolved, reads⟩ := resolve_field_known requestedAmountMicros known field
      simp only [walkCondition, holds, resolved, reads, Except.map, Option.any_some,
        compare_eq_relates]
  | all conditions =>
      simp only [walkCondition, holds]
      exact walk_all_verdict known conditions
  | any conditions =>
      simp only [walkCondition, holds]
      exact walk_any_verdict known conditions

theorem walk_all_verdict (known : SpendsKnown facts) (conditions : List Condition) :
    (walkAll facts requestedAmountMicros conditions).2 =
      .ok (allHold facts requestedAmountMicros conditions) := by
  cases conditions with
  | nil => rfl
  | cons nested rest =>
      have first := walk_condition_verdict known nested
      have others := walk_all_verdict known rest
      rw [walkAll, allHold]
      generalize walkCondition facts requestedAmountMicros nested = walk at first
      obtain ⟨visited, verdict⟩ := walk
      subst first
      cases holds facts requestedAmountMicros nested with
      | false => rfl
      | true => exact others

theorem walk_any_verdict (known : SpendsKnown facts) (conditions : List Condition) :
    (walkAny facts requestedAmountMicros conditions).2 =
      .ok (anyHolds facts requestedAmountMicros conditions) := by
  cases conditions with
  | nil => rfl
  | cons nested rest =>
      have first := walk_condition_verdict known nested
      have others := walk_any_verdict known rest
      rw [walkAny, anyHolds]
      generalize walkCondition facts requestedAmountMicros nested = walk at first
      obtain ⟨visited, verdict⟩ := walk
      subst first
      cases holds facts requestedAmountMicros nested with
      | false => exact others
      | true => rfl

end

variable (facts)

mutual

theorem walk_condition_nodes (condition : Condition) :
    (walkCondition facts requestedAmountMicros condition).1 ≤ nodes condition := by
  cases condition with
  | threshold field operator value => exact Nat.le_refl 1
  | all conditions =>
      simp only [walkCondition, nodes]
      exact Nat.succ_le_succ (walk_all_nodes conditions)
  | any conditions =>
      simp only [walkCondition, nodes]
      exact Nat.succ_le_succ (walk_any_nodes conditions)

theorem walk_all_nodes (conditions : List Condition) :
    (walkAll facts requestedAmountMicros conditions).1 ≤ nodesOfList conditions := by
  cases conditions with
  | nil => exact Nat.le_refl 0
  | cons nested rest =>
      have first := walk_condition_nodes nested
      have others := walk_all_nodes rest
      rw [walkAll, nodesOfList]
      generalize walkCondition facts requestedAmountMicros nested = walk at first
      match walk with
      | (visited, .ok true) => exact Nat.add_le_add first others
      | (visited, .ok false) => exact Nat.le_add_right_of_le first
      | (visited, .error abort) => exact Nat.le_add_right_of_le first

theorem walk_any_nodes (conditions : List Condition) :
    (walkAny facts requestedAmountMicros conditions).1 ≤ nodesOfList conditions := by
  cases conditions with
  | nil => exact Nat.le_refl 0
  | cons nested rest =>
      have first := walk_condition_nodes nested
      have others := walk_any_nodes rest
      rw [walkAny, nodesOfList]
      generalize walkCondition facts requestedAmountMicros nested = walk at first
      match walk with
      | (visited, .ok true) => exact Nat.le_add_right_of_le first
      | (visited, .ok false) => exact Nat.add_le_add first others
      | (visited, .error abort) => exact Nat.le_add_right_of_le first

end

theorem walk_rules_nodes (ruleSet : RuleSet) (rules : List Rule) :
    (walkRules facts requestedAmountMicros ruleSet rules).1 ≤ totalNodes rules := by
  induction rules with
  | nil => exact Nat.le_refl 0
  | cons rule rest ih =>
      have first := walk_condition_nodes facts requestedAmountMicros rule.condition
      rw [walkRules, totalNodes, List.map_cons, List.sum_cons]
      generalize walkCondition facts requestedAmountMicros rule.condition = walk at first
      obtain ⟨visited, verdict⟩ := walk
      cases verdict with
      | error abort => exact Nat.le_add_right_of_le first
      | ok holds =>
          cases holds with
          | true => exact Nat.le_add_right_of_le first
          | false => exact Nat.add_le_add first ih

end Walks

section Decisions

variable {facts : Facts} {requestedAmountMicros : Int64}

theorem walk_rules_decision (known : SpendsKnown facts) (ruleSet : RuleSet) (rules : List Rule) :
    (walkRules facts requestedAmountMicros ruleSet rules).2 =
      firstMatch facts requestedAmountMicros ruleSet rules := by
  induction rules with
  | nil => rfl
  | cons rule rest ih =>
      have first := walk_condition_verdict requestedAmountMicros known rule.condition
      rw [walkRules]
      generalize walkCondition facts requestedAmountMicros rule.condition = walk at first
      obtain ⟨visited, verdict⟩ := walk
      subst first
      cases truth : holds facts requestedAmountMicros rule.condition with
      | false =>
          have skipped := List.find?_cons_of_neg (l := rest)
            (p := fun rule => holds facts requestedAmountMicros rule.condition)
            (Bool.eq_false_iff.mp truth)
          rw [firstMatch, skipped]
          exact ih
      | true =>
          have found := List.find?_cons_of_pos (l := rest)
            (p := fun rule => holds facts requestedAmountMicros rule.condition) truth
          rw [firstMatch, found]

/-- The evaluator decides by the plain reading of the rule set. -/
theorem evaluate_decides_plainly (ruleSet : RuleSet) (known : SpendsKnown facts)
    {evaluationBudget : Nat} (enough : totalNodes ruleSet.rules ≤ evaluationBudget) :
    (ruleDataEngine ruleSet evaluationBudget).evaluate facts requestedAmountMicros =
      .ok (firstMatch facts requestedAmountMicros ruleSet ruleSet.rules) := by
  have visited : visitedNodes ruleSet facts requestedAmountMicros ≤ evaluationBudget :=
    Nat.le_trans (walk_rules_nodes facts requestedAmountMicros ruleSet ruleSet.rules) enough
  rw [engine_evaluate_eq, if_pos visited, unlimitedDecision,
    walk_rules_decision known ruleSet ruleSet.rules]

/-- An unmet disjunction of conjunctions, and one that is met in its second part. -/
def nestedRuleSet : RuleSet where
  policyRevision := "v3"
  rules :=
    [⟨"idle", .all [.threshold .spendThisPeriodMicros .eq 0, .any []], .autoApprove, "idle",
        none⟩,
      ⟨"steady",
        .any
          [.all [.threshold .selfServiceGrantCount .lt 2,
              .threshold .effectiveBalanceMicros .lte 0],
            .all [.threshold .spendThisPeriodMicros .gte 5000000,
              .any [.threshold .spendLastPeriodMicros .gt 9000000,
                .threshold .requestedAmountMicros .lte 6000000]]],
        .autoApproveCapped, "steady", some 15000000⟩]
  defaultEffect := .manualReview
  defaultReasonCode := "unaided_allowance_exhausted"
  allowedAmountsMicros := [6000000, 15000000]
  startingAmountMicros := 15000000
  failClosedFloorMicros := 6000000

def steadyFacts : Facts := ⟨1000000, 3, .known 7000000, .known 8000000⟩

theorem nested_rule_set_decides_plainly :
    SpendsKnown steadyFacts ∧ totalNodes nestedRuleSet.rules = 12 ∧
      (ruleDataEngine nestedRuleSet 12).evaluate steadyFacts 6000000 =
        .ok (firstMatch steadyFacts 6000000 nestedRuleSet nestedRuleSet.rules) ∧
      (firstMatch steadyFacts 6000000 nestedRuleSet nestedRuleSet.rules).matchedRuleIds =
        ["steady"] :=
  ⟨⟨by decide, by decide⟩, by decide,
    evaluate_decides_plainly nestedRuleSet ⟨by decide, by decide⟩ (by decide), by decide⟩

end Decisions

section MissingSpend

/-- The spend afterwards is the same, or a known one where it was missing. -/
def SpendFilled (before after : Spend) : Prop :=
  after = before ∨ (before = .unavailable ∧ ∃ micros, after = .known micros)

/-- The facts with some of the missing spends filled in. -/
structure FillsIn (facts filled : Facts) : Prop where
  balance : filled.effectiveBalanceMicros = facts.effectiveBalanceMicros
  grants : filled.selfServiceGrantCount = facts.selfServiceGrantCount
  thisPeriod : SpendFilled facts.spendThisPeriod filled.spendThisPeriod
  lastPeriod : SpendFilled facts.spendLastPeriod filled.spendLastPeriod

variable {facts filled : Facts}

theorem resolve_spend_filled {before after : Spend} (fills : SpendFilled before after)
    {micros : Int64} (resolved : resolveSpend before = .ok micros) :
    resolveSpend after = .ok micros := by
  obtain same | ⟨missing, -⟩ := fills
  · rw [same]
    exact resolved
  · rw [missing] at resolved
    cases resolved

theorem resolve_field_filled (fills : FillsIn facts filled) {requestedAmountMicros : Int64}
    {field : Field} {actual : Int64}
    (resolved : resolveField facts requestedAmountMicros field = .ok actual) :
    resolveField filled requestedAmountMicros field = .ok actual := by
  cases field with
  | selfServiceGrantCount =>
      rw [resolveField, fills.grants]
      exact resolved
  | effectiveBalanceMicros =>
      rw [resolveField, fills.balance]
      exact resolved
  | spendThisPeriodMicros => exact resolve_spend_filled fills.thisPeriod resolved
  | spendLastPeriodMicros => exact resolve_spend_filled fills.lastPeriod resolved
  | requestedAmountMicros => exact resolved

variable (requestedAmountMicros : Int64)

theorem filled_after (shift : Nat → Nat) {run filledRun : Nat × Except EvalAbort Bool}
    (ends : ∀ {visited verdict}, run = (visited, .ok verdict) → filledRun = (visited, .ok verdict))
    {visited : Nat} {verdict : Bool} (walked : (shift run.1, run.2) = (visited, .ok verdict)) :
    (shift filledRun.1, filledRun.2) = (visited, .ok verdict) := by
  obtain ⟨rfl, ended⟩ := Prod.mk.inj walked
  rw [ends (Prod.ext rfl ended)]

mutual

theorem walk_condition_filled (fills : FillsIn facts filled) (condition : Condition)
    {visited : Nat} {verdict : Bool}
    (walked : walkCondition facts requestedAmountMicros condition = (visited, .ok verdict)) :
    walkCondition filled requestedAmountMicros condition = (visited, .ok verdict) := by
  cases condition with
  | threshold field operator value =>
      simp only [walkCondition] at walked ⊢
      cases resolved : resolveField facts requestedAmountMicros field with
      | error abort =>
          rw [resolved] at walked
          simp only [Except.map, Prod.mk.injEq, reduceCtorEq, and_false] at walked
      | ok actual =>
          rw [resolve_field_filled fills resolved, ← resolved]
          exact walked
  | all conditions =>
      rw [walkCondition] at walked ⊢
      exact filled_after (· + 1) (walk_all_filled fills conditions) walked
  | any conditions =>
      rw [walkCondition] at walked ⊢
      exact filled_after (· + 1) (walk_any_filled fills conditions) walked

theorem walk_all_filled (fills : FillsIn facts filled) (conditions : List Condition)
    {visited : Nat} {verdict : Bool}
    (walked : walkAll facts requestedAmountMicros conditions = (visited, .ok verdict)) :
    walkAll filled requestedAmountMicros conditions = (visited, .ok verdict) := by
  cases conditions with
  | nil => exact walked
  | cons nested rest =>
      rw [walkAll] at walked ⊢
      match first : walkCondition facts requestedAmountMicros nested with
      | (firstVisited, .ok true) =>
          rw [walk_condition_filled fills nested first]
          rw [first] at walked
          exact filled_after (firstVisited + ·) (walk_all_filled fills rest) walked
      | (firstVisited, .ok false) =>
          rw [walk_condition_filled fills nested first]
          simpa only [first] using walked
      | (firstVisited, .error abort) =>
          simp only [first, Prod.mk.injEq, reduceCtorEq, and_false] at walked

theorem walk_any_filled (fills : FillsIn facts filled) (conditions : List Condition)
    {visited : Nat} {verdict : Bool}
    (walked : walkAny facts requestedAmountMicros conditions = (visited, .ok verdict)) :
    walkAny filled requestedAmountMicros conditions = (visited, .ok verdict) := by
  cases conditions with
  | nil => exact walked
  | cons nested rest =>
      rw [walkAny] at walked ⊢
      match first : walkCondition facts requestedAmountMicros nested with
      | (firstVisited, .ok true) =>
          rw [walk_condition_filled fills nested first]
          simpa only [first] using walked
      | (firstVisited, .ok false) =>
          rw [walk_condition_filled fills nested first]
          rw [first] at walked
          exact filled_after (firstVisited + ·) (walk_any_filled fills rest) walked
      | (firstVisited, .error abort) =>
          simp only [first, Prod.mk.injEq, reduceCtorEq, and_false] at walked

end

def Approves (effect : Effect) : Prop := effect = .autoApprove ∨ effect = .autoApproveCapped

theorem abort_not_approves (abort : EvalAbort) (policyRevision : String) :
    ¬ Approves (abortDecision requestedAmountMicros abort policyRevision).effect := by
  cases abort <;> exact fun approves => approves.elim Effect.noConfusion Effect.noConfusion

theorem walk_rules_filled (fills : FillsIn facts filled) (ruleSet : RuleSet) (rules : List Rule)
    (approves : Approves (walkRules facts requestedAmountMicros ruleSet rules).2.effect) :
    walkRules filled requestedAmountMicros ruleSet rules =
      walkRules facts requestedAmountMicros ruleSet rules := by
  induction rules with
  | nil => rfl
  | cons rule rest ih =>
      rw [walkRules] at approves
      rw [walkRules, walkRules]
      match first : walkCondition facts requestedAmountMicros rule.condition with
      | (visited, .ok true) =>
          rw [walk_condition_filled requestedAmountMicros fills rule.condition first]
      | (visited, .ok false) =>
          rw [walk_condition_filled requestedAmountMicros fills rule.condition first]
          simp only [first] at approves
          simp only [ih approves]
      | (visited, .error abort) =>
          simp only [first] at approves
          exact absurd approves (abort_not_approves requestedAmountMicros abort _)

/-- What is approved while a spend is missing is approved with any spend. -/
theorem missing_spend_never_helps (ruleSet : RuleSet) (evaluationBudget : Nat)
    (fills : FillsIn facts filled) {decision : Decision}
    (evaluated : (ruleDataEngine ruleSet evaluationBudget).evaluate facts requestedAmountMicros =
      .ok decision)
    (approves : Approves decision.effect) :
    (ruleDataEngine ruleSet evaluationBudget).evaluate filled requestedAmountMicros =
      .ok decision := by
  rw [engine_evaluate_eq] at evaluated ⊢
  obtain rfl := Except.ok.inj evaluated
  by_cases enough : visitedNodes ruleSet facts requestedAmountMicros ≤ evaluationBudget
  · rw [if_pos enough] at approves ⊢
    have same := walk_rules_filled requestedAmountMicros fills ruleSet ruleSet.rules approves
    have sameNodes : visitedNodes ruleSet filled requestedAmountMicros =
        visitedNodes ruleSet facts requestedAmountMicros := congrArg Prod.fst same
    have sameDecision : unlimitedDecision ruleSet filled requestedAmountMicros =
        unlimitedDecision ruleSet facts requestedAmountMicros := congrArg Prod.snd same
    rw [sameNodes, sameDecision, if_pos enough]
  · rw [if_neg enough] at approves
    exact absurd approves (abort_not_approves requestedAmountMicros _ _)

theorem default_rule_set_missing_spend :
    (ruleDataEngine defaultRuleSet 1).evaluate (Facts.mk 0 1 (.known 5) .unavailable) 6000000 =
        .ok (decisionForEffect 6000000 .autoApprove none "within_unaided_allowance"
          ["within-unaided-allowance"] "budget-policy-v1") ∧
      (ruleDataEngine defaultRuleSet 1).evaluate (Facts.mk 0 1 (.known 5) (.known 7)) 6000000 =
        .ok (decisionForEffect 6000000 .autoApprove none "within_unaided_allowance"
          ["within-unaided-allowance"] "budget-policy-v1") :=
  have fills : FillsIn (Facts.mk 0 1 (.known 5) .unavailable)
      (Facts.mk 0 1 (.known 5) (.known 7)) := ⟨rfl, rfl, .inl rfl, .inr ⟨rfl, 7, rfl⟩⟩
  ⟨rfl, missing_spend_never_helps 6000000 defaultRuleSet 1 fills rfl (.inl rfl)⟩

end MissingSpend

end LightbridgeAuthz.Budget.PolicyDecisions
