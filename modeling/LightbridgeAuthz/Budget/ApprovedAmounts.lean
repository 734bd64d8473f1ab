import LightbridgeAuthz.Budget.PolicyDecisions
import LightbridgeAuthz.Budget.IdempotencyKeys

/-!
# Approved amounts

An approval is granted in the amount of the decision, and the ledger takes
positive amounts only. Validation makes every amount of a rule set positive but
the caps of its rules. So an approval can be granted unless the rule that
decides it imposes a cap of zero or less; the request of such an approval is
left in status `created`.
-/

namespace LightbridgeAuthz.Budget.ApprovedAmounts

open Library.EventRun
open Domain GrantLedger RuleData ServiceWorld ConditionWalks PolicyDecisions

set_option autoImplicit false

section Validation

theorem validate_amounts_positive {seenAmounts : List Int64} {previousAmount : Option Int64}
    {amounts : List Int64}
    (accepted : validateAmounts seenAmounts previousAmount amounts = .ok ()) :
    ∀ amount ∈ amounts, 0 < amount := by
  induction amounts generalizing seenAmounts previousAmount with
  | nil => exact fun _ member => absurd member List.not_mem_nil
  | cons first rest ih =>
      simp only [validateAmounts, refuse] at accepted
      split_ifs at accepted with notPositive repeated descends
      intro amount member
      obtain rfl | later := List.mem_cons.mp member
      · exact Int64.not_le.mp notPositive
      · exact ih accepted amount later

theorem validate_amounts_accepted {ruleSet : RuleSet} (valid : validate ruleSet = .ok ()) :
    validateAmounts [] none ruleSet.allowedAmountsMicros = .ok () := by
  unfold validate at valid
  cases amounts : validateAmounts [] none ruleSet.allowedAmountsMicros with
  | ok _ => rfl
  | error error =>
      rw [amounts] at valid
      cases rules : validateRules [] ruleSet.rules with
      | error other =>
          rw [rules] at valid
          split_ifs at valid <;> cases valid
      | ok _ =>
          rw [rules] at valid
          split_ifs at valid <;> cases valid

theorem valid_of_accepted {parse : String → Except String RuleSet} {ruleDataJson : String}
    {ruleSet : RuleSet} (accepted : validateRuleData parse ruleDataJson = .ok ruleSet) :
    validate ruleSet = .ok () := by
  unfold validateRuleData at accepted
  cases parsed : parse ruleDataJson with
  | error text =>
      rw [parsed] at accepted
      cases accepted
  | ok document =>
      rw [parsed] at accepted
      cases valid : validate document with
      | error error =>
          simp only [valid, Except.map] at accepted
          cases accepted
      | ok _ =>
          simp only [valid, Except.map, Except.ok.injEq] at accepted
          rw [← accepted, valid]

end Validation

section Deciding

variable {facts : Facts} {requestedAmountMicros : Int64}

/-- The rule decides: the conditions before it are false, its own is true, and
the budget covers the nodes that this takes. -/
def Decides (facts : Facts) (requestedAmountMicros : Int64) (evaluationBudget : Nat)
    (rules : List Rule) (rule : Rule) : Prop :=
  ∃ earlier later, rules = earlier ++ rule :: later ∧
    (∀ other ∈ earlier,
      (walkCondition facts requestedAmountMicros other.condition).2 = .ok false) ∧
    (walkCondition facts requestedAmountMicros rule.condition).2 = .ok true ∧
    ((earlier ++ [rule]).map fun other =>
      (walkCondition facts requestedAmountMicros other.condition).1).sum ≤ evaluationBudget

def ruleDecision (requestedAmountMicros : Int64) (ruleSet : RuleSet) (rule : Rule) : Decision :=
  decisionForEffect requestedAmountMicros rule.effect rule.capMicros rule.reasonCode [rule.id]
    ruleSet.policyRevision

def defaultDecision (requestedAmountMicros : Int64) (ruleSet : RuleSet) : Decision :=
  decisionForEffect requestedAmountMicros ruleSet.defaultEffect none ruleSet.defaultReasonCode []
    ruleSet.policyRevision

theorem walk_condition_eq {condition : Condition} {verdict : Bool}
    (walked : (walkCondition facts requestedAmountMicros condition).2 = .ok verdict) :
    walkCondition facts requestedAmountMicros condition =
      ((walkCondition facts requestedAmountMicros condition).1, .ok verdict) :=
  Prod.ext rfl walked

theorem walk_rules_split (ruleSet : RuleSet) {earlier : List Rule} (later : List Rule)
    {rule : Rule}
    (skipped : ∀ other ∈ earlier,
      (walkCondition facts requestedAmountMicros other.condition).2 = .ok false)
    (taken : (walkCondition facts requestedAmountMicros rule.condition).2 = .ok true) :
    walkRules facts requestedAmountMicros ruleSet (earlier ++ rule :: later) =
      (((earlier ++ [rule]).map fun other =>
          (walkCondition facts requestedAmountMicros other.condition).1).sum,
        ruleDecision requestedAmountMicros ruleSet rule) := by
  induction earlier with
  | nil =>
      rw [List.nil_append, walkRules, walk_condition_eq taken]
      simp only [List.nil_append, List.map_cons, List.map_nil, List.sum_cons, List.sum_nil,
        Nat.add_zero, ruleDecision]
  | cons first rest ih =>
      have others := ih fun other member => skipped other (List.mem_cons_of_mem _ member)
      rw [List.cons_append, walkRules, walk_condition_eq (skipped first List.mem_cons_self)]
      simp only [others, List.cons_append, List.map_cons, List.sum_cons]

theorem evaluate_of_decides {ruleSet : RuleSet} {evaluationBudget : Nat} {rule : Rule}
    (decides : Decides facts requestedAmountMicros evaluationBudget ruleSet.rules rule) :
    (ruleDataEngine ruleSet evaluationBudget).evaluate facts requestedAmountMicros =
      .ok (ruleDecision requestedAmountMicros ruleSet rule) := by
  obtain ⟨earlier, later, split, skipped, taken, enough⟩ := decides
  have walked := walk_rules_split ruleSet later skipped taken
  rw [← split] at walked
  have visited : visitedNodes ruleSet facts requestedAmountMicros ≤ evaluationBudget := by
    rw [visitedNodes, walked]
    exact enough
  rw [engine_evaluate_eq, if_pos visited, unlimitedDecision, walked]

theorem decides_after {first rule : Rule} {rest : List Rule} {evaluationBudget visited : Nat}
    (walked : walkCondition facts requestedAmountMicros first.condition = (visited, .ok false))
    (decides : Decides facts requestedAmountMicros (evaluationBudget - visited) rest rule)
    (within : visited ≤ evaluationBudget) :
    Decides facts requestedAmountMicros evaluationBudget (first :: rest) rule := by
  obtain ⟨earlier, later, split, skipped, taken, fits⟩ := decides
  refine ⟨first :: earlier, later, by rw [split, List.cons_append], ?_, taken, ?_⟩
  · intro other member
    obtain rfl | nested := List.mem_cons.mp member
    · rw [walked]
    · exact skipped other nested
  · rw [List.cons_append, List.map_cons, List.sum_cons, walked]
    show visited + _ ≤ evaluationBudget
    omega

theorem walk_rules_approves (ruleSet : RuleSet) (rules : List Rule) {evaluationBudget : Nat}
    (enough : (walkRules facts requestedAmountMicros ruleSet rules).1 ≤ evaluationBudget)
    (approves : Approves (walkRules facts requestedAmountMicros ruleSet rules).2.effect) :
    (walkRules facts requestedAmountMicros ruleSet rules).2 =
        defaultDecision requestedAmountMicros ruleSet ∨
      ∃ rule, Decides facts requestedAmountMicros evaluationBudget rules rule ∧
        (walkRules facts requestedAmountMicros ruleSet rules).2 =
          ruleDecision requestedAmountMicros ruleSet rule := by
  induction rules generalizing evaluationBudget with
  | nil => exact .inl rfl
  | cons first rest ih =>
      rw [walkRules] at enough approves ⊢
      cases walked : walkCondition facts requestedAmountMicros first.condition with
      | mk visited verdict =>
          cases verdict with
          | error abort =>
              simp only [walked] at approves
              exact absurd approves (abort_not_approves requestedAmountMicros abort _)
          | ok holds =>
              cases holds with
              | true =>
                  simp only [walked] at enough
                  refine .inr ⟨first, ⟨[], rest, rfl, fun _ member => absurd member
                    List.not_mem_nil, by rw [walked], ?_⟩, rfl⟩
                  simpa only [List.nil_append, List.map_cons, List.map_nil, List.sum_cons,
                    List.sum_nil, Nat.add_zero, walked] using enough
              | false =>
                  simp only [walked] at enough approves ⊢
                  have left : (walkRules facts requestedAmountMicros ruleSet rest).1 ≤
                      evaluationBudget - visited := by omega
                  obtain default | ⟨rule, decides, decided⟩ := ih left approves
                  · exact .inl default
                  · exact .inr ⟨rule, decides_after walked decides (by omega), decided⟩

theorem evaluate_approves {ruleSet : RuleSet} {evaluationBudget : Nat} {decision : Decision}
    (evaluated : (ruleDataEngine ruleSet evaluationBudget).evaluate facts requestedAmountMicros =
      .ok decision)
    (approves : Approves decision.effect) :
    decision = defaultDecision requestedAmountMicros ruleSet ∨
      ∃ rule, Decides facts requestedAmountMicros evaluationBudget ruleSet.rules rule ∧
        decision = ruleDecision requestedAmountMicros ruleSet rule := by
  rw [engine_evaluate_eq] at evaluated
  obtain rfl := Except.ok.inj evaluated
  by_cases enough : visitedNodes ruleSet facts requestedAmountMicros ≤ evaluationBudget
  · rw [if_pos enough] at approves ⊢
    exact walk_rules_approves ruleSet ruleSet.rules enough approves
  · rw [if_neg enough] at approves
    exact absurd approves (abort_not_approves requestedAmountMicros _ _)

end Deciding

section Amounts

/-- The grant step has failed on the sign of its amount: nothing is written, and
the request row stays as it was created. -/
def SignRefused (point : RefillPoint) : Prop :=
  ∃ amountMicros, point = .returned (.error (.invalidAmount amountMicros))

structure Grantable (facts : Facts) (requestedAmountMicros : Int64) (decision : Decision) :
    Prop where
  positive : 0 < decision.approvedAmountMicros
  withinRequest : decision.approvedAmountMicros ≤ requestedAmountMicros
  withinMaximum : decision.approvedAmountMicros ≤ decision.maximumAmountMicros
  signAccepted : validateAmountSign .selfService decision.approvedAmountMicros = .ok ()
  granted : ∀ engine db request input createdId,
    ¬ SignRefused (refillStep engine db request input (.grant createdId facts decision)).2

def CapsToNothing (rule : Rule) : Prop :=
  rule.effect = .autoApproveCapped ∧ ∃ cap ∈ rule.capMicros, cap ≤ 0

theorem sign_accepted {amountMicros : Int64} (positive : 0 < amountMicros) :
    validateAmountSign .selfService amountMicros = .ok () := by
  simp only [validateAmountSign, decide_eq_true positive, if_true]

theorem grant_fails_in_storage {db : BudgetDb} {request : GrantRequest} {stamp : Stamp}
    {fault : Option Fault} {error : BudgetError}
    (signed : validateAmountSign request.source request.amountMicros = .ok ())
    (failed : (attempt fault db (grant db request stamp)).2 = .error error) :
    ∃ failure, error = .storageFailed failure := by
  cases fault with
  | some fault => exact ⟨fault.failure, (Except.error.inj failed).symm⟩
  | none =>
      simp only [attempt, grant, signed] at failed
      cases transacted : grantTransaction db request stamp with
      | error failure =>
          rw [transacted] at failed
          exact ⟨failure, (Except.error.inj failed).symm⟩
      | ok result =>
          rw [transacted] at failed
          cases failed

theorem not_sign_refused {decision : Decision} (positive : 0 < decision.approvedAmountMicros)
    (engine : PolicyEngine) (db : BudgetDb) (request : RefillRequest) (input : StepInput)
    (createdId : String) (facts : Facts) :
    ¬ SignRefused (refillStep engine db request input (.grant createdId facts decision)).2 := by
  rintro ⟨amountMicros, refused⟩
  rw [refillStep] at refused
  cases granted : attempt input.fault db (grant db (refillGrant request decision) input.stamp) with
  | mk next answer =>
      cases answer with
      | error error =>
          obtain ⟨failure, rfl⟩ := grant_fails_in_storage
            (sign_accepted positive) (by rw [granted])
          simp only [granted, RefillPoint.returned.injEq, Except.error.injEq, reduceCtorEq]
            at refused
      | ok row => simp only [granted, reduceCtorEq] at refused

variable {requestedAmountMicros : Int64}

theorem grantable_of_amounts {facts : Facts} {decision : Decision}
    (positive : 0 < decision.approvedAmountMicros)
    (withinRequest : decision.approvedAmountMicros ≤ requestedAmountMicros)
    (withinMaximum : decision.approvedAmountMicros ≤ decision.maximumAmountMicros) :
    Grantable facts requestedAmountMicros decision where
  positive := positive
  withinRequest := withinRequest
  withinMaximum := withinMaximum
  signAccepted := sign_accepted positive
  granted := fun engine db request input createdId =>
    not_sign_refused positive engine db request input createdId facts

theorem min_cap_bounds (requestedAmountMicros cap : Int64) :
    (0 < requestedAmountMicros → 0 < cap → 0 < min requestedAmountMicros cap) ∧
      min requestedAmountMicros cap ≤ requestedAmountMicros ∧
      min requestedAmountMicros cap ≤ cap := by
  by_cases below : requestedAmountMicros ≤ cap
  · have whole : min requestedAmountMicros cap = requestedAmountMicros := if_pos below
    rw [whole]
    exact ⟨fun positive _ => positive, Int64.le_refl _, below⟩
  · have cut : min requestedAmountMicros cap = cap := if_neg below
    rw [cut]
    exact ⟨fun _ capPositive => capPositive, Int64.le_of_lt (Int64.not_le.mp below),
      Int64.le_refl _⟩

theorem approval_amounts (positive : 0 < requestedAmountMicros) {effect : Effect}
    (approves : Approves effect) (capMicros : Option Int64) (reasonCode : String)
    (matchedRuleIds : List String) (policyRevision : String)
    (caps : effect = .autoApproveCapped → ∀ cap ∈ capMicros, 0 < cap) (facts : Facts) :
    Grantable facts requestedAmountMicros
      (decisionForEffect requestedAmountMicros effect capMicros reasonCode matchedRuleIds
        policyRevision) := by
  obtain rfl | rfl := approves
  · exact grantable_of_amounts positive (Int64.le_refl _) (Int64.le_refl _)
  · have capPositive : 0 < capMicros.getD requestedAmountMicros := by
      cases capMicros with
      | none => exact positive
      | some cap => exact caps rfl cap rfl
    obtain ⟨keepsSign, withinRequest, withinCap⟩ :=
      min_cap_bounds requestedAmountMicros (capMicros.getD requestedAmountMicros)
    exact grantable_of_amounts (keepsSign positive capPositive) withinRequest withinCap

theorem capped_to_nothing {ruleSet : RuleSet} {rule : Rule} (caps : CapsToNothing rule) :
    Approves (ruleDecision requestedAmountMicros ruleSet rule).effect ∧
      ¬ 0 < (ruleDecision requestedAmountMicros ruleSet rule).approvedAmountMicros := by
  obtain ⟨capped, cap, given, nothing⟩ := caps
  refine ⟨.inr (by simp only [ruleDecision, decisionForEffect, capped]), ?_⟩
  simp only [ruleDecision, decisionForEffect, capped, Option.mem_def.mp given, Option.getD_some]
  intro positive
  have withinCap := (min_cap_bounds requestedAmountMicros cap).2.2
  exact Int64.not_le.mpr positive (Int64.le_trans withinCap nothing)

end Amounts

/-- Approvals can be granted but where a rule decides whose cap is not positive. -/
theorem approvals_grantable_iff {parse : String → Except String RuleSet} {ruleDataJson : String}
    {ruleSet : RuleSet} (accepted : validateRuleData parse ruleDataJson = .ok ruleSet)
    (facts : Facts) {requestedAmountMicros : Int64}
    (offered : requestedAmountMicros ∈ ruleSet.allowedAmountsMicros) (evaluationBudget : Nat) :
    (∀ decision,
        (ruleDataEngine ruleSet evaluationBudget).evaluate facts requestedAmountMicros =
          .ok decision →
        Approves decision.effect → Grantable facts requestedAmountMicros decision) ↔
      ¬ ∃ rule, CapsToNothing rule ∧
        Decides facts requestedAmountMicros evaluationBudget ruleSet.rules rule := by
  have positive : 0 < requestedAmountMicros :=
    validate_amounts_positive (validate_amounts_accepted (valid_of_accepted accepted)) _ offered
  constructor
  · rintro grantable ⟨rule, caps, decides⟩
    obtain ⟨approves, notPositive⟩ := capped_to_nothing caps
    exact notPositive (grantable _ (evaluate_of_decides decides) approves).positive
  · intro never decision evaluated approves
    obtain rfl | ⟨rule, decides, rfl⟩ := evaluate_approves evaluated approves
    · exact approval_amounts positive approves none _ _ _
        (fun _ cap absent => absurd absent (Option.not_mem_none cap)) facts
    · apply approval_amounts positive approves
      intro capped cap given
      by_contra nothing
      exact never ⟨rule, ⟨capped, cap, given, Int64.not_lt.mp nothing⟩, decides⟩

def cappedRuleSet (cap : Int64) : RuleSet :=
  { defaultRuleSet with
    rules :=
      [{ id := "capped"
         condition := .threshold .selfServiceGrantCount .lt 2
         effect := .autoApproveCapped
         reasonCode := "capped"
         capMicros := some cap }] }

def cappedRun : List Event :=
  [.arrive 0 (.refill (IdempotencyKeys.keyedRefill "alice")), .advance 0 (plainStep "" 1),
    .advance 0 (plainStep "" 2), .advance 0 (plainStep "r1" 3), .advance 0 (plainStep "" 4),
    .advance 0 (plainStep "" 5), .advance 0 (plainStep "" 6), .advance 0 (plainStep "" 7),
    .advance 0 (plainStep "" 8), .advance 0 (plainStep "g1" 9)]

/-- A cap of zero passes validation, and the refill it decides ends in the
refusal of its grant with the request still in status `created`. -/
theorem zero_cap_left_created :
    (¬ ∀ (parse : String → Except String RuleSet) (ruleDataJson : String) (ruleSet : RuleSet)
        (facts : Facts) (requestedAmountMicros : Int64) (evaluationBudget : Nat)
        (decision : Decision),
        validateRuleData parse ruleDataJson = .ok ruleSet →
        requestedAmountMicros ∈ ruleSet.allowedAmountsMicros →
        (ruleDataEngine ruleSet evaluationBudget).evaluate facts requestedAmountMicros =
          .ok decision →
        Approves decision.effect → Grantable facts requestedAmountMicros decision) ∧
      ∃ last,
        runFrom (step fun _ => 0)
            (World.initial ["alice"] [] (ruleDataEngine (cappedRuleSet 0) 10000)) cappedRun =
          some last ∧
        last.calls 0 = some (.refill (IdempotencyKeys.keyedRefill "alice")
          (.returned (.error (.invalidAmount 0)))) ∧
        last.db.requests.map (fun row => row.status) = [.created] := by
  constructor
  · intro claimed
    have grantable := claimed (fun _ => .ok (cappedRuleSet 0)) "" (cappedRuleSet 0)
      ⟨0, 0, .known 0, .known 0⟩ 6000000 10000 _ rfl (by decide) rfl (.inr rfl)
    exact absurd grantable.positive (by decide)
  · have left : reaches (step fun _ => 0)
        (World.initial ["alice"] [] (ruleDataEngine (cappedRuleSet 0) 10000)) cappedRun
        (fun last => decide (last.calls 0 = some (.refill (IdempotencyKeys.keyedRefill "alice")
            (.returned (.error (.invalidAmount 0)))) ∧
          last.db.requests.map (fun row => row.status) = [.created])) = true := by
      decide +kernel
    obtain ⟨last, ran, ends⟩ := exists_of_reaches left
    exact ⟨last, ran, of_decide_eq_true ends⟩

/-- A positive cap is granted. -/
theorem positive_cap_grantable :
    ∃ decision,
      (ruleDataEngine (cappedRuleSet 2000000) 10000).evaluate ⟨0, 0, .known 0, .known 0⟩
          6000000 = .ok decision ∧
        Approves decision.effect ∧
        Grantable ⟨0, 0, .known 0, .known 0⟩ 6000000 decision := by
  have accepted : validateRuleData (fun _ => .ok (cappedRuleSet 2000000)) "" =
      .ok (cappedRuleSet 2000000) := rfl
  have uncapped : ¬ ∃ rule, CapsToNothing rule ∧
      Decides ⟨0, 0, .known 0, .known 0⟩ 6000000 10000 (cappedRuleSet 2000000).rules rule := by
    rintro ⟨rule, ⟨-, cap, given, nothing⟩, earlier, later, split, -⟩
    have member : rule ∈ (cappedRuleSet 2000000).rules := by
      rw [split]
      exact List.mem_append_right _ List.mem_cons_self
    obtain rfl := List.mem_singleton.mp member
    obtain rfl := Option.mem_some.mp given
    exact absurd nothing (by decide)
  have grantable := (approvals_grantable_iff accepted ⟨0, 0, .known 0, .known 0⟩ (by decide)
    10000).mpr uncapped
  exact ⟨_, rfl, .inr rfl, grantable _ rfl (.inr rfl)⟩

end LightbridgeAuthz.Budget.ApprovedAmounts
