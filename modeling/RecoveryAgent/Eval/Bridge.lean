import RecoveryAgent.Eval.Types
import RecoveryAgent.Policy.Engine

/-!
# The rules as a policy of the simulator

The eval bridge of `policy/engine.py`: a decision becomes a plan, and the shipped rules
become the policy `ours`. Building a planned action or an action may raise, and then
there is no plan.
-/

namespace RecoveryAgent.Eval

open Python Policy Diagnose

/-- `PlannedAction(...)`, which refuses a day beyond the horizon. -/
def PlannedAction.validated (verb : SimVerb) (dayOffset : ℕ) (note : String) :
    Option PlannedAction :=
  if h : dayOffset ≤ 60 then some ⟨verb, dayOffset, note, h⟩ else none

/-- What the simulator plays for a verb; an escalation is not planned. -/
def simVerbOf : ActionVerb → Option SimVerb
  | .escalateHuman => none
  | .scheduleRetry => some .scheduleRetry
  | .sendPaymentLink => some .sendPaymentLink
  | .requestMandateUpdate => some .sendPaymentLink

def decisionToPlannedActions : List Action → Option (List PlannedAction)
  | [] => some []
  | a :: actions =>
      match simVerbOf a.verb with
      | none => decisionToPlannedActions actions
      | some verb => do
          let planned ← PlannedAction.validated verb (a.dayOffset.getD 0)
            (if a.note = "" then a.reasonCode else a.note)
          let rest ← decisionToPlannedActions actions
          some (planned :: rest)

/-- `policy_ours_from_taxonomy`. A negative amount is refused by the first action that
carries it, and no action depends on it otherwise. -/
def policyOursFromTaxonomy (case : SimCase) : Option (List PlannedAction) :=
  let v := case.visible
  let bundle := PolicyEngine.shipped.decide v.failureReason.value "" v.amountPaise.toNat 0 0
    case.failureDom v.observedCreditDay
  if v.amountPaise < 0 ∧ bundle.actions.any (·.amountPaise.isSome) then none
  else decisionToPlannedActions bundle.actions

/-- `POLICIES["ours"]`, on the cases for which it has a plan. -/
def policyOurs : PlanFn := fun case => (policyOursFromTaxonomy case).getD []

/-!
## What is planned
-/

/-- Actions within the horizon can be planned. -/
theorem decisionToPlannedActions_isSome {actions : List Action}
    (h : ∀ a ∈ actions, a.dayOffset.getD 0 ≤ 60) :
    (decisionToPlannedActions actions).isSome := by
  induction actions with
  | nil => rfl
  | cons a actions ih =>
      obtain ⟨rest, hrest⟩ := Option.isSome_iff_exists.1
        (ih fun b hb => h b (List.mem_cons_of_mem a hb))
      unfold decisionToPlannedActions
      cases simVerbOf a.verb with
      | none => exact Option.isSome_iff_exists.2 ⟨rest, hrest⟩
      | some verb => simp [PlannedAction.validated, h a List.mem_cons_self, hrest]

theorem mem_decisionToPlannedActions {actions : List Action} {plan : List PlannedAction}
    (h : decisionToPlannedActions actions = some plan) {pa : PlannedAction} (hpa : pa ∈ plan) :
    ∃ a ∈ actions, simVerbOf a.verb = some pa.verb := by
  induction actions generalizing plan with
  | nil =>
      cases h
      cases hpa
  | cons a actions ih =>
      unfold decisionToPlannedActions at h
      cases hverb : simVerbOf a.verb with
      | none =>
          rw [hverb] at h
          obtain ⟨b, hb, hsame⟩ := ih h hpa
          exact ⟨b, List.mem_cons_of_mem a hb, hsame⟩
      | some verb =>
          rw [hverb] at h
          obtain ⟨planned, hplanned, h⟩ := Option.bind_eq_some_iff.1 h
          obtain ⟨rest, hrest, h⟩ := Option.bind_eq_some_iff.1 h
          cases h
          rcases List.mem_cons.1 hpa with rfl | hpa
          · unfold PlannedAction.validated at hplanned
            split at hplanned
            · cases hplanned
              exact ⟨a, List.mem_cons_self, hverb⟩
            · cases hplanned
          · obtain ⟨b, hb, hsame⟩ := ih hrest hpa
            exact ⟨b, List.mem_cons_of_mem a hb, hsame⟩

/-- A planned action of `ours` stands for an action of the rules. -/
theorem mem_policyOurs {case : SimCase} {pa : PlannedAction} (h : pa ∈ policyOurs case) :
    ∃ a ∈ (PolicyEngine.shipped.decide case.visible.failureReason.value ""
      case.visible.amountPaise.toNat 0 0 case.failureDom case.visible.observedCreditDay).actions,
      simVerbOf a.verb = some pa.verb := by
  unfold policyOurs at h
  cases hplan : policyOursFromTaxonomy case with
  | none =>
      rw [hplan] at h
      cases h
  | some plan =>
      rw [hplan] at h
      unfold policyOursFromTaxonomy at hplan
      simp only at hplan
      split at hplan
      · cases hplan
      · exact mem_decisionToPlannedActions hplan h

/-- The rules never nag. -/
theorem policyOurs_no_nag {case : SimCase} {pa : PlannedAction} (h : pa ∈ policyOurs case) :
    pa.verb ≠ .genericNag := by
  obtain ⟨a, -, hverb⟩ := mem_policyOurs h
  intro hnag
  rw [hnag] at hverb
  cases ha : a.verb <;> simp [ha, simVerbOf] at hverb

/-- The rules plan nothing for fraud. -/
theorem policyOurs_fraud {case : SimCase} (h : case.visible.failureReason = .riskFraud) :
    policyOurs case = [] := by
  rw [List.eq_nil_iff_forall_not_mem]
  intro pa hpa
  obtain ⟨a, ha, hverb⟩ := mem_policyOurs hpa
  obtain ⟨score, hactions⟩ := PolicyEngine.decide_actions PolicyEngine.shipped
    case.visible.failureReason.value "" case.visible.amountPaise.toNat 0 0 case.failureDom
    case.visible.observedCreditDay
  have hescalate : (PolicyEngine.shipped.classConfig (PolicyEngine.shipped.classifier.classify
      FailureReason.riskFraud.value "").failureClass).defaultVerb.getD .escalateHuman =
        .escalateHuman := by
    decide
  rw [hactions, h] at ha
  obtain ⟨action, hone, hescalated⟩ := PolicyEngine.actionsFromClassCfg_of_escalate
    PolicyEngine.shipped hescalate case.visible.amountPaise.toNat score case.failureDom
    case.visible.observedCreditDay .rulesFallback
  rw [hone, List.mem_singleton] at ha
  rw [ha, hescalated] at hverb
  cases hverb

/-- The rules have a plan for every amount that is not negative. -/
theorem policyOurs_isSome {case : SimCase} (h : 0 ≤ case.visible.amountPaise) :
    (policyOursFromTaxonomy case).isSome := by
  unfold policyOursFromTaxonomy
  simp only
  rw [if_neg fun hnegative => absurd hnegative.1 (not_lt.2 h)]
  apply decisionToPlannedActions_isSome
  intro a ha
  obtain ⟨score, hactions⟩ := PolicyEngine.decide_actions PolicyEngine.shipped
    case.visible.failureReason.value "" case.visible.amountPaise.toNat 0 0 case.failureDom
    case.visible.observedCreditDay
  rw [hactions] at ha
  exact (PolicyEngine.day_of_mem_actionsFromClassCfg ha).trans (by decide)

end RecoveryAgent.Eval
