import RecoveryAgent.Eval.Service

/-!
# Two tables of prices

A batch is charged alike under two cost tables that have the same prices for whatever its
plans can be charged. Where the prices differ, what `ours` is charged more than `b2` moves
with them, up to what the four digits of a case and the two of a total leave out.
-/

namespace RecoveryAgent.Eval

open Python Config Library

/-- The two tables have the same prices for whatever `compute_case_costs` can charge a case
whose plan is this one. -/
structure PricedAlike (costs costs' : Costs) (case : SimCase) (plan : List PlannedAction) :
    Prop where
  mdr : costs.mdrPct = costs'.mdrPct
  retry : ∀ action ∈ plan, isRetryVerb action.verb = true →
    costs.pspFeeOnFailedAttempt = costs'.pspFeeOnFailedAttempt
  /-- A retry is above both caps, with the same fines, or above none. -/
  excess : ∀ k : ℕ, 0 < k → k ≤ plan.countP (fun a => isRetryVerb a.verb) →
    (schemeCap costs < k ↔ schemeCap costs' < k) ∧
      (schemeCap costs < k →
        costs.networkExcessRetryPenalty = costs'.networkExcessRetryPenalty ∧
          costs.issuerAuthDecayPctPerExcessAttempt = costs'.issuerAuthDecayPctPerExcessAttempt)
  contact : ∀ action ∈ plan, isContactVerb action.verb = true →
    contactUnitCost costs action.verb = contactUnitCost costs' action.verb
  churn : ∀ action ∈ plan, inappropriate case action = true →
    costs.churnProbPerInappropriateContact * costs.ltv =
      costs'.churnProbPerInappropriateContact * costs'.ltv
  dispute : recoveryClassFor case.visible.failureReason = .prohibited →
    ∀ action ∈ plan, inappropriate case action = true →
      costs.supportTicket + costs.churnProbPerInappropriateContact * costs.chargebackFee =
        costs'.supportTicket + costs'.churnProbPerInappropriateContact * costs'.chargebackFee

/-- So they do for the plans of both policies, for every case of a batch. -/
def BatchPricedAlike (costs costs' : Costs) (cases : List SimCase) : Prop :=
  ∀ case ∈ cases, PricedAlike costs costs' case (policyOurs case) ∧
    PricedAlike costs costs' case (baselineB2 case)

/-!
## Equal prices
-/

section

variable {costs costs' : Costs} {case : SimCase} {plan : List PlannedAction}
  (h : PricedAlike costs costs' case plan)

include h

theorem charge_alike {action : PlannedAction} (haction : action ∈ plan) {sums : Charges}
    (hindex : isRetryVerb action.verb = true →
      sums.retryIndex + 1 ≤ plan.countP fun a => isRetryVerb a.verb) :
    charge costs case sums action = charge costs' case sums action := by
  unfold charge
  by_cases hretry : isRetryVerb action.verb = true
  · obtain ⟨hcap, hfines⟩ := h.excess (sums.retryIndex + 1) (Nat.succ_pos _) (hindex hretry)
    rw [if_pos hretry, if_pos hretry, h.retry action haction hretry]
    by_cases hover : schemeCap costs < (sums.retryIndex + 1 : ℕ)
    · obtain ⟨hpenalty, hdecay⟩ := hfines hover
      simp only [if_pos hover, if_pos (hcap.1 hover), hpenalty, hdecay]
    · simp only [if_neg hover, if_neg (mt hcap.2 hover)]
  · rw [if_neg hretry, if_neg hretry]
    by_cases hcontact : isContactVerb action.verb = true
    · rw [if_pos hcontact, if_pos hcontact, h.contact action haction hcontact]
      by_cases hbad : isInappropriateContact case action = true
      · have hinappropriate : inappropriate case action = true := by
          rw [inappropriate, hcontact, hbad]
          rfl
        have hchurn := h.churn action haction hinappropriate
        by_cases hclass : recoveryClassFor case.visible.failureReason = .prohibited
        · have hdispute := h.dispute hclass action haction hinappropriate
          simp only [if_pos hbad, if_pos hclass, hchurn, add_assoc, hdispute]
        · simp only [if_pos hbad, if_neg hclass, hchurn]
      · simp only [if_neg hbad]
    · rw [if_neg hcontact, if_neg hcontact]

/-- The loop prices the same sums for actions of the plan, with no more retries than the plan
has. -/
theorem foldl_charge_alike {executed : List PlannedAction} (hplan : ∀ a ∈ executed, a ∈ plan)
    {sums : Charges}
    (hcount : sums.retryIndex + executed.countP (fun a => isRetryVerb a.verb) ≤
      plan.countP fun a => isRetryVerb a.verb) :
    executed.foldl (charge costs case) sums = executed.foldl (charge costs' case) sums := by
  induction executed generalizing sums with
  | nil => rfl
  | cons action rest ih =>
      have hnext := (charged_singleton costs' case sums action).retryIndex
      rw [List.countP_singleton] at hnext
      rw [List.countP_cons] at hcount
      have hfirst : charge costs case sums action = charge costs' case sums action := by
        apply charge_alike h (hplan action List.mem_cons_self)
        intro hretry
        rw [if_pos hretry] at hcount
        omega
      rw [List.foldl_cons, List.foldl_cons, hfirst]
      apply ih fun a ha => hplan a (List.mem_cons_of_mem action ha)
      rw [hnext]
      omega

end

theorem caseCost_alike {costs costs' : Costs} {planFn : PlanFn} {p : SimCase × CaseOutcome}
    (h : PricedAlike costs costs' p.1 (planFn p.1)) (label : String) :
    caseCost costs planFn label p = caseCost costs' planFn label p := by
  have hsums : charges costs p.1 (executedActions p.1 p.2 planFn) =
      charges costs' p.1 (executedActions p.1 p.2 planFn) := by
    have hperm : (chronological (planFn p.1)).Perm (planFn p.1) := List.perm_insertionSort _ _
    refine foldl_charge_alike h (fun a ha => mem_executedActions ha) ?_
    rw [← hperm.countP_eq, Nat.zero_add]
    exact (takeExecuted_sublist _ _ _).countP_le
  unfold caseCost computeCaseCosts
  simp only [hsums, h.mdr]

/-- Equal prices charge `ours` equally more than `b2`. -/
theorem extraCost_alike {G : Type*} (rng : Rng G) (seed : ℤ) {cases : List SimCase}
    {costs costs' : Costs} (h : BatchPricedAlike costs costs' cases) :
    extraCost rng seed cases costs = extraCost rng seed cases costs' := by
  have hcosts : ∀ (planFn : PlanFn) (label : String),
      (∀ case ∈ cases, PricedAlike costs costs' case (planFn case)) →
      (played rng planFn seed cases).map (caseCost costs planFn label) =
        (played rng planFn seed cases).map (caseCost costs' planFn label) := by
    intro planFn label halike
    apply List.map_congr_left
    intro p hp
    obtain ⟨case, hcase, rfl⟩ := List.mem_map.1 hp
    exact caseCost_alike (halike case hcase) label
  rw [extraCost_eq, extraCost_eq, hcosts policyOurs "ours" fun case hcase => (h case hcase).1,
    hcosts baselineB2 "b2" fun case hcase => (h case hcase).2]

/-- No contact of the simulator is an e-mail. -/
theorem pricedAlike_email (costs : Costs) (email : ℚ) (case : SimCase)
    (plan : List PlannedAction) : PricedAlike { costs with email } costs case plan where
  mdr := rfl
  retry _ _ _ := rfl
  excess _ _ _ := ⟨Iff.rfl, fun _ => ⟨rfl, rfl⟩⟩
  contact action _ hcontact := by
    rw [contactUnitCost_eq _ hcontact, contactUnitCost_eq _ hcontact]
  churn _ _ _ := rfl
  dispute _ _ _ _ := rfl

/-!
## Other prices
-/

/-- What the prices charge `ours` for a batch more than `b2`, before anything is rounded. -/
def extraCharge {G : Type*} (rng : Rng G) (seed : ℤ) (cases : List SimCase) (costs : Costs) :
    ℚ :=
  ((played rng policyOurs seed cases).map (caseCharge costs policyOurs)).sum -
    ((played rng baselineB2 seed cases).map (caseCharge costs baselineB2)).sum

section

variable {G : Type*} (rng : Rng G) (seed : ℤ) (cases : List SimCase) (costs : Costs)

/-- The total of a policy is off by the digits that are left out. -/
theorem total_near (planFn : PlanFn) (label : String) :
    |round (((played rng planFn seed cases).map (caseCost costs planFn label)).sum) 2 -
        ((played rng planFn seed cases).map (caseCharge costs planFn)).sum| ≤
      1 / 200 + cases.length * (1 / 5000) := by
  have hcases := abs_le.1 (Rounding.sum_map_near (played rng planFn seed cases) fun p _ =>
    caseCost_near costs planFn label p)
  rw [played, List.length_map, ← played] at hcases
  have htotal := abs_le.1
    (round_near (((played rng planFn seed cases).map (caseCost costs planFn label)).sum) 2)
  apply abs_le.2
  constructor
  · linarith [hcases.1, htotal.1]
  · linarith [hcases.2, htotal.2]

theorem extraCost_near {extra : ℚ} (h : extraCost rng seed cases costs = some extra) :
    |extra - extraCharge rng seed cases costs| ≤ 1 / 100 + cases.length * (1 / 2500) := by
  rw [extraCost_eq] at h
  cases h
  have hours := abs_le.1 (total_near rng seed cases costs policyOurs "ours")
  have hb2 := abs_le.1 (total_near rng seed cases costs baselineB2 "b2")
  unfold extraCharge
  apply abs_le.2
  constructor
  · linarith [hours.1, hb2.2]
  · linarith [hours.2, hb2.1]

end

end RecoveryAgent.Eval
