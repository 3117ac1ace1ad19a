import Mathlib.Algebra.Order.BigOperators.Group.List
import RecoveryAgent.Eval.Comparison

/-!
# What a cost knob does to the lead

The knobs of `eval/break_even.py`. The rules never nag and never contact a payer whom
they should not contact, and the ladder sends no link: so a dearer message or a likelier
churn can only cost the ladder money, and a dearer link can only cost the rules.
-/

namespace RecoveryAgent.Eval

open Python Config

inductive BreakEvenParam where
  /-- `attempt.sms_dlt` -/
  | smsDlt
  /-- `attempt.whatsapp_utility` -/
  | whatsappUtility
  /-- `customer.churn_prob_per_inappropriate_contact` -/
  | churnProbPerInappropriateContact
  deriving DecidableEq, Repr

namespace BreakEvenParam

/-- The costs under `set_cost_overrides` of the one parameter. -/
def override (costs : Costs) (value : ℚ) : BreakEvenParam → Costs
  | smsDlt => { costs with smsDlt := value }
  | whatsappUtility => { costs with whatsappUtility := value }
  | churnProbPerInappropriateContact => { costs with churnProbPerInappropriateContact := value }

/-- The direction in which the lead of `ours` moves. -/
def Moves (low high : ℚ) : BreakEvenParam → Prop
  | smsDlt => low ≤ high
  | whatsappUtility => high ≤ low
  | churnProbPerInappropriateContact => low ≤ high

/-- The actions whose price depends on the parameter. -/
def prices (case : SimCase) (action : PlannedAction) : BreakEvenParam → Bool
  | smsDlt => action.verb = .genericNag
  | whatsappUtility => action.verb = .sendPaymentLink
  | churnProbPerInappropriateContact => inappropriate case action

/-- What each of them costs more when the parameter is raised. -/
def increment (costs : Costs) (case : SimCase) (raise : ℚ) : BreakEvenParam → Charges
  | smsDlt => { attemptCost := raise }
  | whatsappUtility => { attemptCost := raise }
  | churnProbPerInappropriateContact =>
      { riskCost := if recoveryClassFor case.visible.failureReason = .prohibited then
          raise * costs.chargebackFee else 0
        customerCost := raise * costs.ltv }

end BreakEvenParam

/-!
## One case
-/

/-- The sums under two values of the parameter differ by the increments of the actions that
it prices. -/
theorem charges_override (costs : Costs) (param : BreakEvenParam) (lo hi : ℚ) (case : SimCase)
    (executed : List PlannedAction) :
    (charges (param.override costs hi) case executed).attemptCost =
        (charges (param.override costs lo) case executed).attemptCost +
          (param.increment costs case (hi - lo)).attemptCost *
            executed.countP (param.prices case) ∧
      (charges (param.override costs hi) case executed).riskCost =
        (charges (param.override costs lo) case executed).riskCost +
          (param.increment costs case (hi - lo)).riskCost * executed.countP (param.prices case) ∧
      (charges (param.override costs hi) case executed).customerCost =
        (charges (param.override costs lo) case executed).customerCost +
          (param.increment costs case (hi - lo)).customerCost *
            executed.countP (param.prices case) := by
  have hhigh := charged_charges (param.override costs hi) case executed
  have hlow := charged_charges (param.override costs lo) case executed
  rw [hhigh.attemptCost, hlow.attemptCost, hhigh.riskCost, hlow.riskCost, hhigh.customerCost,
    hlow.customerCost, hhigh.retryIndex, hlow.retryIndex]
  refine ⟨?_, ?_, ?_⟩
  · cases param <;>
      simp only [BreakEvenParam.override, BreakEvenParam.prices, BreakEvenParam.increment,
        excessRetries, schemeCap] <;> ring
  · cases param with
    | smsDlt =>
        simp only [BreakEvenParam.override, BreakEvenParam.increment, excessRetries, schemeCap]
        ring
    | whatsappUtility =>
        simp only [BreakEvenParam.override, BreakEvenParam.increment, excessRetries, schemeCap]
        ring
    | churnProbPerInappropriateContact =>
        simp only [BreakEvenParam.override, BreakEvenParam.prices, BreakEvenParam.increment,
          excessRetries, schemeCap]
        split
        · ring
        · ring
  · cases param <;>
      simp only [BreakEvenParam.override, BreakEvenParam.prices, BreakEvenParam.increment] <;> ring

/-- No sum is higher. -/
structure Charges.Below (sums sums' : Charges) : Prop where
  attemptCost : sums.attemptCost ≤ sums'.attemptCost
  riskCost : sums.riskCost ≤ sums'.riskCost
  customerCost : sums.customerCost ≤ sums'.customerCost

theorem increment_nonneg {costs : Costs} (hcosts : costs.Nonneg) (param : BreakEvenParam)
    (case : SimCase) {raise : ℚ} (h : 0 ≤ raise) :
    Charges.Below {} (param.increment costs case raise) := by
  cases param with
  | smsDlt => exact ⟨h, le_rfl, le_rfl⟩
  | whatsappUtility => exact ⟨h, le_rfl, le_rfl⟩
  | churnProbPerInappropriateContact =>
      refine ⟨le_rfl, ?_, mul_nonneg h hcosts.ltv⟩
      unfold BreakEvenParam.increment
      simp only
      split
      · exact mul_nonneg h hcosts.chargebackFee
      · exact le_rfl

/-- Rounding keeps the order of the costs. -/
theorem caseCost_mono {costs costs' : Costs} (hmdr : costs.mdrPct = costs'.mdrPct)
    (planFn : PlanFn) (label : String) {p : SimCase × CaseOutcome}
    (h : (charges costs p.1 (executedActions p.1 p.2 planFn)).Below
      (charges costs' p.1 (executedActions p.1 p.2 planFn))) :
    caseCost costs planFn label p ≤ caseCost costs' planFn label p := by
  have hmdrCost : (computeCaseCosts costs p.1 p.2 planFn label).mdrCostInr =
      (computeCaseCosts costs' p.1 p.2 planFn label).mdrCostInr := by
    unfold computeCaseCosts
    rw [hmdr]
  exact add_le_add (add_le_add (add_le_add (round_mono 4 h.attemptCost) hmdrCost.le)
    (round_mono 4 h.riskCost)) (round_mono 4 h.customerCost)

/-- One round takes its action or leaves it. -/
theorem takeExecuted_cons (retriesLeft contactsLeft : ℕ) (action : PlannedAction)
    (rest : List PlannedAction) :
    ∃ (taken : List PlannedAction) (retries contacts : ℕ), taken.Sublist [action] ∧
      takeExecuted retriesLeft contactsLeft (action :: rest) =
        if retries = 0 ∧ contacts = 0 then taken
        else taken ++ takeExecuted retries contacts rest := by
  by_cases hretry : (isRetryVerb action.verb && decide (0 < retriesLeft)) = true
  · exact ⟨[action], retriesLeft - 1, contactsLeft, List.Sublist.refl _,
      by simp only [takeExecuted, if_pos hretry]⟩
  · by_cases hcontact : (isContactVerb action.verb && decide (0 < contactsLeft)) = true
    · exact ⟨[action], retriesLeft, contactsLeft - 1, List.Sublist.refl _,
        by simp only [takeExecuted, if_neg hretry, if_pos hcontact]⟩
    · exact ⟨[], retriesLeft, contactsLeft, List.nil_sublist _,
        by simp only [takeExecuted, if_neg hretry, if_neg hcontact]⟩

/-- What was played is part of the plan, in its order. -/
theorem takeExecuted_sublist (retriesLeft contactsLeft : ℕ) (plan : List PlannedAction) :
    (takeExecuted retriesLeft contactsLeft plan).Sublist plan := by
  induction plan generalizing retriesLeft contactsLeft with
  | nil => exact List.Sublist.refl []
  | cons action rest ih =>
      obtain ⟨taken, retries, contacts, htaken, hround⟩ :=
        takeExecuted_cons retriesLeft contactsLeft action rest
      rw [hround]
      split
      · exact htaken.trans (List.singleton_sublist.2 List.mem_cons_self)
      · exact htaken.append (ih retries contacts)

theorem mem_executedActions {case : SimCase} {outcome : CaseOutcome} {planFn : PlanFn}
    {action : PlannedAction} (h : action ∈ executedActions case outcome planFn) :
    action ∈ planFn case :=
  mem_chronological.1 ((takeExecuted_sublist _ _ _).subset h)

section

variable {costs : Costs} (hcosts : costs.Nonneg) (param : BreakEvenParam) {lo hi : ℚ}
  (hle : lo ≤ hi) (planFn : PlanFn) (label : String) (p : SimCase × CaseOutcome)

theorem override_mdrPct : (param.override costs lo).mdrPct = (param.override costs hi).mdrPct := by
  cases param <;> rfl

include hcosts hle

/-- A higher value makes no case cheaper. -/
theorem caseCost_override_mono :
    caseCost (param.override costs lo) planFn label p ≤
      caseCost (param.override costs hi) planFn label p := by
  obtain ⟨hattempt, hrisk, hcustomer⟩ :=
    charges_override costs param lo hi p.1 (executedActions p.1 p.2 planFn)
  have hnonneg := increment_nonneg hcosts param p.1 (sub_nonneg.2 hle)
  have hcount : (0 : ℚ) ≤ (executedActions p.1 p.2 planFn).countP (param.prices p.1) :=
    Nat.cast_nonneg _
  apply caseCost_mono (override_mdrPct param)
  constructor
  · rw [hattempt]
    exact le_add_of_nonneg_right (mul_nonneg hnonneg.attemptCost hcount)
  · rw [hrisk]
    exact le_add_of_nonneg_right (mul_nonneg hnonneg.riskCost hcount)
  · rw [hcustomer]
    exact le_add_of_nonneg_right (mul_nonneg hnonneg.customerCost hcount)

/-- A case whose plan has nothing that the parameter prices costs the same. -/
theorem caseCost_override_eq (hplan : ∀ action ∈ planFn p.1, param.prices p.1 action = false) :
    caseCost (param.override costs lo) planFn label p =
      caseCost (param.override costs hi) planFn label p := by
  obtain ⟨hattempt, hrisk, hcustomer⟩ :=
    charges_override costs param lo hi p.1 (executedActions p.1 p.2 planFn)
  have hcount : (executedActions p.1 p.2 planFn).countP (param.prices p.1) = 0 := by
    rw [List.countP_eq_zero]
    intro action haction
    rw [hplan action (mem_executedActions haction)]
    exact Bool.false_ne_true
  rw [hcount, Nat.cast_zero, mul_zero, add_zero] at hattempt hrisk hcustomer
  apply le_antisymm (caseCost_override_mono hcosts param hle planFn label p)
  apply caseCost_mono (override_mdrPct param)
  exact ⟨hattempt.le, hrisk.le, hcustomer.le⟩

end

/-!
## The plans
-/

/-- The rules plan nothing that messages or churn are priced for. -/
theorem policyOurs_prices {param : BreakEvenParam} (hparam : param ≠ .whatsappUtility)
    (case : SimCase) : ∀ action ∈ policyOurs case, param.prices case action = false := by
  intro action haction
  have hnag := policyOurs_no_nag haction
  cases param with
  | smsDlt => exact decide_eq_false hnag
  | whatsappUtility => exact absurd rfl hparam
  | churnProbPerInappropriateContact =>
      have hallowed : recoveryClassFor case.visible.failureReason ≠ .prohibited := by
        intro hclass
        have hfraud : case.visible.failureReason = .riskFraud := by
          cases hreason : case.visible.failureReason with
          | riskFraud => rfl
          | _ => rw [hreason] at hclass; cases hclass
        rw [policyOurs_fraud hfraud] at haction
        cases haction
      simp [BreakEvenParam.prices, inappropriate, isInappropriateContact, hallowed, hnag]

/-- The ladder has no link. -/
theorem baselineB2_prices (case : SimCase) :
    ∀ action ∈ baselineB2 case, BreakEvenParam.whatsappUtility.prices case action = false := by
  intro action haction
  unfold baselineB2 at haction
  simp only [List.mem_cons, List.not_mem_nil, or_false] at haction
  rcases haction with rfl | rfl | rfl | rfl
  · rfl
  · rfl
  · rfl
  · rfl

/-!
## The batch
-/

section

variable {G : Type*} (rng : Rng G) (label : String) (planFn : PlanFn) (seed : ℤ)
  (cases : List SimCase)

/-- What a batch nets: what it recovers, less the rounded costs of its cases. -/
theorem scored_net {costs : Costs} {m : BatchMetrics}
    (h : scored costs rng label planFn seed cases = some m) :
    m.netRecoveredInr =
      ((played rng planFn seed cases).map fun p => paiseToInr p.2.recoveredPaise).sum -
        round (((played rng planFn seed cases).map (caseCost costs planFn label)).sum) 2 := by
  obtain ⟨m', hm', htallied⟩ := scored_tallied costs rng label planFn seed cases
  have hsame : m = m' := Option.some.inj (h.symm.trans hm')
  rw [hsame, ← htallied.gross, ← htallied.total planFn rfl, ← htallied.net, add_sub_cancel_right]

variable {costs : Costs} (hcosts : costs.Nonneg) (param : BreakEvenParam) {lo hi : ℚ}
  (hle : lo ≤ hi) {low high : BatchMetrics}
  (hlow : scored (param.override costs lo) rng label planFn seed cases = some low)
  (hhigh : scored (param.override costs hi) rng label planFn seed cases = some high)

include hcosts hle hlow hhigh

/-- A higher value leaves no policy more. -/
theorem scored_override_mono : high.netRecoveredInr ≤ low.netRecoveredInr := by
  rw [scored_net rng label planFn seed cases hlow, scored_net rng label planFn seed cases hhigh]
  apply sub_le_sub_left
  apply round_mono 2
  exact List.sum_le_sum fun p _ => caseCost_override_mono hcosts param hle planFn label p

/-- It leaves a policy the same that plans nothing which the parameter prices. -/
theorem scored_override_eq
    (hplan : ∀ case, ∀ action ∈ planFn case, param.prices case action = false) :
    high.netRecoveredInr = low.netRecoveredInr := by
  have hcases : caseCost (param.override costs lo) planFn label =
      caseCost (param.override costs hi) planFn label := by
    funext p
    exact caseCost_override_eq hcosts param hle planFn label p (hplan p.1)
  rw [scored_net rng label planFn seed cases hlow, scored_net rng label planFn seed cases hhigh,
    hcases]

end

section

variable {G : Type*} (rng : Rng G) (seed : ℤ) (cases : List SimCase) {costs : Costs}
  (hcosts : costs.Nonneg) (param : BreakEvenParam) {lo hi : ℚ} (hle : lo ≤ hi)
  {oursLow oursHigh b2Low b2High : BatchMetrics}

include hcosts hle

theorem netDelta_moves
    (holow : scored (param.override costs lo) rng "ours" policyOurs seed cases = some oursLow)
    (hohigh : scored (param.override costs hi) rng "ours" policyOurs seed cases = some oursHigh)
    (hblow : scored (param.override costs lo) rng "b2" baselineB2 seed cases = some b2Low)
    (hbhigh : scored (param.override costs hi) rng "b2" baselineB2 seed cases = some b2High) :
    param.Moves (oursLow.netDeltaInr b2Low) (oursHigh.netDeltaInr b2High) := by
  have hours := scored_override_mono rng "ours" policyOurs seed cases hcosts param hle holow hohigh
  have hb2 := scored_override_mono rng "b2" baselineB2 seed cases hcosts param hle hblow hbhigh
  have hrules : param ≠ .whatsappUtility → oursHigh.netRecoveredInr = oursLow.netRecoveredInr :=
    fun hparam => scored_override_eq rng "ours" policyOurs seed cases hcosts param hle holow hohigh
      (policyOurs_prices hparam)
  unfold BatchMetrics.netDeltaInr
  cases param with
  | smsDlt =>
      have hsame := hrules nofun
      exact sub_le_sub hsame.ge hb2
  | whatsappUtility =>
      have hsame := scored_override_eq rng "b2" baselineB2 seed cases hcosts .whatsappUtility hle
        hblow hbhigh baselineB2_prices
      exact sub_le_sub hours hsame.ge
  | churnProbPerInappropriateContact =>
      have hsame := hrules nofun
      exact sub_le_sub hsame.ge hb2

end

theorem BreakEvenParam.Moves.round {param : BreakEvenParam} {low high : ℚ}
    (h : param.Moves low high) : param.Moves (Python.round low 2) (Python.round high 2) := by
  cases param with
  | smsDlt => exact round_mono 2 h
  | whatsappUtility => exact round_mono 2 h
  | churnProbPerInappropriateContact => exact round_mono 2 h

/-!
## What no cost moves
-/

/-- The numbers without those that are priced. -/
def BatchMetrics.unpriced (m : BatchMetrics) : BatchMetrics :=
  { m with
    netRecoveredInr := m.grossRecoveredInr
    attemptCostInr := 0
    mdrCostInr := 0
    riskCostInr := 0
    customerCostInr := 0
    totalCostInr := 0
    costPerRupeeRecovered := -1
    schemeCapBreaches := 0 }

theorem computeBatchCosts_unpriced {costs costs' : Costs} {cases : List SimCase}
    {outcomes : List CaseOutcome} {planFn : PlanFn} {label : String}
    {totals totals' : BatchCostTotals}
    (h : computeBatchCosts costs cases outcomes planFn label = some totals)
    (h' : computeBatchCosts costs' cases outcomes planFn label = some totals') :
    totals.totalAttempts = totals'.totalAttempts ∧
      totals.forgoneRecoveryInr = totals'.forgoneRecoveryInr := by
  unfold computeBatchCosts at h h'
  split at h
  · cases h
  · next hlengths =>
      rw [if_neg hlengths] at h'
      have hcase : (fun p : SimCase × CaseOutcome =>
          (computeCaseCosts costs p.1 p.2 planFn label).forgoneRecoveryInr) =
            fun p => (computeCaseCosts costs' p.1 p.2 planFn label).forgoneRecoveryInr := by
        funext p
        rfl
      cases h
      cases h'
      constructor
      · rfl
      · simp only [List.map_map, Function.comp_def, hcase]

/-- Two cost tables leave the same numbers where nothing is priced. -/
theorem scored_unpriced {G : Type*} {costs costs' : Costs} {rng : Rng G} {label : String}
    {planFn : PlanFn} {seed : ℤ} {cases : List SimCase} {m m' : BatchMetrics}
    (h : scored costs rng label planFn seed cases = some m)
    (h' : scored costs' rng label planFn seed cases = some m') : m.unpriced = m'.unpriced := by
  unfold scored computeMetrics at h h'
  split at h
  · cases h
  · next hlengths =>
      rw [if_neg hlengths] at h'
      obtain ⟨totals, htotals, h⟩ := Option.bind_eq_some_iff.1 h
      obtain ⟨totals', htotals', h'⟩ := Option.bind_eq_some_iff.1 h'
      obtain ⟨hattempts, hforgone⟩ := computeBatchCosts_unpriced htotals htotals'
      cases h
      cases h'
      simp only [BatchMetrics.unpriced, hattempts, hforgone]

/-- The results of a comparison that no cost has a part in: the row of every case, the
scenarios, and the numbers of both policies that are not priced. -/
structure SeedPairResult.SameOutcomes (result result' : SeedPairResult) : Prop where
  cases : result.cases = result'.cases
  scenarios : result.scenarios = result'.scenarios
  deltaRecoveredInr : result.deltaRecoveredInr = result'.deltaRecoveredInr
  ours : result.ours.unpriced = result'.ours.unpriced
  b2 : result.b2.unpriced = result'.b2.unpriced

theorem grossDeltaInr_unpriced (m m' : BatchMetrics) :
    m.unpriced.grossDeltaInr m'.unpriced = m.grossDeltaInr m' := rfl

theorem compareSeed_sameOutcomes {G : Type*} (costs costs' : Costs) (rng : Rng G) (seed : ℤ)
    {n : ℤ} (hn : 0 < n) :
    ∃ result result', compareSeed costs rng seed n = some result ∧
      compareSeed costs' rng seed n = some result' ∧ result.SameOutcomes result' := by
  obtain ⟨cases, rows, ours, b2, hcases, hrows, hours, hb2, hresult, -⟩ :=
    compareSeed_reconciles costs rng seed hn
  obtain ⟨cases', rows', ours', b2', hcases', hrows', hours', hb2', hresult', -⟩ :=
    compareSeed_reconciles costs' rng seed hn
  have hsame : cases' = cases := Option.some.inj (hcases'.symm.trans hcases)
  rw [hsame] at hrows' hours' hb2'
  have hsameRows : rows = rows' := Option.some.inj (hrows.symm.trans hrows')
  have hunpricedOurs := scored_unpriced hours hours'
  have hunpricedB2 := scored_unpriced hb2 hb2'
  have hgross : ours.grossDeltaInr b2 = ours'.grossDeltaInr b2' := by
    rw [← grossDeltaInr_unpriced, hunpricedOurs, hunpricedB2, grossDeltaInr_unpriced]
  refine ⟨_, _, hresult, hresult', ?_⟩
  constructor
  · exact hsameRows
  · exact congrArg scenarioBreakdown hsameRows
  · exact congrArg (Python.round · 2) hgross
  · exact hunpricedOurs
  · exact hunpricedB2

/-!
## The headline
-/

/-- The lead of `ours` on a list of cases that both policies have played. -/
def deltaNet {G : Type*} (costs : Costs) (rng : Rng G) (seed : ℤ) (cases : List SimCase) :
    Option ℚ := do
  let ours ← scored costs rng "ours" policyOurs seed cases
  let b2 ← scored costs rng "b2" baselineB2 seed cases
  some (ours.netDeltaInr b2)

section

variable {G : Type*} (rng : Rng G) {costs : Costs} (hcosts : costs.Nonneg) (seed : ℤ)
  (param : BreakEvenParam) {lo hi : ℚ} (hle : lo ≤ hi)

include hcosts hle

theorem deltaNet_moves (cases : List SimCase) :
    ∃ low high, deltaNet (param.override costs lo) rng seed cases = some low ∧
      deltaNet (param.override costs hi) rng seed cases = some high ∧ param.Moves low high := by
  obtain ⟨oursLow, holow, -⟩ :=
    scored_tallied (param.override costs lo) rng "ours" policyOurs seed cases
  obtain ⟨oursHigh, hohigh, -⟩ :=
    scored_tallied (param.override costs hi) rng "ours" policyOurs seed cases
  obtain ⟨b2Low, hblow, -⟩ :=
    scored_tallied (param.override costs lo) rng "b2" baselineB2 seed cases
  obtain ⟨b2High, hbhigh, -⟩ :=
    scored_tallied (param.override costs hi) rng "b2" baselineB2 seed cases
  refine ⟨oursLow.netDeltaInr b2Low, oursHigh.netDeltaInr b2High, ?_, ?_,
    netDelta_moves rng seed cases hcosts param hle holow hohigh hblow hbhigh⟩
  · rw [deltaNet, holow, hblow]
    rfl
  · rw [deltaNet, hohigh, hbhigh]
    rfl

theorem compareSeed_moves {n : ℤ} (hn : 0 < n) :
    ∃ low high, compareSeed (param.override costs lo) rng seed n = some low ∧
      compareSeed (param.override costs hi) rng seed n = some high ∧
      param.Moves low.deltaNetRecoveredInr high.deltaNetRecoveredInr := by
  obtain ⟨cases, rows, oursLow, b2Low, hcases, -, holow, hblow, hlow, -⟩ :=
    compareSeed_reconciles (param.override costs lo) rng seed hn
  obtain ⟨cases', rows', oursHigh, b2High, hcases', -, hohigh, hbhigh, hhigh, -⟩ :=
    compareSeed_reconciles (param.override costs hi) rng seed hn
  have hsame : cases' = cases := Option.some.inj (hcases'.symm.trans hcases)
  rw [hsame] at hohigh hbhigh
  have hmoves := netDelta_moves rng seed cases hcosts param hle holow hohigh hblow hbhigh
  exact ⟨_, _, hlow, hhigh, hmoves.round⟩

end

/-- Cost knobs move the headline in the stated direction. Where no cost is negative, on every
list of cases, the lead of `ours` does not fall with the price of a message or with the churn
of an unfit contact, and does not rise with the price of a link; nor does the rounded lead of
`compare_seed`, for which the outcomes are the same under every two cost tables. -/
theorem cost_knobs_move_headline {G : Type*} (rng : Rng G) {costs : Costs}
    (hcosts : costs.Nonneg) (seed : ℤ) :
    (∀ (param : BreakEvenParam) (lo hi : ℚ), lo ≤ hi → ∀ cases, ∃ low high,
      deltaNet (param.override costs lo) rng seed cases = some low ∧
      deltaNet (param.override costs hi) rng seed cases = some high ∧ param.Moves low high) ∧
    (∀ (param : BreakEvenParam) (lo hi : ℚ), lo ≤ hi → ∀ n, 0 < n → ∃ low high,
      compareSeed (param.override costs lo) rng seed n = some low ∧
      compareSeed (param.override costs hi) rng seed n = some high ∧
      param.Moves low.deltaNetRecoveredInr high.deltaNetRecoveredInr) ∧
    ∀ (costs' : Costs) (n : ℤ), 0 < n → ∃ result result',
      compareSeed costs rng seed n = some result ∧
      compareSeed costs' rng seed n = some result' ∧ result.SameOutcomes result' := by
  refine ⟨?_, ?_, ?_⟩
  · intro param lo hi hle cases
    exact deltaNet_moves rng hcosts seed param hle cases
  · intro param lo hi hle n hn
    exact compareSeed_moves rng hcosts seed param hle hn
  · intro costs' n hn
    exact compareSeed_sameOutcomes costs costs' rng seed hn

/-- Generators that always draw zero. -/
def zeroRng : Rng Unit where
  seed _ := ()
  seeded _ := ()
  random g := (0, g)
  randbelow _ h g := (⟨0, h⟩, g)

/-- A message at five rupees instead of twenty paise, on a batch of three. -/
theorem cost_knobs_move_headline_sms :
    ∃ low high,
      compareSeed (BreakEvenParam.smsDlt.override shippedCosts (2 / 10)) zeroRng 42 3 =
        some low ∧
      compareSeed (BreakEvenParam.smsDlt.override shippedCosts 5) zeroRng 42 3 = some high ∧
      low.deltaNetRecoveredInr ≤ high.deltaNetRecoveredInr := by
  have hmove := (cost_knobs_move_headline zeroRng shippedCosts_nonneg 42).2.1
  exact hmove .smsDlt (2 / 10) 5 (by norm_num) 3 (by decide)

end RecoveryAgent.Eval
