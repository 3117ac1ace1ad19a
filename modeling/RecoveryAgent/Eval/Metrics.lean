import Mathlib.Algebra.BigOperators.Ring.List
import RecoveryAgent.Eval.Costing
import RecoveryAgent.Library.Grouping
import RecoveryAgent.Python.Rounding

/-!
# Headline numbers

`eval/metrics.py`: the one place that turns the outcomes of a batch into numbers. All
money figures are in rupees.
-/

namespace RecoveryAgent.Eval

open Python Config Library

structure BatchMetrics where
  label : String
  seed : ℤ
  n : ℕ
  atRiskInr : ℚ
  recoveredInr : ℚ
  grossRecoveredInr : ℚ
  netRecoveredInr : ℚ
  recoveryRate : ℚ
  contacts : ℕ
  retries : ℕ
  recoveries : ℕ
  contactsPerRecovery : ℚ
  naturalRecoveries : ℕ := 0
  totalAttempts : ℕ := 0
  wastedAttempts : ℕ := 0
  attemptCostInr : ℚ := 0
  mdrCostInr : ℚ := 0
  riskCostInr : ℚ := 0
  customerCostInr : ℚ := 0
  totalCostInr : ℚ := 0
  costPerRupeeRecovered : ℚ := -1
  schemeCapBreaches : ℕ := 0
  forgoneRecoveryInr : ℚ := 0

def BatchMetrics.grossDeltaInr (self other : BatchMetrics) : ℚ :=
  self.grossRecoveredInr - other.grossRecoveredInr

def BatchMetrics.netDeltaInr (self other : BatchMetrics) : ℚ :=
  self.netRecoveredInr - other.netRecoveredInr

/-- `compute_metrics`. Without a plan nothing is priced; it raises on lists of two
lengths. -/
def computeMetrics (costs : Costs) (label : String) (seed : ℤ) (cases : List SimCase)
    (outcomes : List CaseOutcome) (planFn : Option PlanFn) : Option BatchMetrics :=
  if cases.length ≠ outcomes.length then none
  else do
    let contacts := (outcomes.map (·.contacts)).sum
    let retries := (outcomes.map (·.retries)).sum
    let recoveries := outcomes.countP (·.recovered)
    let atRiskInr := paiseToInr (cases.map (·.visible.amountPaise)).sum
    let recoveredInr := paiseToInr (outcomes.map (·.recoveredPaise)).sum
    let recoveryRate := if atRiskInr ≠ 0 then recoveredInr / atRiskInr else 0
    let unpriced : BatchMetrics :=
      { label
        seed
        n := cases.length
        atRiskInr := round atRiskInr 2
        recoveredInr := round recoveredInr 2
        grossRecoveredInr := round recoveredInr 2
        netRecoveredInr := recoveredInr
        recoveryRate := round recoveryRate 6
        contacts
        retries
        recoveries
        contactsPerRecovery := if recoveries ≠ 0 then round (contacts / recoveries) 4 else -1
        naturalRecoveries := outcomes.countP (·.natural)
        totalAttempts := retries + contacts
        wastedAttempts := (outcomes.map (·.wastedAttempts)).sum
        costPerRupeeRecovered := if 0 < recoveredInr then round (0 / recoveredInr) 6 else -1 }
    match planFn with
    | none => some unpriced
    | some planFn =>
        let costs ← computeBatchCosts costs cases outcomes planFn label
        some
          { unpriced with
            attemptCostInr := costs.attemptCostInr
            mdrCostInr := costs.mdrCostInr
            riskCostInr := costs.riskCostInr
            customerCostInr := costs.customerCostInr
            totalCostInr := costs.totalCostInr
            totalAttempts := costs.totalAttempts
            schemeCapBreaches := costs.schemeCapBreaches
            forgoneRecoveryInr := costs.forgoneRecoveryInr
            netRecoveredInr := round (recoveredInr - costs.totalCostInr) 2
            costPerRupeeRecovered :=
              if 0 < recoveredInr then round (costs.totalCostInr / recoveredInr) 6 else -1 }

/-!
## What the numbers add up
-/

/-- Rupees have two digits. -/
theorem onGrid_paiseToInr (paise : ℤ) : Rounding.OnGrid (10 ^ 2) (paiseToInr paise) := by
  refine ⟨paise, ?_⟩
  rw [paiseToInr]
  norm_num

theorem round_paiseToInr (paise : ℤ) : round (paiseToInr paise) 2 = paiseToInr paise :=
  round_of_onGrid (onGrid_paiseToInr paise)

theorem paiseToInr_sum (paises : List ℤ) : paiseToInr paises.sum = (paises.map paiseToInr).sum := by
  induction paises with
  | nil => simp [paiseToInr]
  | cons paise paises ih =>
      rw [List.map_cons, List.sum_cons, List.sum_cons, ← ih, paiseToInr, paiseToInr, paiseToInr]
      push_cast
      ring

def caseCost (costs : Costs) (planFn : PlanFn) (label : String) (p : SimCase × CaseOutcome) : ℚ :=
  (computeCaseCosts costs p.1 p.2 planFn label).attemptCostInr +
    (computeCaseCosts costs p.1 p.2 planFn label).mdrCostInr +
      (computeCaseCosts costs p.1 p.2 planFn label).riskCostInr +
        (computeCaseCosts costs p.1 p.2 planFn label).customerCostInr

/-- What one case costs before anything is rounded. -/
def caseCharge (costs : Costs) (planFn : PlanFn) (p : SimCase × CaseOutcome) : ℚ :=
  (charges costs p.1 (executedActions p.1 p.2 planFn)).attemptCost +
    paiseToInr p.2.recoveredPaise * costs.mdrPct +
      (charges costs p.1 (executedActions p.1 p.2 planFn)).riskCost +
        (charges costs p.1 (executedActions p.1 p.2 planFn)).customerCost

/-- The four parts of a cost are rounded to four digits each. -/
theorem caseCost_near (costs : Costs) (planFn : PlanFn) (label : String)
    (p : SimCase × CaseOutcome) :
    |caseCost costs planFn label p - caseCharge costs planFn p| ≤ 1 / 5000 := by
  unfold caseCost caseCharge computeCaseCosts
  simp only
  have hattempt := abs_le.1
    (round_near (charges costs p.1 (executedActions p.1 p.2 planFn)).attemptCost 4)
  have hmdr := abs_le.1 (round_near (paiseToInr p.2.recoveredPaise * costs.mdrPct) 4)
  have hrisk := abs_le.1
    (round_near (charges costs p.1 (executedActions p.1 p.2 planFn)).riskCost 4)
  have hcustomer := abs_le.1
    (round_near (charges costs p.1 (executedActions p.1 p.2 planFn)).customerCost 4)
  apply abs_le.2
  constructor
  · linarith [hattempt.1, hmdr.1, hrisk.1, hcustomer.1]
  · linarith [hattempt.2, hmdr.2, hrisk.2, hcustomer.2]

/-- The numbers are sums over the cases with their outcomes. -/
structure Tallied (costs : Costs) (label : String) (planFn : Option PlanFn)
    (ps : List (SimCase × CaseOutcome)) (m : BatchMetrics) : Prop where
  n : m.n = (ps.map fun _ => 1).sum
  atRisk : m.atRiskInr = (ps.map fun p => paiseToInr p.1.visible.amountPaise).sum
  gross : m.grossRecoveredInr = (ps.map fun p => paiseToInr p.2.recoveredPaise).sum
  retries : m.retries = (ps.map fun p => p.2.retries).sum
  contacts : m.contacts = (ps.map fun p => p.2.contacts).sum
  wasted : m.wastedAttempts = (ps.map fun p => p.2.wastedAttempts).sum
  recoveries : m.recoveries = (ps.map fun p => if p.2.recovered then 1 else 0).sum
  net : m.netRecoveredInr + m.totalCostInr = m.grossRecoveredInr
  total : ∀ plan, planFn = some plan →
    m.totalCostInr = round ((ps.map (caseCost costs plan label)).sum) 2

/-- The four costs of a batch together. -/
theorem sum_caseCost (costs : Costs) (planFn : PlanFn) (label : String)
    (ps : List (SimCase × CaseOutcome)) :
    (ps.map (caseCost costs planFn label)).sum =
      (ps.map fun p => (computeCaseCosts costs p.1 p.2 planFn label).attemptCostInr).sum +
        (ps.map fun p => (computeCaseCosts costs p.1 p.2 planFn label).mdrCostInr).sum +
          (ps.map fun p => (computeCaseCosts costs p.1 p.2 planFn label).riskCostInr).sum +
            (ps.map fun p => (computeCaseCosts costs p.1 p.2 planFn label).customerCostInr).sum := by
  rw [← List.sum_map_add, ← List.sum_map_add, ← List.sum_map_add]
  rfl

theorem computeBatchCosts_total (costs : Costs) (planFn : PlanFn) (label : String)
    (ps : List (SimCase × CaseOutcome)) :
    ∃ totals, computeBatchCosts costs (ps.map Prod.fst) (ps.map Prod.snd) planFn label =
        some totals ∧
      totals.totalCostInr = round ((ps.map (caseCost costs planFn label)).sum) 2 := by
  have hzip : (ps.map Prod.fst).zip (ps.map Prod.snd) = ps := (List.zip_of_prod rfl rfl).symm
  refine ⟨_, if_neg (by simp), ?_⟩
  rw [sum_caseCost, hzip]
  simp only [List.map_map]
  rfl

theorem computeMetrics_tallied (costs : Costs) (label : String) (seed : ℤ)
    (planFn : Option PlanFn) (ps : List (SimCase × CaseOutcome)) :
    ∃ m, computeMetrics costs label seed (ps.map Prod.fst) (ps.map Prod.snd) planFn = some m ∧
      Tallied costs label planFn ps m := by
  have hlengths : ¬(ps.map Prod.fst).length ≠ (ps.map Prod.snd).length := by simp
  have hn : (ps.map Prod.fst).length = (ps.map fun _ => 1).sum := by simp
  have hrisk : round (paiseToInr ((ps.map Prod.fst).map (·.visible.amountPaise)).sum) 2 =
      (ps.map fun p => paiseToInr p.1.visible.amountPaise).sum := by
    rw [round_paiseToInr, paiseToInr_sum, List.map_map, List.map_map]
    rfl
  have hgross : round (paiseToInr ((ps.map Prod.snd).map (·.recoveredPaise)).sum) 2 =
      (ps.map fun p => paiseToInr p.2.recoveredPaise).sum := by
    rw [round_paiseToInr, paiseToInr_sum, List.map_map, List.map_map]
    rfl
  have hsum : ∀ f : CaseOutcome → ℕ,
      ((ps.map Prod.snd).map f).sum = (ps.map fun p => f p.2).sum := by
    intro f
    rw [List.map_map]
    rfl
  have hrecoveries : (ps.map Prod.snd).countP (·.recovered) =
      (ps.map fun p => if p.2.recovered then 1 else 0).sum := by
    rw [List.countP_map, Grouping.countP_eq_sum]
    rfl
  rw [computeMetrics, if_neg hlengths]
  cases planFn with
  | none =>
      refine ⟨_, rfl, ⟨hn, hrisk, hgross, hsum _, hsum _, hsum _, hrecoveries, ?_, nofun⟩⟩
      simp only [add_zero]
      exact (round_paiseToInr _).symm
  | some plan =>
      obtain ⟨totals, htotals, htotal⟩ := computeBatchCosts_total costs plan label ps
      change ∃ m, (computeBatchCosts costs (ps.map Prod.fst) (ps.map Prod.snd) plan label >>=
        _) = some m ∧ _
      rw [htotals]
      refine ⟨_, rfl, ⟨hn, hrisk, hgross, hsum _, hsum _, hsum _, hrecoveries, ?_, ?_⟩⟩
      · have hgrid := (onGrid_paiseToInr ((ps.map Prod.snd).map (·.recoveredPaise)).sum).sub
          (onGrid_round ((ps.map (caseCost costs plan label)).sum) 2)
        simp only [htotal]
        rw [round_of_onGrid hgrid, sub_add_cancel, round_paiseToInr]
      · intro plan' hplan
        cases hplan
        exact htotal

end RecoveryAgent.Eval
