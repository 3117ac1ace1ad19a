import Mathlib.Algebra.Order.Field.Basic
import Mathlib.Algebra.Order.Field.Rat
import RecoveryAgent.Config.Costs
import RecoveryAgent.Eval.Baselines
import RecoveryAgent.Eval.Simulate
import RecoveryAgent.Python.Values

/-!
# Pricing a batch

`eval/costing.py`, in exact arithmetic. The actions that were played are rebuilt from
the plan and the two counters of the outcome, and priced one by one.
-/

namespace RecoveryAgent.Eval

open Python Config

structure CaseCostBreakdown where
  attemptCostInr : ℚ
  mdrCostInr : ℚ
  riskCostInr : ℚ
  customerCostInr : ℚ
  schemeCapBreach : Bool
  forgoneRecoveryInr : ℚ

structure BatchCostTotals where
  attemptCostInr : ℚ
  mdrCostInr : ℚ
  riskCostInr : ℚ
  customerCostInr : ℚ
  totalCostInr : ℚ
  wastedAttempts : ℕ
  totalAttempts : ℕ
  schemeCapBreaches : ℕ
  forgoneRecoveryInr : ℚ

def paiseToInr (paise : ℤ) : ℚ := paise / 100

/-- The loop of `_executed_actions`, with the retries and contacts that are left. -/
def takeExecuted : ℕ → ℕ → List PlannedAction → List PlannedAction
  | _, _, [] => []
  | retriesLeft, contactsLeft, action :: rest =>
      let (taken, retriesLeft, contactsLeft) :=
        if isRetryVerb action.verb && 0 < retriesLeft then
          ([action], retriesLeft - 1, contactsLeft)
        else if isContactVerb action.verb && 0 < contactsLeft then
          ([action], retriesLeft, contactsLeft - 1)
        else ([], retriesLeft, contactsLeft)
      if retriesLeft = 0 ∧ contactsLeft = 0 then taken
      else taken ++ takeExecuted retriesLeft contactsLeft rest

def executedActions (case : SimCase) (outcome : CaseOutcome) (planFn : PlanFn) :
    List PlannedAction :=
  takeExecuted outcome.retries outcome.contacts (chronological (planFn case))

def contactUnitCost (costs : Costs) : SimVerb → ℚ
  | .genericNag => costs.smsDlt
  | .sendPaymentLink => costs.whatsappUtility
  | _ => costs.email

def isInappropriateContact (case : SimCase) (action : PlannedAction) : Bool :=
  let rc := recoveryClassFor case.visible.failureReason
  rc = .prohibited || rc = .customerAction && action.verb = .genericNag

def forgoneProhibitedInr (case : SimCase) (outcome : CaseOutcome) (label : String) : ℚ :=
  if label ≠ "ours" then 0
  else if recoveryClassFor case.visible.failureReason ≠ .prohibited then 0
  else if outcome.recovered then 0
  else
    let b2Retries := (baselineB2 case).countP fun a => isRetryVerb a.verb
    let refused : ℤ := max 0 ((b2Retries : ℤ) - outcome.retries)
    if refused = 0 then 0
    else round (paiseToInr case.visible.amountPaise * case.hidden.retrySuccessIfFunded * refused) 4

/-- The retries that a card scheme allows. -/
def schemeCap (costs : Costs) : ℤ := truncate costs.maxAttemptsPerTransaction30d

/-- The sums that the loop of `compute_case_costs` keeps. -/
structure Charges where
  attemptCost : ℚ := 0
  riskCost : ℚ := 0
  customerCost : ℚ := 0
  retryIndex : ℕ := 0

/-- One played action is priced. -/
def charge (costs : Costs) (case : SimCase) (sums : Charges) (action : PlannedAction) : Charges :=
  if isRetryVerb action.verb then
    let retryIndex := sums.retryIndex + 1
    if schemeCap costs < retryIndex then
      { sums with
        retryIndex
        attemptCost :=
          sums.attemptCost + costs.pspFeeOnFailedAttempt + costs.networkExcessRetryPenalty
        riskCost := sums.riskCost +
          paiseToInr case.visible.amountPaise * costs.issuerAuthDecayPctPerExcessAttempt }
    else { sums with retryIndex, attemptCost := sums.attemptCost + costs.pspFeeOnFailedAttempt }
  else if isContactVerb action.verb then
    let sums := { sums with attemptCost := sums.attemptCost + contactUnitCost costs action.verb }
    if isInappropriateContact case action then
      let sums :=
        { sums with
          customerCost := sums.customerCost + costs.churnProbPerInappropriateContact * costs.ltv }
      if recoveryClassFor case.visible.failureReason = .prohibited then
        { sums with
          riskCost := sums.riskCost + costs.supportTicket +
            costs.churnProbPerInappropriateContact * costs.chargebackFee }
      else sums
    else sums
  else sums

/-- The sums over the played actions, before they are rounded. -/
def charges (costs : Costs) (case : SimCase) (executed : List PlannedAction) : Charges :=
  executed.foldl (charge costs case) {}

def computeCaseCosts (costs : Costs) (case : SimCase) (outcome : CaseOutcome) (planFn : PlanFn)
    (label : String) : CaseCostBreakdown :=
  let sums := charges costs case (executedActions case outcome planFn)
  { attemptCostInr := round sums.attemptCost 4
    mdrCostInr := round (paiseToInr outcome.recoveredPaise * costs.mdrPct) 4
    riskCostInr := round sums.riskCost 4
    customerCostInr := round sums.customerCost 4
    schemeCapBreach := schemeCap costs < outcome.retries
    forgoneRecoveryInr := forgoneProhibitedInr case outcome label }

/-- `compute_batch_costs`. It raises on lists of two lengths. -/
def computeBatchCosts (costs : Costs) (cases : List SimCase) (outcomes : List CaseOutcome)
    (planFn : PlanFn) (label : String) : Option BatchCostTotals :=
  if cases.length ≠ outcomes.length then none
  else
    let rows := (cases.zip outcomes).map fun p => computeCaseCosts costs p.1 p.2 planFn label
    let attempt := (rows.map (·.attemptCostInr)).sum
    let mdr := (rows.map (·.mdrCostInr)).sum
    let risk := (rows.map (·.riskCostInr)).sum
    let customer := (rows.map (·.customerCostInr)).sum
    some
      { attemptCostInr := round attempt 2
        mdrCostInr := round mdr 2
        riskCostInr := round risk 2
        customerCostInr := round customer 2
        totalCostInr := round (attempt + mdr + risk + customer) 2
        wastedAttempts := (outcomes.map (·.wastedAttempts)).sum
        totalAttempts := (outcomes.map fun o => o.retries + o.contacts).sum
        schemeCapBreaches := rows.countP (·.schemeCapBreach)
        forgoneRecoveryInr := round ((rows.map (·.forgoneRecoveryInr)).sum) 2 }

end RecoveryAgent.Eval
