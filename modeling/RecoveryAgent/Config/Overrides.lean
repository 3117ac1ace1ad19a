import Mathlib.Data.List.Defs
import RecoveryAgent.Config.Costs
import RecoveryAgent.Library.Cell

/-!
# Live overrides

The part of `config/costs.py` that changes while the process runs: one map of values by
dotted key, over the values of `costs.json`. Whoever sets it replaces it as a whole, and
whoever clears it clears it for everybody.
-/

namespace RecoveryAgent.Config

open Library

/-- `_overrides`: the first entry of a key is its value. -/
abbrev Overrides := List (String × ℚ)

/-- `get_cost_value` of a key of `costs.json` with its value there. -/
def Overrides.value (overrides : Overrides) (key : String) (base : ℚ) : ℚ :=
  (overrides.lookup key).getD base

/-- The values that the code reads while the overrides are in force. A key that is not in
`costs.json` is never asked for. -/
def Costs.under (file : Costs) (overrides : Overrides) : Costs where
  pspFeeOnFailedAttempt :=
    overrides.value "attempt.psp_fee_on_failed_attempt" file.pspFeeOnFailedAttempt
  smsDlt := overrides.value "attempt.sms_dlt" file.smsDlt
  whatsappUtility := overrides.value "attempt.whatsapp_utility" file.whatsappUtility
  email := overrides.value "attempt.email" file.email
  networkExcessRetryPenalty :=
    overrides.value "attempt.network_excess_retry_penalty" file.networkExcessRetryPenalty
  mdrPct := overrides.value "success.mdr_pct" file.mdrPct
  chargebackFee := overrides.value "risk.chargeback_fee" file.chargebackFee
  supportTicket := overrides.value "risk.support_ticket" file.supportTicket
  issuerAuthDecayPctPerExcessAttempt :=
    overrides.value "risk.issuer_auth_decay_pct_per_excess_attempt"
      file.issuerAuthDecayPctPerExcessAttempt
  churnProbPerInappropriateContact :=
    overrides.value "customer.churn_prob_per_inappropriate_contact"
      file.churnProbPerInappropriateContact
  ltv := overrides.value "customer.ltv" file.ltv
  maxAttemptsPerTransaction30d :=
    overrides.value "scheme_limits.max_attempts_per_transaction_30d"
      file.maxAttemptsPerTransaction30d

/-- Without overrides the values are those of the file. -/
@[simp] theorem Costs.under_nil (file : Costs) : file.under [] = file := rfl

/-- What runs in the process: it may raise, and the overrides outlive it. -/
abbrev Live := Cell Overrides

def setCostOverrides (overrides : Overrides) : Live PUnit := Cell.write overrides

def clearCostOverrides : Live PUnit := Cell.write []

/-- A computation that reads costs and sets none. -/
def Live.costing {α : Type*} (file : Costs) (f : Costs → Option α) : Live α :=
  Cell.read fun overrides => f (file.under overrides)

end RecoveryAgent.Config
