import Mathlib.Algebra.Order.Field.Rat
import Mathlib.Tactic.NormNum

/-!
# Cost assumptions

The values that `config/costs.py` reads from `config/costs.json`, with the live
overrides applied: whatever reads a cost reads it from one table.
-/

namespace RecoveryAgent.Config

/-- One value for each key of `costs.json` that the code reads. All money is in
rupees. -/
structure Costs where
  /-- `attempt.psp_fee_on_failed_attempt` -/
  pspFeeOnFailedAttempt : ℚ
  /-- `attempt.sms_dlt` -/
  smsDlt : ℚ
  /-- `attempt.whatsapp_utility` -/
  whatsappUtility : ℚ
  /-- `attempt.email` -/
  email : ℚ
  /-- `attempt.network_excess_retry_penalty` -/
  networkExcessRetryPenalty : ℚ
  /-- `success.mdr_pct` -/
  mdrPct : ℚ
  /-- `risk.chargeback_fee` -/
  chargebackFee : ℚ
  /-- `risk.support_ticket` -/
  supportTicket : ℚ
  /-- `risk.issuer_auth_decay_pct_per_excess_attempt` -/
  issuerAuthDecayPctPerExcessAttempt : ℚ
  /-- `customer.churn_prob_per_inappropriate_contact` -/
  churnProbPerInappropriateContact : ℚ
  /-- `customer.ltv` -/
  ltv : ℚ
  /-- `scheme_limits.max_attempts_per_transaction_30d` -/
  maxAttemptsPerTransaction30d : ℚ
  deriving DecidableEq

def shippedCosts : Costs where
  pspFeeOnFailedAttempt := 0
  smsDlt := 2 / 10
  whatsappUtility := 12 / 100
  email := 1 / 100
  networkExcessRetryPenalty := 0
  mdrPct := 2 / 100
  chargebackFee := 1500
  supportTicket := 35
  issuerAuthDecayPctPerExcessAttempt := 2 / 1000
  churnProbPerInappropriateContact := 1 / 100
  ltv := 4800
  maxAttemptsPerTransaction30d := 15

structure Costs.Nonneg (costs : Costs) : Prop where
  pspFeeOnFailedAttempt : 0 ≤ costs.pspFeeOnFailedAttempt
  smsDlt : 0 ≤ costs.smsDlt
  whatsappUtility : 0 ≤ costs.whatsappUtility
  email : 0 ≤ costs.email
  networkExcessRetryPenalty : 0 ≤ costs.networkExcessRetryPenalty
  mdrPct : 0 ≤ costs.mdrPct
  chargebackFee : 0 ≤ costs.chargebackFee
  supportTicket : 0 ≤ costs.supportTicket
  issuerAuthDecayPctPerExcessAttempt : 0 ≤ costs.issuerAuthDecayPctPerExcessAttempt
  churnProbPerInappropriateContact : 0 ≤ costs.churnProbPerInappropriateContact
  ltv : 0 ≤ costs.ltv
  maxAttemptsPerTransaction30d : 0 ≤ costs.maxAttemptsPerTransaction30d

theorem shippedCosts_nonneg : shippedCosts.Nonneg := by
  constructor <;> norm_num [shippedCosts]

end RecoveryAgent.Config
