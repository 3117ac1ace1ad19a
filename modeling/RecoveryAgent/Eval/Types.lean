import Mathlib.Data.List.Sort
import Mathlib.Data.Rat.Defs

/-!
# The simulated world

`eval/types.py` and `eval/recovery_class.py`: the cases of a batch, what a policy
plans for them, and the outcome of playing a plan. Probabilities are exact.
-/

namespace RecoveryAgent.Eval

/-- Actions that a policy may schedule inside the simulator. -/
inductive SimVerb where
  | scheduleRetry
  | sendPaymentLink
  | genericNag
  | noop
  deriving DecidableEq, Repr

def SimVerb.value : SimVerb → String
  | scheduleRetry => "schedule_retry"
  | sendPaymentLink => "send_payment_link"
  | genericNag => "generic_nag"
  | noop => "noop"

/-- One planned intervention, some days after the failure. -/
structure PlannedAction where
  verb : SimVerb
  dayOffset : ℕ
  note : String := ""
  withinHorizon : dayOffset ≤ 60 := by decide
  deriving DecidableEq, Repr

inductive FailureReason where
  | insufficientFunds
  | issuerTransient
  | gatewayTimeout
  | cardExpired
  | tokenInvalid
  | mandateRevoked
  | riskFraud
  | doNotHonour
  deriving DecidableEq, Repr

def FailureReason.value : FailureReason → String
  | insufficientFunds => "insufficient_funds"
  | issuerTransient => "issuer_transient"
  | gatewayTimeout => "gateway_timeout"
  | cardExpired => "card_expired"
  | tokenInvalid => "token_invalid"
  | mandateRevoked => "mandate_revoked"
  | riskFraud => "risk_fraud"
  | doNotHonour => "do_not_honour"

inductive RecoveryClass where
  | retryFixable
  | customerAction
  | ambiguous
  | prohibited
  deriving DecidableEq, Repr

def RecoveryClass.value : RecoveryClass → String
  | retryFixable => "RETRY_FIXABLE"
  | customerAction => "CUSTOMER_ACTION"
  | ambiguous => "AMBIGUOUS"
  | prohibited => "PROHIBITED"

def recoveryClassFor : FailureReason → RecoveryClass
  | .insufficientFunds => .retryFixable
  | .issuerTransient => .retryFixable
  | .gatewayTimeout => .retryFixable
  | .cardExpired => .customerAction
  | .tokenInvalid => .customerAction
  | .mandateRevoked => .customerAction
  | .doNotHonour => .ambiguous
  | .riskFraud => .prohibited

/-- What a policy is allowed to see. -/
structure VisibleCase where
  caseKey : String
  payerRef : String
  amountPaise : ℤ
  rail : String
  failureReason : FailureReason
  attemptNumber : ℤ := 1
  observedCreditDay : Option ℤ := none

/-- What only the simulator knows. -/
structure HiddenPayerTruth where
  instrumentValid : Bool
  trueCreditDay : ℤ
  naturalRecoveryProb : ℚ
  baseContactResponseProb : ℚ
  retrySuccessIfFunded : ℚ := 92 / 100

structure SimCase where
  visible : VisibleCase
  hidden : HiddenPayerTruth
  failureDom : ℤ

/-- Result after playing one policy against one case. -/
structure CaseOutcome where
  caseKey : String
  recovered : Bool
  recoveredPaise : ℤ
  contacts : ℕ
  retries : ℕ
  wastedAttempts : ℕ := 0
  natural : Bool := false
  notes : List String := []
  deriving DecidableEq, Repr

/-- A policy, as the simulator calls it. -/
abbrev PlanFn := SimCase → List PlannedAction

def isRetryVerb (verb : SimVerb) : Bool := verb = .scheduleRetry

def isContactVerb (verb : SimVerb) : Bool := verb ∈ [.sendPaymentLink, .genericNag]

/-- `sorted(plan, key=lambda a: a.day_offset)`, which keeps the order of one day. -/
def chronological (plan : List PlannedAction) : List PlannedAction :=
  plan.insertionSort fun a b => a.dayOffset ≤ b.dayOffset

theorem mem_chronological {plan : List PlannedAction} {action : PlannedAction} :
    action ∈ chronological plan ↔ action ∈ plan :=
  List.mem_insertionSort _

/-- An action is a retry, a contact or nothing. -/
theorem verb_cases (verb : SimVerb) :
    (isRetryVerb verb = true ∧ isContactVerb verb = false ∧ verb ≠ .noop) ∨
      (isRetryVerb verb = false ∧ isContactVerb verb = true ∧ verb ≠ .noop) ∨
        (isRetryVerb verb = false ∧ isContactVerb verb = false ∧ verb = .noop) := by
  cases verb <;> decide

end RecoveryAgent.Eval
