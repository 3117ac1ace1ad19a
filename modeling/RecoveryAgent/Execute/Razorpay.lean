import RecoveryAgent.Execute.Service
import RecoveryAgent.Ledger.Reader

/-!
# The Razorpay executor

`execute/razorpay_adapter.py` with the reconciliation of `execute/reconcile.py`.
Razorpay itself answers through two functions of the executor's environment.
-/

namespace RecoveryAgent.Execute

open Python Policy Ledger

/-- The answer to creating a Payment Link. Whatever raises in between is
`raised` with the text of the exception. -/
inductive LinkReply where
  | created (plinkId : Option String) (data : Fields)
  | refused (statusCode : ℕ) (text : String)
  | raised (text : String)

/-- `RazorpayExecutor`: its settings, what it draws from `uuid4`, and how Razorpay
answers. -/
structure RazorpayExecutor where
  keyId : String
  keySecret : String
  dryRunFlag : Bool := false
  newHex : String
  getPayment : String → Except String Fields
  postPaymentLink : Fields → LinkReply

namespace RazorpayExecutor

def hasTestKey (r : RazorpayExecutor) : Bool := "xxx".toList <:+ r.keyId.toList

def dryRun (r : RazorpayExecutor) : Bool := r.dryRunFlag || r.hasTestKey

def fetchPayment (r : RazorpayExecutor) (paymentId : String) : Except String Fields :=
  if r.keyId = "" ∨ r.keySecret = "" ∨ r.hasTestKey = true then
    .error "Razorpay keys not configured (set RAZORPAY_KEY_ID/SECRET)"
  else r.getPayment paymentId

end RazorpayExecutor

def alreadySucceeded (payment : Fields) : Bool :=
  lower (fieldText payment "status" "") ∈ ["captured", "authorized", "paid"]

namespace RazorpayExecutor

/-- `_retry_with_reconcile`: no blind retry of a payment that went through. -/
def retryWithReconcile (r : RazorpayExecutor) (action : Action) (case : CaseRow)
    (execMeta : ExecuteMeta) : Outcome :=
  let payId := execMeta.paymentRef.getD ""
  let intent : Outcome :=
    { ok := true
      externalId := some (if payId = "" then "retry_intent_" ++ slice 8 case.id else payId)
      recovered := false
      status := "ok"
      note := "retry_intent_recorded_after_reconcile"
      raw := [("dry_run", .bool r.dryRun), ("day_offset", .ofOptNat action.dayOffset)] }
  if payId = "" ∨ r.dryRun = true then intent
  else
    match r.fetchPayment payId with
    | .error text =>
        { ok := false
          externalId := some payId
          status := "failed"
          note := "reconcile_failed:" ++ text }
    | .ok payment =>
        if alreadySucceeded payment then
          { ok := true
            externalId := some payId
            recovered := true
            status := "reconciled_skip"
            note := "payment_already_succeeded_skip_retry"
            raw := payment }
        else intent

/-- What is posted to create a Payment Link. -/
def linkPayload (action : Action) (case : CaseRow) (execMeta : ExecuteMeta) : Fields :=
  [("amount", .int (action.amountPaise.getD case.amountPaise)),
    ("currency", .str "INR"),
    ("accept_partial", .bool false),
    ("reference_id", .str (slice 40 ("recovery_" ++ case.id))),
    ("description", .str ("Recovery link for case " ++ case.id)),
    ("reminder_enable", .bool false),
    ("notes", .obj
      [("case_id", .str case.id),
        ("failure_reason", .str execMeta.failureReason),
        ("verb", .str action.verb.value)])]

def createPaymentLink (r : RazorpayExecutor) (action : Action) (case : CaseRow)
    (execMeta : ExecuteMeta) : Outcome :=
  let plink := "plink_test_" ++ r.newHex
  if r.dryRun || execMeta.dryRun then
    { ok := true
      externalId := some plink
      recovered := false
      status := "created_link"
      note := "dry_run_payment_link"
      raw :=
        [("dry_run", .bool true),
          ("amount", .int (action.amountPaise.getD case.amountPaise)),
          ("reference_id", .str ("recovery_" ++ case.id)),
          ("short_url", .str ("https://rzp.io/i/" ++ plink))] }
  else
    match r.postPaymentLink (linkPayload action case execMeta) with
    | .refused statusCode text =>
        { ok := false
          status := "failed"
          note := "payment_link_http_error"
          raw := [("status_code", .int statusCode), ("body", .str (slice 500 text))] }
    | .created plinkId data =>
        { ok := true
          externalId := plinkId
          recovered := false
          status := "created_link"
          note := "razorpay_payment_link_created"
          raw := data }
    | .raised text => { ok := false, status := "failed", note := "payment_link_exc:" ++ text }

/-- `RazorpayExecutor.run`. -/
def run (r : RazorpayExecutor) : Executor := fun action case execMeta =>
  match action.verb with
  | .escalateHuman =>
      { ok := true, externalId := none, status := "escalated", note := "no_razorpay_call" }
  | .scheduleRetry => r.retryWithReconcile action case execMeta
  | .sendPaymentLink => r.createPaymentLink action case execMeta
  | .requestMandateUpdate => r.createPaymentLink action case execMeta

end RazorpayExecutor

end RecoveryAgent.Execute
