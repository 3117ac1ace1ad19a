import RecoveryAgent.Ai.Schemas
import RecoveryAgent.Ledger.Service
import RecoveryAgent.Python.Errors

/-!
# Webhook JSON to events

`ingest/normalise.py`. The envelope is searched for an entity, and the fields of an
event are taken from the entity, its notes and the body. Every value is untyped JSON,
so almost every step may raise; the faults of the two normalisers are listed in the
order in which the code comes to them.
-/

namespace RecoveryAgent.Ingest

open Library Python Ledger

/-- What the normalisers take from outside: Python's and pydantic's conversions, the
clock and a fresh `uuid4().hex[:12]`. -/
structure Outside where
  py : Conversions
  pydantic : Ai.Pydantic
  now : DateTime
  uuidHex : String

/-- `str(v)`. -/
def Outside.str (o : Outside) (v : Json) : String := o.py.textOf v

/-!
## The parts of an envelope
-/

/-- `wrap.get("entity")`, or the envelope itself where it has none. -/
def entityOf (wrap : Json) : Json :=
  match wrap with
  | .obj d =>
      match Fields.item d "entity" with
      | .null => wrap
      | entity => entity
  | _ => .null

def asEntity (missing : String) (v : Json) : Except PyError Fields :=
  match v with
  | .obj d => .ok d
  | _ => .error (.valueError missing)

/-- `entity.get("notes") or {}`. -/
def notesOf (entity : Fields) : Json := (entity.item "notes").or (.obj [])

/-- `entity.get("error") or {}`. -/
def errorOf (entity : Fields) : Json := (entity.item "error").or (.obj [])

/-- The date of an event: a time stamp, or now. -/
def occurredAt (o : Outside) (created : Json) : Except PyError DateTime :=
  if isNumber created then fromTimestamp o.py created else .ok o.now

theorem faultOf_asEntity (missing : String) (v : Json) :
    faultOf (asEntity missing v) = faultIf (!v.isObj) .caught := by
  cases v <;> rfl

theorem asEntity_eq_ok {missing : String} {v : Json} {d : Fields}
    (h : asEntity missing v = .ok d) : v = .obj d := by
  cases v with
  | obj e =>
      cases h
      rfl
  | _ => cases h

/-!
## A failed payment
-/

/-- `body.get("payload") or body`. -/
def failurePayload (body : Fields) : Json := (body.item "payload").or (.obj body)

/-- `payload.get("payment") or payload`. -/
def paymentWrap (body : Fields) : Json :=
  (Fields.item (failurePayload body).fields "payment").or (failurePayload body)

/-- The payment that a failure is about. -/
def paymentEntity (body : Fields) : Json := entityOf (paymentWrap body)

def railFrom (o : Outside) (method : Json) (entity : Fields) : Except PyError Rail :=
  let byNotes : Except PyError Rail :=
    match notesOf entity with
    | .obj notes =>
        if lower (o.str ((Fields.get? notes "rail").getD (.str ""))) = "upi_autopay" then
          .ok .upiAutopay
        else .ok .card
    | _ => .error .attributeError
  match method.or (.str "") with
  | .str m =>
      if hasText "upi" (lower m) then .ok .upiAutopay
      else if hasText "enach" (lower m) || hasText "nach" (lower m) then .ok .enach
      else byNotes
  | _ => .error .attributeError

/-- The key that a failure is remembered under. -/
def failureEventId (o : Outside) (body entity : Fields) : String :=
  if (body.item "event_id").truthy then o.str (body.item "event_id")
  else if (entity.item "id").truthy then "evt_fail_" ++ o.str (entity.item "id")
  else "rzp_" ++ o.str ((entity.get? "order_id").getD (.str "unknown"))

def failureReason (body entity : Fields) : Except PyError Json :=
  (entity.item "error_reason").orElse do
    let inError ← (errorOf entity).get "reason"
    return inError.or
      ((entity.item "status_reason").or ((body.item "raw_error_reason").or (.str "unknown")))

def failureCode (body entity : Fields) : Except PyError Json :=
  (entity.item "error_code").orElse do
    let inError ← (errorOf entity).get "code"
    return inError.or ((body.item "raw_error_code").or (.str ""))

/-- `entity.get("amount") or body.get("amount_paise") or 0`. -/
def failureAmount (body entity : Fields) : Json :=
  (entity.item "amount").or ((body.item "amount_paise").or (.int 0))

def failurePayerRef (body entity : Fields) : Except PyError Json :=
  (entity.item "customer_id").orElse do
    let inNotes ← (notesOf entity).get "payer_ref"
    return inNotes.or ((body.item "payer_ref").or (.str "payer_unknown"))

def failureMerchantId (body entity : Fields) : Json :=
  (body.item "merchant_id").or ((entity.item "merchant_id").or (.str "merch_unknown"))

/-- A mandate state that the enumeration does not know is `unknown`. -/
def mandateStateOf (o : Outside) (v : Json) : Option MandateState :=
  if v.truthy then
    some (([.active, .paused, .revoked, .expired, .unknown].find?
      fun m : MandateState => m.value = o.str v).getD .unknown)
  else none

/-- The body's credit day, or that of the notes. -/
def failureCreditDay (body entity : Fields) : Except PyError Json :=
  match body.item "observed_credit_day" with
  | .null => (notesOf entity).get "observed_credit_day"
  | credit => .ok credit

/-- `body.get("attempt_number") or 1`. -/
def failureAttempt (body : Fields) : Json := (body.item "attempt_number").or (.int 1)

def failureSubscriptionId (body entity : Fields) : Json :=
  (entity.item "subscription_id").or (body.item "subscription_id")

def failureMandateId (body entity : Fields) : Json :=
  (entity.item "token_id").or (body.item "mandate_id")

/-- An `Optional[str]` field. -/
def optStr? : Json → Option (Option String)
  | .null => some none
  | .str s => some (some s)
  | _ => none

/-- `PayerContext(observed_credit_day=…, dnd_flag=…)`. -/
def payerContext? (p : Ai.Pydantic) (credit : Json) (dndFlag : Bool) : Option PayerContext :=
  match credit with
  | .null => some { dndFlag }
  | credit =>
      match p.int? credit with
      | some day =>
          if h : 1 ≤ day ∧ day ≤ 28 then
            some { observedCreditDay := some day, dndFlag, creditDay := by simpa using h }
          else none
      | none => none

/-- A `ValidationError` is a `ValueError`. -/
def validated {α : Type} (o : Outside) (title : String) (body : Fields) (a : Option α) :
    Except PyError α :=
  match a with
  | some a => .ok a
  | none => .error (.valueError (o.pydantic.errorText title (.obj body)))

def normaliseRazorpayWebhook (o : Outside) (body : Fields) : Except PyError RiskEvent := do
  let payload := failurePayload body
  let inPayload ← payload.get "payment"
  let entity ← asEntity "webhook missing payment entity" (entityOf (inPayload.or payload))
  let reason ← failureReason body entity
  let code ← failureCode body entity
  let amount ← pyInt o.py (failureAmount body entity)
  let payerRef ← failurePayerRef body entity
  let occurred ← occurredAt o (entity.item "created_at")
  let inNotes ← (notesOf entity).get "mandate_state"
  let credit ← failureCreditDay body entity
  let rail ← railFrom o (entity.item "method") entity
  let attempt ← pyInt o.py (failureAttempt body)
  let payerContext ← validated o "PayerContext" body
    (payerContext? o.pydantic credit (body.item "dnd_flag").truthy)
  validated o "RiskEvent" body do
    let subscriptionId ← optStr? (failureSubscriptionId body entity)
    let mandateId ← optStr? (failureMandateId body entity)
    let paymentRef ← optStr? (entity.item "id")
    if h : 0 ≤ amount ∧ 1 ≤ attempt then
      some
        { eventId := failureEventId o body entity
          source := .razorpayWebhook
          occurredAt := occurred
          merchantId := o.str (failureMerchantId body entity)
          payerRef := o.str payerRef
          subscriptionId
          mandateId
          paymentRef
          amountPaise := amount.toNat
          currency := o.str ((entity.item "currency").or (.str "INR"))
          rail
          rawErrorCode := o.str code
          rawErrorReason := o.str reason
          attemptNumber := attempt.toNat
          mandateState := mandateStateOf o (inNotes.or (body.item "mandate_state"))
          payerContext
          attempted := by omega }
    else none

/-!
## A paid Payment Link
-/

def razorpayEventName (o : Outside) (body : Fields) : String :=
  o.str ((body.item "event").or (.str ""))

/-- `body.get("payload") or {}`. -/
def paidPayload (body : Fields) : Json := (body.item "payload").or (.obj [])

/-- `payload.get("payment_link") or {}`. -/
def linkWrap (body : Fields) : Json :=
  (Fields.item (paidPayload body).fields "payment_link").or (.obj [])

/-- The Payment Link that was paid. -/
def linkEntity (body : Fields) : Json := entityOf (linkWrap body)

/-- The payment next to it, `{}` where the envelope is no dictionary. -/
def paidPayment (payment : Json) : Json :=
  match payment.or (.obj []) with
  | .obj wrap => (Fields.item wrap "entity").or (.obj wrap)
  | _ => .obj []

def plinkIdOf (o : Outside) (body entity : Fields) : String :=
  o.str ((entity.item "id").or ((body.item "payment_link_id").or (.str "")))

/-- The key that a paid link is remembered under. -/
def paidEventId (o : Outside) (body entity : Fields) : String :=
  if (body.item "event_id").truthy then o.str (body.item "event_id")
  else if (entity.item "id").truthy then "evt_plpaid_" ++ o.str (entity.item "id")
  else "evt_plpaid_" ++ o.uuidHex

/-- `str(v)` of what is not `None`. -/
def optText (o : Outside) (v : Json) : Option String :=
  match v with
  | .null => none
  | v => some (o.str v)

def paidAmount (body entity : Fields) (payment : Json) : Except PyError Json :=
  (entity.item "amount_paid").orElse ((entity.item "amount").orElse do
    let inPayment ← payment.get "amount"
    return inPayment.or ((body.item "amount_paise").or (.int 0)))

def paidCurrency (entity : Fields) (payment : Json) : Except PyError Json :=
  (entity.item "currency").orElse do
    let inPayment ← payment.get "currency"
    return inPayment.or (.str "INR")

/-- The id of a Payment Link starts with `plink_`. -/
def demandPlink (plinkId : String) : Except PyError Unit :=
  if startsWith "plink_" plinkId then .ok ()
  else .error (.valueError "payment_link.paid missing plink_ id")

def normalisePaymentLinkPaid (o : Outside) (body : Fields) :
    Except PyError PaymentLinkPaidEvent := do
  let payload := paidPayload body
  let linkInPayload ← payload.get "payment_link"
  let entity ← asEntity "webhook missing payment_link entity"
    (entityOf (linkInPayload.or (.obj [])))
  let paymentInPayload ← payload.get "payment"
  let payment := paidPayment paymentInPayload
  let plinkId := plinkIdOf o body entity
  demandPlink plinkId
  let caseInNotes ← (notesOf entity).get "case_id"
  let amountValue ← paidAmount body entity payment
  let amount ← pyInt o.py amountValue
  let occurred ← occurredAt o ((entity.item "updated_at").or (entity.item "created_at"))
  let idInPayment ← payment.get "id"
  let currency ← paidCurrency entity payment
  validated o "PaymentLinkPaidEvent" body
    (if 0 ≤ amount then
      some
        { eventId := paidEventId o body entity
          paymentLinkId := plinkId
          paymentId := optText o (idInPayment.or (body.item "payment_id"))
          amountPaise := amount.toNat
          currency := o.str currency
          caseId := optText o (caseInNotes.or (body.item "case_id"))
          occurredAt := occurred
          raw := body }
    else none)

end RecoveryAgent.Ingest
