import RecoveryAgent.Ingest.Faults
import RecoveryAgent.Ingest.Verify
import RecoveryAgent.Python.Encoding
import RecoveryAgent.Runs.Requests

/-!
# POST /webhooks/razorpay

`api/routes_webhooks.py`: the route checks the signature, reads the body as JSON,
normalises it by its event name, and calls one of the two services. Only what the two
inner `try` blocks catch becomes an answer of the route; whatever else is raised
leaves it, and its session is closed without a commit.
-/

namespace RecoveryAgent.Api

open Library Python Ledger Ingest Runs

/-- What one request finds outside the program. `loads` is `json.loads`, without a
value where it raises `JSONDecodeError`. -/
structure WebhookEnvironment where
  signature : SignatureSettings
  outside : Outside
  utf8 : Utf8
  loads : String → Option Json
  newCaseId : String
  utcnow : ℕ → DateTime

structure WebhookRequest where
  raw : ByteArray
  signature : Option String

/-- Why the route does not return. -/
inductive WebhookError where
  | http (status : ℕ) (detail : String)
  | raised (e : PyError)
  | service (e : ServiceError)

/-- What the client gets. -/
inductive WebhookAnswer where
  | returned (body : Fields)
  | rejected (status : ℕ) (detail : String)
  | escaped (e : WebhookError)

def WebhookError.fault : WebhookError → Fault
  | http _ _ => .caught
  | _ => .escaped

abbrev routeFault {α : Type} (x : Except WebhookError α) : Option Fault :=
  Library.fault WebhookError.fault x

/-- Outside of every `try`. -/
def raising {α : Type} (x : Except PyError α) : Except WebhookError α := x.mapError .raised

/-- `except ValueError as exc: raise HTTPException(400, str(exc))`. -/
def translated {α : Type} (x : Except PyError α) : Except WebhookError α :=
  x.mapError fun e =>
    match e with
    | .valueError text => .http 400 text
    | e => .raised e

/-- `body.get`, which only a dictionary has. -/
def demandDict (v : Json) : Except PyError Fields :=
  match v with
  | .obj d => .ok d
  | _ => .error .attributeError

/-- `json.loads(raw.decode("utf-8") or "{}")` behind the signature check. -/
def readBody (env : WebhookEnvironment) (req : WebhookRequest) : Except WebhookError Json := do
  let genuine ← raising (verifyRazorpaySignature env.signature req.raw req.signature)
  if genuine then
    match String.fromUTF8? req.raw with
    | none => .error (.raised .unicodeDecodeError)
    | some text =>
        match env.loads (if text = "" then "\x7b\x7d" else text) with
        | none => .error (.http 400 "invalid JSON")
        | some v => .ok v
  else .error (.http 401 "invalid webhook signature")

/-- The first amount that does not fit into an `INTEGER`. -/
def storableAmount : ℕ := 2 ^ 63

/-- The columns that a new event fills can be bound: their texts have an encoding, and the
amount fits. -/
def storable (utf8 : Utf8) (event : RiskEvent) : Bool :=
  utf8.encodes event.payerRef && decide (event.amountPaise < storableAmount) &&
    utf8.encodesOpt event.subscriptionId && utf8.encodesOpt event.mandateId &&
      utf8.encodes event.rawErrorReason

def bindAmount (amountPaise : ℕ) : Except PyError Unit :=
  if amountPaise < storableAmount then .ok () else .error .overflowError

/-- The driver binds the columns of a new case and of its first row. The other texts of the
event are written as JSON, in which a lone surrogate is escaped. -/
def bindColumns (utf8 : Utf8) (event : RiskEvent) : Except PyError Unit := do
  utf8.encode event.payerRef
  bindAmount event.amountPaise
  utf8.encodeOpt event.subscriptionId
  utf8.encodeOpt event.mandateId
  utf8.encode event.rawErrorReason

/-- The driver binds the key of an event, and the columns that a new event fills. -/
def bindRiskEvent (utf8 : Utf8) (s : Session) (event : RiskEvent) : Except PyError Unit := do
  utf8.encode event.eventId
  if s.findProcessed event.eventId = none then bindColumns utf8 event

/-- `ingest_risk_event` on the driver's side of the session. What cannot be bound raises. -/
def storeRiskEvent (utf8 : Utf8) (s : Session) (newCaseId : String) (event : RiskEvent) :
    Except WebhookError (IngestResult × Session) := do
  raising (bindRiskEvent utf8 s event)
  (ingestRiskEvent s newCaseId event).mapError .service

/-- The driver binds the key of a paid event, and the case that a new event names. -/
def bindPaid (utf8 : Utf8) (s : Session) (paid : PaymentLinkPaidEvent) : Except PyError Unit := do
  utf8.encode paid.eventId
  if s.findProcessed paid.eventId = none then utf8.encodeOpt paid.caseId

/-- `handle_payment_link_paid` on the driver's side of the session. -/
def storePaid (utf8 : Utf8) (s : Session) (paid : PaymentLinkPaidEvent) :
    Except WebhookError (PaymentLinkPaidResult × Session) := do
  raising (bindPaid utf8 s paid)
  (handlePaymentLinkPaid s paid).mapError .service

def paidBody (eventName : String) (result : PaymentLinkPaidResult) : Fields :=
  [("ok", .bool true),
    ("event", .str eventName),
    ("case_id", .str result.caseId),
    ("event_id", .str result.eventId),
    ("duplicate", .bool result.duplicate),
    ("recovered", .bool result.recovered),
    ("payment_link_id", .str result.paymentLinkId),
    ("payment_id", .ofOptStr result.paymentId),
    ("ledger_seq", .ofOptNat result.ledgerSeq)]

def ingestBody (eventName : String) (result : IngestResult) : Fields :=
  [("ok", .bool true),
    ("event", .str (if eventName = "" then "payment.failed" else eventName)),
    ("case_id", .str result.caseId),
    ("event_id", .str result.eventId),
    ("duplicate", .bool result.duplicate),
    ("ledger_seq", .ofOptNat result.ledgerSeq)]

/-- The branch for a paid Payment Link. -/
def paidRoute (env : WebhookEnvironment) (body : Fields) (s : Session) :
    Except WebhookError (Fields × Session) := do
  let paid ← translated (normalisePaymentLinkPaid env.outside body)
  let (result, s) ← storePaid env.utf8 s paid
  return (paidBody (razorpayEventName env.outside body) result, s)

/-- The branch for every other event. -/
def failureRoute (env : WebhookEnvironment) (body : Fields) (s : Session) :
    Except WebhookError (Fields × Session) := do
  let event ← translated (normaliseRazorpayWebhook env.outside body)
  let (result, s) ← storeRiskEvent env.utf8 s env.newCaseId event
  return (ingestBody (razorpayEventName env.outside body) result, s)

/-- `razorpay_webhook`, up to the commit. -/
def razorpayWebhook (env : WebhookEnvironment) (req : WebhookRequest) (s : Session) :
    Except WebhookError (Fields × Session) := do
  let v ← readBody env req
  let body ← raising (demandDict v)
  if razorpayEventName env.outside body = "payment_link.paid" then paidRoute env body s
  else failureRoute env body s

/-- One delivery: the answer and the tables that it leaves. Without a return nothing
is committed. -/
def postRazorpay (env : WebhookEnvironment) (req : WebhookRequest) (db : Db) :
    WebhookAnswer × Db :=
  match razorpayWebhook env req (openSession env.utcnow db) with
  | .ok (body, s) => (.returned body, s.db)
  | .error (.http status detail) => (.rejected status detail, db)
  | .error e => (.escaped e, db)

/-!
## What is stored
-/

theorem faultOf_bindAmount (amountPaise : ℕ) :
    faultOf (bindAmount amountPaise) =
      faultIf (!decide (amountPaise < storableAmount)) .escaped := by
  unfold bindAmount
  split
  · next h =>
      rw [decide_eq_true h]
      rfl
  · next h =>
      rw [decide_eq_false h]
      rfl

theorem faultOf_bindColumns (utf8 : Utf8) (event : RiskEvent) :
    faultOf (bindColumns utf8 event) = faultIf (!storable utf8 event) .escaped := by
  unfold storable
  simp only [Bool.and_assoc]
  refine fault_bind_faultIf (utf8.faultOf_encode _) fun _ => ?_
  refine fault_bind_faultIf (faultOf_bindAmount _) fun _ => ?_
  refine fault_bind_faultIf (utf8.faultOf_encodeOpt _) fun _ => ?_
  exact fault_bind_faultIf (utf8.faultOf_encodeOpt _) fun _ => utf8.faultOf_encode _

/-- A new event is bound when its columns are, and a duplicate when its key is. -/
theorem faultOf_bindRiskEvent (utf8 : Utf8) (s : Session) (event : RiskEvent) :
    faultOf (bindRiskEvent utf8 s event) =
      faultIf (!(utf8.encodes event.eventId &&
        ((s.findProcessed event.eventId).isSome || storable utf8 event))) .escaped := by
  refine fault_bind_faultIf (utf8.faultOf_encode _) fun _ => ?_
  cases s.findProcessed event.eventId with
  | none => exact faultOf_bindColumns utf8 event
  | some row => rfl

section

variable {utf8 : Utf8} {s t : Session} {newCaseId : String} {event : RiskEvent}
  {result : IngestResult}

/-- What can be bound goes to the service. -/
theorem storeRiskEvent_of_bound (newCaseId : String) (hkey : utf8.encodes event.eventId = true)
    (hbound : (s.findProcessed event.eventId).isSome = true ∨ storable utf8 event = true) :
    storeRiskEvent utf8 s newCaseId event =
      (ingestRiskEvent s newCaseId event).mapError .service := by
  have hfault := faultOf_bindRiskEvent utf8 s event
  rw [hkey, Bool.or_eq_true_iff.2 hbound] at hfault
  obtain ⟨u, hu⟩ := fault_eq_none_iff.1 hfault
  rw [storeRiskEvent, hu]
  rfl

theorem ingested_of_stored (h : storeRiskEvent utf8 s newCaseId event = .ok (result, t)) :
    ingestRiskEvent s newCaseId event = .ok (result, t) := by
  obtain ⟨u, -, h⟩ := bind_eq_ok h
  exact mapError_eq_ok_iff.1 h

end

theorem storable_scalar (event : RiskEvent) :
    storable .scalar event = decide (event.amountPaise < storableAmount) := by
  simp [storable]

theorem faultOf_bindPaid (utf8 : Utf8) (s : Session) (paid : PaymentLinkPaidEvent) :
    faultOf (bindPaid utf8 s paid) = faultIf (!(utf8.encodes paid.eventId &&
      ((s.findProcessed paid.eventId).isSome || utf8.encodesOpt paid.caseId))) .escaped := by
  refine fault_bind_faultIf (utf8.faultOf_encode _) fun _ => ?_
  cases s.findProcessed paid.eventId with
  | none => exact utf8.faultOf_encodeOpt _
  | some row => rfl

/-- What can be bound goes to the service. -/
theorem storePaid_of_bound {utf8 : Utf8} {s : Session} {paid : PaymentLinkPaidEvent}
    (hkey : utf8.encodes paid.eventId = true) (hnamed : utf8.encodesOpt paid.caseId = true) :
    storePaid utf8 s paid = (handlePaymentLinkPaid s paid).mapError .service := by
  have hfault := faultOf_bindPaid utf8 s paid
  rw [hkey, hnamed, Bool.or_true] at hfault
  obtain ⟨u, hu⟩ := fault_eq_none_iff.1 hfault
  rw [storePaid, hu]
  rfl

theorem handled_of_stored {utf8 : Utf8} {s t : Session} {paid : PaymentLinkPaidEvent}
    {result : PaymentLinkPaidResult} (h : storePaid utf8 s paid = .ok (result, t)) :
    handlePaymentLinkPaid s paid = .ok (result, t) := by
  obtain ⟨u, -, h⟩ := bind_eq_ok h
  exact mapError_eq_ok_iff.1 h

/-!
## What is read
-/

/-- The request passes the signature check and carries this JSON. -/
structure Reads (env : WebhookEnvironment) (req : WebhookRequest) (v : Json) : Prop where
  genuine : verifyRazorpaySignature env.signature req.raw req.signature = .ok true
  parsed : ∃ text, String.fromUTF8? req.raw = some text ∧
    env.loads (if text = "" then "\x7b\x7d" else text) = some v

variable {env : WebhookEnvironment} {req : WebhookRequest}

theorem readBody_eq_ok_iff {v : Json} : readBody env req = .ok v ↔ Reads env req v := by
  constructor
  · intro h
    obtain ⟨genuine, hverify, h⟩ := bind_eq_ok h
    cases genuine with
    | false => cases h
    | true =>
        simp only [if_true] at h
        split at h
        · cases h
        · next text htext =>
            split at h
            · cases h
            · next w hw =>
                cases h
                exact ⟨mapError_eq_ok_iff.1 hverify, text, htext, hw⟩
  · rintro ⟨hgenuine, text, htext, hloads⟩
    simp only [readBody, hgenuine, htext, hloads]
    rfl

theorem routeFault_translated {α : Type} (x : Except PyError α) :
    routeFault (translated x) = faultOf x := by
  cases x with
  | ok a => rfl
  | error e => cases e <;> rfl

/-- Where no body is read, an exception leaves the route exactly when the signature
cannot be compared or the bytes are no text. -/
theorem routeFault_readBody :
    routeFault (readBody env req) = some .escaped ↔
      Incomparable env.signature req.signature ∨
        (verifyRazorpaySignature env.signature req.raw req.signature = .ok true ∧
          String.fromUTF8? req.raw = none) := by
  have hfault := faultOf_verify env.signature req.raw req.signature
  unfold readBody
  cases hcheck : verifyRazorpaySignature env.signature req.raw req.signature with
  | error e =>
      rw [hcheck] at hfault
      have hincomparable := (faultIf_eq_some_iff.1 hfault.symm).1
      exact iff_of_true rfl (Or.inl hincomparable)
  | ok genuine =>
      rw [hcheck] at hfault
      have hcomparable := faultIf_eq_none_iff.1 hfault.symm
      cases genuine with
      | false =>
          refine iff_of_false nofun ?_
          rintro (hincomparable | ⟨htrue, -⟩)
          · exact hcomparable hincomparable
          · cases htrue
      | true =>
          cases htext : String.fromUTF8? req.raw with
          | none => exact iff_of_true rfl (Or.inr ⟨rfl, rfl⟩)
          | some text =>
              refine iff_of_false ?_ ?_
              · simp only [raising, Except.mapError, bind, Except.bind, if_true]
                split <;> nofun
              · rintro (hincomparable | ⟨-, hnone⟩)
                · exact hcomparable hincomparable
                · cases hnone

end RecoveryAgent.Api
