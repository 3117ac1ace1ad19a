import RecoveryAgent.Guard.Stops
import RecoveryAgent.Ledger.Reader

/-!
# Ingest and recovery

`ledger/service.py`: a failed payment opens a case exactly once, and a paid
Payment Link closes it. Both remember the event they have handled.
-/

namespace RecoveryAgent.Ledger

open Library Python Guard

theorem noCreditDay : ∀ d ∈ (none : Option ℤ), 1 ≤ d ∧ d ≤ 28 := nofun

theorem firstAttempt : 1 ≤ 1 := Nat.le_refl 1

/-- Lightweight payer history. -/
structure PayerContext where
  tenureDays : ℤ := 0
  priorFailures : ℤ := 0
  priorRecoveries : ℤ := 0
  observedCreditDay : Option ℤ := none
  preferredLanguage : String := "en"
  dndFlag : Bool := false
  creditDay : ∀ d ∈ observedCreditDay, 1 ≤ d ∧ d ≤ 28 := by exact noCreditDay

/-- One failed payment, normalized. -/
structure RiskEvent where
  eventId : String
  source : EventSource
  occurredAt : DateTime
  merchantId : String
  payerRef : String
  subscriptionId : Option String := none
  mandateId : Option String := none
  paymentRef : Option String := none
  amountPaise : ℕ
  currency : String := "INR"
  rail : Rail
  rawErrorCode : String := ""
  rawErrorReason : String
  attemptNumber : ℕ := 1
  mandateState : Option MandateState := none
  mandateCapPaise : Option ℕ := none
  payerContext : PayerContext := {}
  attempted : 1 ≤ attemptNumber := by exact firstAttempt

structure IngestResult where
  caseId : String
  eventId : String
  duplicate : Bool
  ledgerSeq : Option ℕ := none

structure PaymentLinkPaidEvent where
  eventId : String
  eventName : String := "payment_link.paid"
  paymentLinkId : String
  paymentId : Option String := none
  amountPaise : ℕ := 0
  currency : String := "INR"
  caseId : Option String := none
  occurredAt : DateTime
  raw : Fields := []

structure PaymentLinkPaidResult where
  caseId : String
  eventId : String
  duplicate : Bool
  recovered : Bool
  paymentLinkId : String
  paymentId : Option String := none
  ledgerSeq : Option ℕ := none

def riskEventPayload (event : RiskEvent) : Fields :=
  [("event_id", .str event.eventId),
    ("source", .str event.source.value),
    ("occurred_at", .str event.occurredAt.isoText),
    ("merchant_id", .str event.merchantId),
    ("payer_ref", .str event.payerRef),
    ("subscription_id", .ofOptStr event.subscriptionId),
    ("mandate_id", .ofOptStr event.mandateId),
    ("payment_ref", .ofOptStr event.paymentRef),
    ("amount_paise", .int event.amountPaise),
    ("currency", .str event.currency),
    ("rail", .str event.rail.value),
    ("raw_error_code", .str event.rawErrorCode),
    ("raw_error_reason", .str event.rawErrorReason),
    ("attempt_number", .int event.attemptNumber),
    ("mandate_state", .ofOptStr (event.mandateState.map (·.value))),
    ("mandate_cap_paise", .ofOptNat event.mandateCapPaise),
    ("payer_context", .obj
      [("tenure_days", .int event.payerContext.tenureDays),
        ("prior_failures", .int event.payerContext.priorFailures),
        ("prior_recoveries", .int event.payerContext.priorRecoveries),
        ("observed_credit_day", (event.payerContext.observedCreditDay.map .int).getD .null),
        ("preferred_language", .str event.payerContext.preferredLanguage),
        ("dnd_flag", .bool event.payerContext.dndFlag)])]

def openedCase (newCaseId : String) (event : RiskEvent) : CaseRow where
  id := newCaseId
  payerRef := event.payerRef
  amountPaise := event.amountPaise
  rail := event.rail
  subscriptionId := event.subscriptionId
  mandateId := event.mandateId

namespace Session

def findProcessed (s : Session) (eventId : String) : Option ProcessedEventRow :=
  s.db.processed.get? eventId

/-- `mark_event_processed`. The insertion fails when the event is there. -/
def markEventProcessed (s : Session) (eventId caseId : String) : Except ServiceError Session :=
  match s.db.processed.insert? ⟨eventId, caseId, s.utcnow s.db.ledger.nextSeq⟩ with
  | some processed => .ok { s with db := { s.db with processed } }
  | none => .error (.integrity "processed_events" eventId)

/-- `get_or_create_case_for_event`: a new open case under the id that
`new_case_id` has made up. -/
def getOrCreateCaseForEvent (s : Session) (newCaseId : String) (event : RiskEvent) :
    Except ServiceError (CaseRow × Session) :=
  match s.db.cases.insert? (openedCase newCaseId event) with
  | some cases => .ok (openedCase newCaseId event, { s with db := { s.db with cases } })
  | none => .error (.integrity "cases" newCaseId)

end Session

/-- The row that records a first-seen failure. -/
def ingestFact (caseId : String) (event : RiskEvent) : LedgerFact where
  caseId
  kind := .event
  actor := .system
  payload := riskEventPayload event
  reasonCode := event.rawErrorReason
  policyVersion := "phase1"
  atTime := some event.occurredAt

def ingestRiskEvent (s : Session) (newCaseId : String) (event : RiskEvent) :
    Except ServiceError (IngestResult × Session) :=
  match s.findProcessed event.eventId with
  | some existing => .ok (⟨existing.caseId, event.eventId, true, none⟩, s)
  | none => do
      let (case, s) ← s.getOrCreateCaseForEvent newCaseId event
      let seq := s.db.ledger.nextSeq
      let s := s.appendLedger (ingestFact case.id event)
      let s ← s.markEventProcessed event.eventId case.id
      return (⟨case.id, event.eventId, false, some seq⟩, s)

/-- The row that records the webhook. -/
def paidEventFact (caseId : String) (paid : PaymentLinkPaidEvent) : LedgerFact where
  caseId
  kind := .event
  actor := .system
  payload :=
    [("source", .str "razorpay_webhook"),
      ("razorpay_event", .str paid.eventName),
      ("event_id", .str paid.eventId),
      ("payment_link_id", .str paid.paymentLinkId),
      ("payment_id", .ofOptStr paid.paymentId),
      ("amount_paise", .int paid.amountPaise),
      ("currency", .str paid.currency),
      ("webhook", .obj paid.raw)]
  reasonCode := "payment_link.paid"
  policyVersion := "webhook-paid"
  atTime := some paid.occurredAt

/-- The row that records the payment as an outcome. -/
def paidOutcomeFact (case : CaseRow) (paid : PaymentLinkPaidEvent) : LedgerFact where
  caseId := case.id
  kind := .outcome
  actor := .system
  payload :=
    [("ok", .bool true),
      ("external_id", .str paid.paymentLinkId),
      ("payment_id", .ofOptStr paid.paymentId),
      ("recovered", .bool true),
      ("status", .str "paid"),
      ("note", .str "razorpay_payment_link_paid_webhook"),
      ("amount_paise", .int (if paid.amountPaise = 0 then case.amountPaise else paid.amountPaise)),
      ("webhook_event_id", .str paid.eventId)]
  reasonCode := "payment_link.paid"
  policyVersion := "webhook-paid"
  atTime := some paid.occurredAt

/-- The case a paid link belongs to: the id in its notes, else the case of the
outcome that created the link. -/
def paidCaseId (s : Session) (paid : PaymentLinkPaidEvent) : Option String :=
  match paid.caseId with
  | some caseId => if caseId = "" then findCaseIdByPlink s paid.paymentLinkId else some caseId
  | none => findCaseIdByPlink s paid.paymentLinkId

/-- What `handle_payment_link_paid` does to the case it has found: the webhook is
recorded, and a case that is not recovered yet is stopped as recovered. -/
def closeLoop (s : Session) (case : CaseRow) (paid : PaymentLinkPaidEvent) :
    CaseRow × Session :=
  let s := s.appendLedger (paidEventFact case.id paid)
  if case.status = .recovered then (case, s)
  else applyStop (s.appendLedger (paidOutcomeFact case paid)) case .recovered "webhook-paid"

def handlePaymentLinkPaid (s : Session) (paid : PaymentLinkPaidEvent) :
    Except ServiceError (PaymentLinkPaidResult × Session) :=
  match s.findProcessed paid.eventId with
  | some existing =>
      let recovered : Bool :=
        match s.getCase existing.caseId with
        | some case => case.status = .recovered
        | none => false
      .ok (⟨existing.caseId, paid.eventId, true, recovered, paid.paymentLinkId, paid.paymentId,
        none⟩, s)
  | none =>
      match paidCaseId s paid with
      | none => .error (.noCaseForLink paid.paymentLinkId)
      | some caseId =>
          match s.getCase caseId with
          | none => .error (.caseNotFound caseId)
          | some case => do
              let seq := s.db.ledger.nextSeq
              let (case, s) := closeLoop s case paid
              let s ← s.markEventProcessed paid.eventId case.id
              return (⟨case.id, paid.eventId, false, true, paid.paymentLinkId, paid.paymentId,
                some seq⟩, s)

/-!
## What the services write
-/

/-- What a paid link writes on its case. -/
def paidEffect (case : CaseRow) (paid : PaymentLinkPaidEvent) : Effect :=
  if case.status = .recovered then { case, facts := [paidEventFact case.id paid] }
  else
    { case := stoppedCase case .recovered
      facts := [paidEventFact case.id paid, paidOutcomeFact case paid,
        stopFact case.id .recovered "webhook-paid"] }

theorem paidEffect_id (case : CaseRow) (paid : PaymentLinkPaidEvent) :
    (paidEffect case paid).case.id = case.id := by
  unfold paidEffect
  split <;> rfl

theorem paidEffect_calls (case : CaseRow) (paid : PaymentLinkPaidEvent) :
    (paidEffect case paid).calls = [] := by
  unfold paidEffect
  split <;> rfl

theorem paidEffect_own (case : CaseRow) (paid : PaymentLinkPaidEvent) :
    ∀ f ∈ (paidEffect case paid).facts, f.caseId = case.id := by
  unfold paidEffect
  split
  · simp [paidEventFact]
  · simp [paidEventFact, paidOutcomeFact, stopFact]

theorem paidEffect_kind_ne (case : CaseRow) (paid : PaymentLinkPaidEvent) :
    ∀ f ∈ (paidEffect case paid).facts, f.kind ≠ .action := by
  unfold paidEffect
  split
  · simp [paidEventFact]
  · simp [paidEventFact, paidOutcomeFact, stopFact]

theorem closeLoop_eq {s : Session} {case : CaseRow} (h : s.Holds case)
    (paid : PaymentLinkPaidEvent) :
    closeLoop s case paid = ((paidEffect case paid).case, s.perform (paidEffect case paid)) := by
  have hevent := h.record_eq_perform [paidEventFact case.id paid]
  have hboth := h.record_eq_perform [paidEventFact case.id paid, paidOutcomeFact case paid]
  have hheld : (s.perform ⟨case, [paidEventFact case.id paid, paidOutcomeFact case paid],
      []⟩).Holds case := h.perform rfl
  have hstop := applyStop_eq hheld .recovered "webhook-paid"
  rw [Session.perform_perform] at hstop
  · unfold closeLoop paidEffect
    split
    · exact congrArg (Prod.mk case) hevent
    · rw [← hboth] at hstop
      exact hstop
  · rfl

theorem markEventProcessed_eq {s : Session} {eventId caseId : String}
    {processed : Table ProcessedEventRow}
    (h : s.db.processed.insert? ⟨eventId, caseId, s.utcnow s.db.ledger.nextSeq⟩ =
      some processed) :
    s.markEventProcessed eventId caseId = .ok { s with db := { s.db with processed } } := by
  unfold Session.markEventProcessed
  rw [h]

/-- What `ingest_risk_event` comes to: the event was seen, the made-up id is taken,
or one case is opened with one row and the event is remembered. -/
inductive Ingested (s : Session) (newCaseId : String) (event : RiskEvent) :
    Except ServiceError (IngestResult × Session) → Prop where
  | duplicate {row : ProcessedEventRow} (seen : s.findProcessed event.eventId = some row) :
      Ingested s newCaseId event (.ok (⟨row.caseId, event.eventId, true, none⟩, s))
  | taken (unseen : s.findProcessed event.eventId = none)
      (refused : s.db.cases.insert? (openedCase newCaseId event) = none) :
      Ingested s newCaseId event (.error (.integrity "cases" newCaseId))
  | opened {cases : Table CaseRow} {processed : Table ProcessedEventRow}
      (unseen : s.findProcessed event.eventId = none)
      (inserted : s.db.cases.insert? (openedCase newCaseId event) = some cases)
      (remembered : s.db.processed.insert?
        ⟨event.eventId, newCaseId, s.utcnow (s.db.ledger.nextSeq + 1)⟩ = some processed) :
      Ingested s newCaseId event
        (.ok (⟨newCaseId, event.eventId, false, some s.db.ledger.nextSeq⟩,
          { s with
            db := ⟨cases, (s.record [ingestFact newCaseId event]).db.ledger, processed⟩ }))

theorem ingestRiskEvent_ingested (s : Session) (newCaseId : String) (event : RiskEvent) :
    Ingested s newCaseId event (ingestRiskEvent s newCaseId event) := by
  unfold ingestRiskEvent
  cases hfound : s.findProcessed event.eventId with
  | some row => exact .duplicate hfound
  | none =>
      unfold Session.getOrCreateCaseForEvent
      cases hinsert : s.db.cases.insert? (openedCase newCaseId event) with
      | none => exact .taken hfound hinsert
      | some cases =>
          obtain ⟨processed, hprocessed⟩ := Table.insert?_of_get?_eq_none
            (r := (⟨event.eventId, newCaseId, s.utcnow (s.db.ledger.nextSeq + 1)⟩ :
              ProcessedEventRow)) hfound
          have hmark : ({ s with db := { s.db with cases } }.appendLedger
              (ingestFact newCaseId event)).markEventProcessed event.eventId newCaseId = .ok
                { s with
                  db := ⟨cases, (s.record [ingestFact newCaseId event]).db.ledger, processed⟩ } :=
            markEventProcessed_eq (by rw [← hprocessed, Session.appendLedger_nextSeq]; rfl)
          have hid : (openedCase newCaseId event).id = newCaseId := rfl
          simp only [bind, Except.bind, hid, hmark]
          exact .opened hfound hinsert hprocessed

/-- A successful ingest was a duplicate, or it has opened one case and written
one row. -/
theorem ingestRiskEvent_eq_ok {s t : Session} {newCaseId : String} {event : RiskEvent}
    {result : IngestResult} (h : ingestRiskEvent s newCaseId event = .ok (result, t)) :
    t = s ∨ (s.db.cases.insert? (openedCase newCaseId event) = some t.db.cases ∧
      t.db.ledger = (s.record [ingestFact newCaseId event]).db.ledger ∧
        t.calls = s.calls) := by
  have hingested := ingestRiskEvent_ingested s newCaseId event
  rw [h] at hingested
  cases hingested with
  | duplicate _ => exact Or.inl rfl
  | opened _ inserted _ => exact Or.inr ⟨inserted, rfl, rfl⟩

/-- What `handle_payment_link_paid` comes to: the event was seen, no case is found
for it, or it has written its effect on one case and is remembered. -/
inductive PaidHandled (s : Session) (paid : PaymentLinkPaidEvent) :
    Except ServiceError (PaymentLinkPaidResult × Session) → Prop where
  | duplicate {row : ProcessedEventRow} (seen : s.findProcessed paid.eventId = some row)
      (recovered : Bool) :
      PaidHandled s paid
        (.ok (⟨row.caseId, paid.eventId, true, recovered, paid.paymentLinkId, paid.paymentId,
          none⟩, s))
  | noCaseForLink (unseen : s.findProcessed paid.eventId = none)
      (unresolved : paidCaseId s paid = none) :
      PaidHandled s paid (.error (.noCaseForLink paid.paymentLinkId))
  | caseNotFound {caseId : String} (unseen : s.findProcessed paid.eventId = none)
      (resolved : paidCaseId s paid = some caseId) (absent : s.getCase caseId = none) :
      PaidHandled s paid (.error (.caseNotFound caseId))
  | closed {case : CaseRow} {processed : Table ProcessedEventRow}
      (unseen : s.findProcessed paid.eventId = none)
      (resolved : paidCaseId s paid = some case.id) (held : s.Holds case)
      (remembered : s.db.processed.insert?
        ⟨paid.eventId, case.id,
          s.utcnow (s.perform (paidEffect case paid)).db.ledger.nextSeq⟩ = some processed) :
      PaidHandled s paid
        (.ok (⟨case.id, paid.eventId, false, true, paid.paymentLinkId, paid.paymentId,
            some s.db.ledger.nextSeq⟩,
          { s.perform (paidEffect case paid) with
            db := { (s.perform (paidEffect case paid)).db with processed } }))

theorem handlePaymentLinkPaid_handled (s : Session) (paid : PaymentLinkPaidEvent) :
    PaidHandled s paid (handlePaymentLinkPaid s paid) := by
  unfold handlePaymentLinkPaid
  cases hfound : s.findProcessed paid.eventId with
  | some row => exact .duplicate hfound _
  | none =>
      cases hcaseId : paidCaseId s paid with
      | none => exact .noCaseForLink hfound hcaseId
      | some caseId =>
          cases hcase : s.getCase caseId with
          | none =>
              simp only [hcase]
              exact .caseNotFound hfound hcaseId hcase
          | some case =>
              have hid : case.id = caseId := Table.key_of_get? hcase
              subst hid
              have hheld : s.Holds case := hcase
              obtain ⟨processed, hprocessed⟩ := Table.insert?_of_get?_eq_none
                (r := (⟨paid.eventId, case.id,
                  s.utcnow (s.perform (paidEffect case paid)).db.ledger.nextSeq⟩ :
                    ProcessedEventRow)) hfound
              have hmark : (s.perform (paidEffect case paid)).markEventProcessed paid.eventId
                  case.id = .ok { s.perform (paidEffect case paid) with
                    db := { (s.perform (paidEffect case paid)).db with processed } } :=
                markEventProcessed_eq hprocessed
              simp only [hcase, closeLoop_eq hheld, paidEffect_id, bind, Except.bind, hmark]
              exact .closed hfound hcaseId hheld hprocessed

/-- A successful paid webhook was a duplicate, or it has written its effect on
one case. -/
theorem handlePaymentLinkPaid_eq_ok {s t : Session} {paid : PaymentLinkPaidEvent}
    {result : PaymentLinkPaidResult} (h : handlePaymentLinkPaid s paid = .ok (result, t)) :
    t = s ∨ ∃ case, s.Holds case ∧ paidCaseId s paid = some case.id ∧
      t.db.cases = (s.perform (paidEffect case paid)).db.cases ∧
        t.db.ledger = (s.perform (paidEffect case paid)).db.ledger ∧ t.calls = s.calls := by
  have hhandled := handlePaymentLinkPaid_handled s paid
  rw [h] at hhandled
  cases hhandled with
  | duplicate _ _ => exact Or.inl rfl
  | closed _ resolved held _ =>
      refine Or.inr ⟨_, held, resolved, rfl, rfl, ?_⟩
      exact (congrArg (s.calls ++ ·) (paidEffect_calls _ paid)).trans (List.append_nil _)

end RecoveryAgent.Ledger
