import RecoveryAgent.Runs.Requests

/-!
# Webhooks that are delivered again

Calls of `ingest_risk_event` and `handle_payment_link_paid`, in any order and with
any repetitions. Here a call is followed to its end also where it raises, with the
session as it stands then: nothing is rolled back for it.
-/

namespace RecoveryAgent.Runs

open Library Python Ledger Guard

/-!
## The calls as their callers see them
-/

/-- `ingest_risk_event`, with the session that it leaves. -/
def ingestRiskEventLeaves (s : Session) (newCaseId : String) (event : RiskEvent) :
    Except ServiceError IngestResult × Session :=
  match s.findProcessed event.eventId with
  | some existing => (.ok ⟨existing.caseId, event.eventId, true, none⟩, s)
  | none =>
      match s.getOrCreateCaseForEvent newCaseId event with
      | .error e => (.error e, s)
      | .ok (case, s) =>
          let seq := s.db.ledger.nextSeq
          let s := s.appendLedger (ingestFact case.id event)
          match s.markEventProcessed event.eventId case.id with
          | .error e => (.error e, s)
          | .ok s => (.ok ⟨case.id, event.eventId, false, some seq⟩, s)

/-- `handle_payment_link_paid`, with the session that it leaves. -/
def handlePaymentLinkPaidLeaves (s : Session) (paid : PaymentLinkPaidEvent) :
    Except ServiceError PaymentLinkPaidResult × Session :=
  match s.findProcessed paid.eventId with
  | some existing =>
      let recovered : Bool :=
        match s.getCase existing.caseId with
        | some case => case.status = .recovered
        | none => false
      (.ok ⟨existing.caseId, paid.eventId, true, recovered, paid.paymentLinkId, paid.paymentId,
        none⟩, s)
  | none =>
      match paidCaseId s paid with
      | none => (.error (.noCaseForLink paid.paymentLinkId), s)
      | some caseId =>
          match s.getCase caseId with
          | none => (.error (.caseNotFound caseId), s)
          | some case =>
              let seq := s.db.ledger.nextSeq
              let (case, s) := closeLoop s case paid
              match s.markEventProcessed paid.eventId case.id with
              | .error e => (.error e, s)
              | .ok s =>
                  (.ok ⟨case.id, paid.eventId, false, true, paid.paymentLinkId, paid.paymentId,
                    some seq⟩, s)

/-- What a call that left its session alone when it raised would leave. -/
def atomically {α : Type} (s : Session) (result : Except ServiceError (α × Session)) :
    Except ServiceError α × Session :=
  match result with
  | .ok (a, t) => (.ok a, t)
  | .error e => (.error e, s)

/-- The insertions that may be refused come first, so a failed ingest has written
nothing. -/
theorem ingestRiskEventLeaves_eq (s : Session) (newCaseId : String) (event : RiskEvent) :
    ingestRiskEventLeaves s newCaseId event =
      atomically s (ingestRiskEvent s newCaseId event) := by
  have hingested := ingestRiskEvent_ingested s newCaseId event
  unfold ingestRiskEventLeaves
  unfold ingestRiskEvent at hingested ⊢
  cases hfound : s.findProcessed event.eventId with
  | some row => rfl
  | none =>
      cases hcreate : s.getOrCreateCaseForEvent newCaseId event with
      | error e => rfl
      | ok p =>
          obtain ⟨case, t⟩ := p
          simp only [hfound, hcreate, bind, Except.bind] at hingested ⊢
          cases hmark : (t.appendLedger (ingestFact case.id event)).markEventProcessed
              event.eventId case.id with
          | ok u => rfl
          | error e =>
              simp only [hmark] at hingested
              cases hingested with
              | taken _ refused =>
                  unfold Session.getOrCreateCaseForEvent at hcreate
                  rw [refused] at hcreate
                  cases hcreate

/-- A paid webhook raises before its first write, or not at all. -/
theorem handlePaymentLinkPaidLeaves_eq (s : Session) (paid : PaymentLinkPaidEvent) :
    handlePaymentLinkPaidLeaves s paid = atomically s (handlePaymentLinkPaid s paid) := by
  have hhandled := handlePaymentLinkPaid_handled s paid
  unfold handlePaymentLinkPaidLeaves
  unfold handlePaymentLinkPaid at hhandled ⊢
  cases hfound : s.findProcessed paid.eventId with
  | some row => rfl
  | none =>
      cases hcaseId : paidCaseId s paid with
      | none => rfl
      | some caseId =>
          cases hcase : s.getCase caseId with
          | none =>
              simp only [hcase]
              rfl
          | some case =>
              simp only [hfound, hcaseId, hcase, bind, Except.bind] at hhandled ⊢
              cases hmark : (closeLoop s case paid).2.markEventProcessed paid.eventId
                  (closeLoop s case paid).1.id with
              | ok u => rfl
              | error e =>
                  simp only [hmark] at hhandled
                  cases hhandled with
                  | noCaseForLink _ unresolved => cases hcaseId.symm.trans unresolved
                  | caseNotFound _ resolved absent =>
                      cases hcaseId.symm.trans resolved
                      cases hcase.symm.trans absent

/-!
## Sequences of calls
-/

/-- A call of one of the two services. -/
inductive Call where
  | ingest (newCaseId : String) (event : RiskEvent)
  | paid (event : PaymentLinkPaidEvent)

def Call.eventId : Call → String
  | ingest _ event => event.eventId
  | paid event => event.eventId

/-- What a call that returns has to say. -/
structure Answer where
  caseId : String
  duplicate : Bool
  deriving DecidableEq, Repr

/-- One call on the database: the tables it leaves, and what it returns or raises. -/
def deliver (utcnow : ℕ → DateTime) (db : Db) (call : Call) :
    Db × List (Except ServiceError Answer) :=
  match call with
  | .ingest newCaseId event =>
      let (result, s) := ingestRiskEventLeaves (openSession utcnow db) newCaseId event
      (s.db, [result.map fun r => ⟨r.caseId, r.duplicate⟩])
  | .paid event =>
      let (result, s) := handlePaymentLinkPaidLeaves (openSession utcnow db) event
      (s.db, [result.map fun r => ⟨r.caseId, r.duplicate⟩])

/-- The tables after a sequence of calls. -/
abbrev delivered (utcnow : ℕ → DateTime) (db : Db) (calls : List Call) : Db :=
  Run.final (deliver utcnow) db calls

/-- What one call can do. -/
inductive Delivered (db : Db) (call : Call) : Except ServiceError Answer → Db → Prop where
  | duplicate {row : ProcessedEventRow} (seen : db.processed.get? call.eventId = some row) :
      Delivered db call (.ok ⟨row.caseId, true⟩) db
  | raised (unseen : db.processed.get? call.eventId = none) (e : ServiceError) :
      Delivered db call (.error e) db
  | opened {case : CaseRow} {row : ProcessedEventRow} {event : LedgerColumns} {db' : Db}
      (eventId : row.eventId = call.eventId) (caseId : row.caseId = case.id)
      (inserted : db.cases.insert? case = some db'.cases)
      (remembered : db.processed.insert? row = some db'.processed)
      (kind : event.kind = .event) (written : db'.history = db.history ++ [event]) :
      Delivered db call (.ok ⟨case.id, false⟩) db'
  | closed {case : CaseRow} {row : ProcessedEventRow} {paid : PaymentLinkPaidEvent} {db' : Db}
      (eventId : row.eventId = call.eventId) (caseId : row.caseId = case.id)
      (held : db.cases.get? case.id = some case)
      (updated : db'.cases = db.cases.set (paidEffect case paid).case)
      (remembered : db.processed.insert? row = some db'.processed)
      (written : db'.history =
        db.history ++ (paidEffect case paid).facts.map (·.toLedgerColumns)) :
      Delivered db call (.ok ⟨case.id, false⟩) db'

theorem deliver_delivered (utcnow : ℕ → DateTime) (db : Db) (call : Call) :
    ∃ answer, (deliver utcnow db call).2 = [answer] ∧
      Delivered db call answer (deliver utcnow db call).1 := by
  cases call with
  | ingest newCaseId event =>
      have hingested := ingestRiskEvent_ingested (openSession utcnow db) newCaseId event
      simp only [deliver, ingestRiskEventLeaves_eq]
      refine ⟨_, rfl, ?_⟩
      cases hresult : ingestRiskEvent (openSession utcnow db) newCaseId event with
      | error e =>
          rw [hresult] at hingested
          cases hingested with
          | taken unseen _ =>
              have hunseen :
                  db.processed.get? (Call.ingest newCaseId event).eventId = none := unseen
              exact .raised hunseen _
      | ok p =>
          rw [hresult] at hingested
          cases hingested with
          | duplicate seen => exact .duplicate seen
          | @opened cases processed _ inserted remembered =>
              have hkind : (ingestFact newCaseId event).kind = .event := rfl
              have hwritten := Session.record_history (openSession utcnow db)
                [ingestFact newCaseId event]
              have hopened : Delivered db (.ingest newCaseId event)
                  (.ok ⟨(openedCase newCaseId event).id, false⟩)
                  ⟨cases, ((openSession utcnow db).record [ingestFact newCaseId event]).db.ledger,
                    processed⟩ :=
                .opened rfl rfl inserted remembered hkind hwritten
              exact hopened
  | paid event =>
      have hhandled := handlePaymentLinkPaid_handled (openSession utcnow db) event
      have hcall : (Call.paid event).eventId = event.eventId := rfl
      simp only [deliver, handlePaymentLinkPaidLeaves_eq]
      refine ⟨_, rfl, ?_⟩
      cases hresult : handlePaymentLinkPaid (openSession utcnow db) event with
      | error e =>
          rw [hresult] at hhandled
          cases hhandled with
          | noCaseForLink unseen _ => exact .raised (hcall ▸ unseen) _
          | caseNotFound unseen _ _ => exact .raised (hcall ▸ unseen) _
      | ok p =>
          rw [hresult] at hhandled
          cases hhandled with
          | duplicate seen recovered => exact .duplicate seen
          | closed _ _ held remembered =>
              refine .closed rfl rfl held rfl remembered ?_
              exact Session.perform_history (openSession utcnow db) _

/-!
## What every sequence keeps
-/

section

variable {utcnow : ℕ → DateTime} {db db' : Db} {call : Call}
  {answer : Except ServiceError Answer}

/-- A call whose event was seen changes nothing and names the case on record. -/
theorem deliver_of_seen {row : ProcessedEventRow}
    (hseen : db.processed.get? call.eventId = some row) :
    deliver utcnow db call = (db, [.ok ⟨row.caseId, true⟩]) := by
  obtain ⟨answer, hanswer, hdelivered⟩ := deliver_delivered utcnow db call
  have htaken : ∀ {row' : ProcessedEventRow} {processed : Table ProcessedEventRow},
      row'.eventId = call.eventId → db.processed.insert? row' ≠ some processed := by
    intro row' processed heventId hinsert
    have hfree : db.processed.get? row'.eventId = none := (Table.insert?_eq_some hinsert).1
    rw [heventId, hseen] at hfree
    cases hfree
  have hboth : (deliver utcnow db call).1 = db ∧ answer = .ok ⟨row.caseId, true⟩ := by
    generalize (deliver utcnow db call).1 = db' at hdelivered
    cases hdelivered with
    | duplicate seen =>
        cases hseen.symm.trans seen
        exact ⟨rfl, rfl⟩
    | raised unseen _ => cases hseen.symm.trans unseen
    | opened eventId _ _ remembered _ _ => exact absurd remembered (htaken eventId)
    | closed eventId _ _ _ remembered _ => exact absurd remembered (htaken eventId)
  rw [← hboth.2, ← hanswer]
  exact Prod.ext hboth.1 rfl

/-- A call that returns leaves its event on record under the case it names. -/
theorem Delivered.on_record (h : Delivered db call answer db') {a : Answer}
    (hanswer : answer = .ok a) :
    ∃ row, db'.processed.get? call.eventId = some row ∧ row.caseId = a.caseId := by
  cases h with
  | duplicate seen =>
      cases hanswer
      exact ⟨_, seen, rfl⟩
  | raised _ _ => cases hanswer
  | opened eventId caseId _ remembered _ _ =>
      cases hanswer
      rw [← eventId]
      exact ⟨_, Table.get?_insert?_self remembered, caseId⟩
  | closed eventId caseId _ _ remembered _ =>
      cases hanswer
      rw [← eventId]
      exact ⟨_, Table.get?_insert?_self remembered, caseId⟩

theorem Delivered.keeps_record (h : Delivered db call answer db') {eventId : String}
    {row : ProcessedEventRow} (hrow : db.processed.get? eventId = some row) :
    db'.processed.get? eventId = some row := by
  have hkept : ∀ {new : ProcessedEventRow}, db.processed.insert? new = some db'.processed →
      db'.processed.get? eventId = some row := by
    intro new hinsert
    have hfree : db.processed.get? new.eventId = none := (Table.insert?_eq_some hinsert).1
    have hne : eventId ≠ new.eventId := by
      rintro rfl
      cases hrow.symm.trans hfree
    rw [Table.get?_insert?_of_ne hinsert hne, hrow]
  cases h with
  | duplicate _ => exact hrow
  | raised _ _ => exact hrow
  | opened _ _ _ remembered _ _ => exact hkept remembered
  | closed _ _ _ _ remembered _ => exact hkept remembered

/-- A stored case stays stored, and once recovered it stays recovered. -/
theorem Delivered.keeps_case (h : Delivered db call answer db') {caseId : String}
    {case : CaseRow} (hcase : db.cases.get? caseId = some case) :
    ∃ case', db'.cases.get? caseId = some case' ∧
      (case.status = .recovered → case'.status = .recovered) := by
  cases h with
  | duplicate _ => exact ⟨case, hcase, id⟩
  | raised _ _ => exact ⟨case, hcase, id⟩
  | @opened new _ _ _ _ _ inserted _ _ _ =>
      have hne : caseId ≠ new.id := by
        rintro rfl
        cases hcase.symm.trans (Table.insert?_eq_some inserted).1
      exact ⟨case, by rw [Table.get?_insert?_of_ne inserted hne, hcase], id⟩
  | @closed stored _ paid _ _ _ held updated _ _ =>
      have hkey : (Keyed.key (paidEffect stored paid).case : String) = stored.id :=
        paidEffect_id stored paid
      rw [updated]
      by_cases hsame : caseId = stored.id
      · subst hsame
        cases hcase.symm.trans held
        refine ⟨(paidEffect case paid).case, ?_, ?_⟩
        · have hstored : db.cases.get? (Keyed.key (paidEffect case paid).case) = some case := by
            rw [hkey, held]
          rw [← hkey]
          exact Table.get?_set_self hstored
        · intro hrecovered
          rw [paidEffect, if_pos hrecovered]
          exact hrecovered
      · refine ⟨case, ?_, id⟩
        rw [Table.get?_set_of_ne db.cases (hkey ▸ hsame), hcase]

/-- The case is one that the event is on record for. -/
def BoundTo (db : Db) (eventId : String) (case : CaseRow) : Prop :=
  case ∈ db.cases.rows ∧ ∃ row ∈ db.processed.rows, row.eventId = eventId ∧ row.caseId = case.id

/-- Every event on record has its case. -/
def Bound (db : Db) : Prop :=
  ∀ eventId row, db.processed.get? eventId = some row → ∃ case, db.cases.get? row.caseId = some case

/-- An event on record is bound to one case and no other. -/
theorem Bound.existsUnique (h : Bound db) {eventId : String} {row : ProcessedEventRow}
    (hrow : db.processed.get? eventId = some row) : ∃! case, BoundTo db eventId case := by
  obtain ⟨case, hcase⟩ := h eventId row hrow
  have hid : case.id = row.caseId := Table.key_of_get? hcase
  have hkey : row.eventId = eventId := Table.key_of_get? hrow
  refine ⟨case, ⟨List.mem_of_find?_eq_some hcase, row, List.mem_of_find?_eq_some hrow, hkey,
    hid.symm⟩, ?_⟩
  rintro other ⟨hmem, row', hrow', hevent', hother⟩
  have hfound : db.processed.get? row'.eventId = some row' := Table.get?_of_mem hrow'
  rw [hevent', hrow] at hfound
  cases hfound
  have hget : db.cases.get? other.id = some other := Table.get?_of_mem hmem
  rw [← hother, hcase] at hget
  exact (Option.some.inj hget).symm

theorem Delivered.bound (h : Delivered db call answer db') (hbound : Bound db) : Bound db' := by
  intro eventId row hrow
  by_cases hold : db.processed.get? eventId = some row
  · obtain ⟨case, hcase⟩ := hbound eventId row hold
    obtain ⟨case', hcase', -⟩ := h.keeps_case hcase
    exact ⟨case', hcase'⟩
  · have hnew : ∀ {new : ProcessedEventRow}, db.processed.insert? new = some db'.processed →
        row = new := by
      intro new hinsert
      by_cases hsame : eventId = new.eventId
      · have hself : db'.processed.get? new.eventId = some new := Table.get?_insert?_self hinsert
        rw [← hsame, hrow] at hself
        exact Option.some.inj hself
      · rw [Table.get?_insert?_of_ne hinsert hsame] at hrow
        exact absurd hrow hold
    cases h with
    | duplicate _ => exact absurd hrow hold
    | raised _ _ => exact absurd hrow hold
    | opened _ caseId inserted remembered _ _ =>
        rw [hnew remembered, caseId]
        exact ⟨_, Table.get?_insert?_self inserted⟩
    | closed eventId' caseId held updated remembered written =>
        have hall := Delivered.closed eventId' caseId held updated remembered written
        obtain ⟨case', hcase', -⟩ := hall.keeps_case held
        rw [hnew remembered, caseId]
        exact ⟨case', hcase'⟩

/-!
## One recovery for each case
-/

def stopsRecovered (caseId : String) (e : LedgerColumns) : Bool :=
  e.caseId = caseId && e.kind = .stop && e.reasonCode = "recovered"

/-- An outcome of the case that a paid link has written. -/
def tellsPaid (caseId : String) (e : LedgerColumns) : Bool :=
  e.caseId = caseId && e.kind = .outcome && e.reasonCode = "payment_link.paid"

/-- A paid link writes one recovery on a case that is not recovered yet, and none
elsewhere. -/
theorem paidEffect_recoveries (case : CaseRow) (paid : PaymentLinkPaidEvent) (caseId : String) :
    ((paidEffect case paid).facts.map (·.toLedgerColumns)).countP (stopsRecovered caseId) =
        (if case.id = caseId ∧ case.status ≠ .recovered then 1 else 0) ∧
      ((paidEffect case paid).facts.map (·.toLedgerColumns)).countP (tellsPaid caseId) =
        (if case.id = caseId ∧ case.status ≠ .recovered then 1 else 0) := by
  unfold paidEffect
  by_cases hrecovered : case.status = .recovered
  · simp [hrecovered, stopsRecovered, tellsPaid, paidEventFact]
  · by_cases hid : case.id = caseId
    · simp [hrecovered, hid, stopsRecovered, tellsPaid, paidEventFact, paidOutcomeFact,
        stopFact, StopReason.value]
    · simp [hrecovered, hid, stopsRecovered, tellsPaid, paidEventFact, paidOutcomeFact,
        stopFact]

/-- What the rows written since `db` tell of the recoveries. -/
structure Acquired (db d : Db) (rows : List LedgerColumns) : Prop where
  history : d.history = db.history ++ rows
  once : ∀ caseId, rows.countP (stopsRecovered caseId) ≤ 1
  paired : ∀ caseId, rows.countP (tellsPaid caseId) = rows.countP (stopsRecovered caseId)
  told : ∀ caseId, 0 < rows.countP (stopsRecovered caseId) →
    ∃ case, d.cases.get? caseId = some case ∧ case.status = .recovered

theorem acquired_start (db : Db) : Acquired db db [] where
  history := (List.append_nil _).symm
  once := by simp
  paired := by simp
  told := by simp

theorem Delivered.acquired {d : Db} {rows : List LedgerColumns} (hrows : Acquired d db rows)
    (h : Delivered db call answer db') : ∃ rows', Acquired d db' rows' := by
  have htold : ∀ caseId, 0 < rows.countP (stopsRecovered caseId) →
      ∃ case, db'.cases.get? caseId = some case ∧ case.status = .recovered := by
    intro caseId hpos
    obtain ⟨case, hcase, hrecovered⟩ := hrows.told caseId hpos
    obtain ⟨case', hcase', hkept⟩ := h.keeps_case hcase
    exact ⟨case', hcase', hkept hrecovered⟩
  cases h with
  | duplicate _ => exact ⟨rows, hrows⟩
  | raised _ _ => exact ⟨rows, hrows⟩
  | @opened _ _ event _ _ _ _ _ kind written =>
      have hstop : ∀ caseId, [event].countP (stopsRecovered caseId) = 0 := by
        intro caseId
        simp [stopsRecovered, kind]
      have houtcome : ∀ caseId, [event].countP (tellsPaid caseId) = 0 := by
        intro caseId
        simp [tellsPaid, kind]
      refine ⟨rows ++ [event], ?_, ?_, ?_, ?_⟩
      · rw [written, hrows.history, List.append_assoc]
      · intro caseId
        rw [List.countP_append, hstop]
        exact hrows.once caseId
      · intro caseId
        rw [List.countP_append, List.countP_append, hstop, houtcome, hrows.paired]
      · intro caseId hpos
        rw [List.countP_append, hstop] at hpos
        exact htold caseId hpos
  | @closed stored _ paid _ _ _ held updated _ written =>
      have hfresh : stored.status ≠ .recovered →
          rows.countP (stopsRecovered stored.id) = 0 := by
        intro hopen
        by_contra hpos
        obtain ⟨case, hcase, hrecovered⟩ := hrows.told stored.id (Nat.pos_of_ne_zero hpos)
        cases held.symm.trans hcase
        exact hopen hrecovered
      refine ⟨rows ++ (paidEffect stored paid).facts.map (·.toLedgerColumns), ?_, ?_, ?_, ?_⟩
      · rw [written, hrows.history, List.append_assoc]
      · intro k
        rw [List.countP_append, (paidEffect_recoveries stored paid k).1]
        split
        · next hnew =>
            obtain ⟨rfl, hopen⟩ := hnew
            rw [hfresh hopen]
        · exact hrows.once k
      · intro k
        obtain ⟨hstop, houtcome⟩ := paidEffect_recoveries stored paid k
        rw [List.countP_append, List.countP_append, hstop, houtcome, hrows.paired]
      · intro k hpos
        rw [List.countP_append, (paidEffect_recoveries stored paid k).1] at hpos
        by_cases hnew : stored.id = k ∧ stored.status ≠ .recovered
        · obtain ⟨rfl, hopen⟩ := hnew
          have hkey : (Keyed.key (paidEffect stored paid).case : String) = stored.id :=
            paidEffect_id stored paid
          have hstored : db.cases.get? (Keyed.key (paidEffect stored paid).case) = some stored := by
            rw [hkey, held]
          refine ⟨(paidEffect stored paid).case, ?_, ?_⟩
          · rw [updated, ← hkey]
            exact Table.get?_set_self hstored
          · rw [paidEffect, if_neg hopen]
            rfl
        · rw [if_neg hnew] at hpos
          exact htold k hpos

end

/-!
## The runs
-/

/-- A fact that every call keeps holds after every sequence. -/
theorem delivered_of_kept {utcnow : ℕ → DateTime} (Inv : Db → Prop)
    (hkept : ∀ {db db' : Db} {call : Call} {answer : Except ServiceError Answer},
      Delivered db call answer db' → Inv db → Inv db') {db : Db} (hdb : Inv db)
    (calls : List Call) : Inv (delivered utcnow db calls) := by
  apply Run.final_of_step (deliver utcnow) _ hdb
  intro d call hd
  obtain ⟨answer, -, hdelivered⟩ := deliver_delivered utcnow d call
  exact hkept hdelivered hd

/-- After every sequence of calls: an event on record is answered with the case on
record, and nothing changes; an event that was answered once is answered with the
same case for ever; every event on record is bound to exactly one case; no case has
got two recovered stops or two paid outcomes; and a paid webhook that raises leaves
the tables as they were. -/
theorem redelivery_changes_nothing (utcnow : ℕ → DateTime) (db : Db) (hbound : Bound db)
    (calls : List Call) :
    (∀ again row, (delivered utcnow db calls).processed.get? again.eventId = some row →
      deliver utcnow (delivered utcnow db calls) again =
        (delivered utcnow db calls, [.ok ⟨row.caseId, true⟩])) ∧
    (∀ before call after a, calls = before ++ call :: after →
      (deliver utcnow (delivered utcnow db before) call).2 = [.ok a] →
        ∀ again : Call, again.eventId = call.eventId →
          deliver utcnow (delivered utcnow db calls) again =
            (delivered utcnow db calls, [.ok ⟨a.caseId, true⟩])) ∧
    (∀ eventId row, (delivered utcnow db calls).processed.get? eventId = some row →
      ∃! case, BoundTo (delivered utcnow db calls) eventId case) ∧
    (∃ rows, (delivered utcnow db calls).history = db.history ++ rows ∧ ∀ caseId,
      rows.countP (stopsRecovered caseId) ≤ 1 ∧ rows.countP (tellsPaid caseId) ≤ 1) ∧
    (∀ paid e, (handlePaymentLinkPaidLeaves
        (openSession utcnow (delivered utcnow db calls)) paid).1 = .error e →
      (handlePaymentLinkPaidLeaves (openSession utcnow (delivered utcnow db calls)) paid).2.db =
        delivered utcnow db calls) := by
  refine ⟨fun _ _ hrow => deliver_of_seen hrow, ?_, ?_, ?_, ?_⟩
  · rintro before call after a rfl hanswer again hsame
    obtain ⟨answer, hcall, hdelivered⟩ :=
      deliver_delivered utcnow (delivered utcnow db before) call
    rw [hanswer] at hcall
    obtain ⟨row, hrow, hcase⟩ := hdelivered.on_record (List.singleton_inj.1 hcall).symm
    have hfinal : delivered utcnow db (before ++ call :: after) =
        delivered utcnow (deliver utcnow (delivered utcnow db before) call).1 after := by
      rw [delivered, Run.final_append, Run.final_cons]
    have hkept : (delivered utcnow db (before ++ call :: after)).processed.get? again.eventId =
        some row := by
      rw [hfinal]
      exact delivered_of_kept (fun d => d.processed.get? again.eventId = some row)
        (fun h hold => h.keeps_record hold) (hsame ▸ hrow) after
    rw [deliver_of_seen hkept, hcase]
  · intro eventId row hrow
    have hall : Bound (delivered utcnow db calls) :=
      delivered_of_kept Bound (fun h hold => h.bound hold) hbound calls
    exact hall.existsUnique hrow
  · have hall : ∃ rows, Acquired db (delivered utcnow db calls) rows := by
      refine delivered_of_kept (fun d => ∃ rows, Acquired db d rows) ?_
        ⟨[], acquired_start db⟩ calls
      rintro d d' call answer hdelivered ⟨rows, hrows⟩
      exact hdelivered.acquired hrows
    obtain ⟨rows, hrows⟩ := hall
    refine ⟨rows, hrows.history, fun caseId => ⟨hrows.once caseId, ?_⟩⟩
    rw [hrows.paired]
    exact hrows.once caseId
  · intro paid e hraised
    rw [handlePaymentLinkPaidLeaves_eq] at hraised ⊢
    cases hresult : handlePaymentLinkPaid (openSession utcnow (delivered utcnow db calls)) paid with
    | ok p =>
        rw [hresult] at hraised
        cases hraised
    | error f => rfl

/-- A webhook that says that the link of a case is paid. -/
def paidNotice (eventId : String) : PaymentLinkPaidEvent where
  eventId
  paymentLinkId := "plink_1"
  caseId := some "case_1"
  occurredAt := daytime

/-- Two notices of one payment, one of them delivered twice, recover the case
once. -/
theorem redelivery_changes_nothing_two_notices :
    ∃ rows, (delivered (fun _ => daytime) Db.empty
        [.ingest "case_1" cardEvent, .paid (paidNotice "evt_paid_1"),
          .paid (paidNotice "evt_paid_2"), .paid (paidNotice "evt_paid_1")]).history = rows ∧
      rows.countP (stopsRecovered "case_1") = 1 := by
  have hbound : Bound Db.empty := by
    intro eventId row hrow
    cases hrow
  obtain ⟨-, -, -, ⟨rows, hrows, hcounts⟩, -⟩ := redelivery_changes_nothing (fun _ => daytime)
    Db.empty hbound [.ingest "case_1" cardEvent, .paid (paidNotice "evt_paid_1"),
      .paid (paidNotice "evt_paid_2"), .paid (paidNotice "evt_paid_1")]
  have hempty : Db.empty.history = [] := rfl
  rw [hempty, List.nil_append] at hrows
  refine ⟨rows, hrows, Nat.le_antisymm (hcounts "case_1").1 ?_⟩
  rw [← hrows]
  decide

end RecoveryAgent.Runs
