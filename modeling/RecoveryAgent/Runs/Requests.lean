import RecoveryAgent.Execute.Service
import RecoveryAgent.Ledger.Service
import RecoveryAgent.Library.Run

/-!
# The system of requests

The services as one machine over the database. A request opens a session, works
on the case it has loaded, and commits; a request that raises is rolled back.
Only the database is kept between two requests. The context of a guarded
request is built from the row it has loaded.
-/

namespace RecoveryAgent.Runs

open Library Python Policy Ledger Guard Execute

def openSession (utcnow : ℕ → DateTime) (db : Db) : Session := { db, utcnow }

/-- A request that goes through the guard pipeline, with an `execute_fn` that
conducts itself well. -/
structure GuardedRequest where
  caseId : String
  ctx : CaseRow → GuardContext
  executeFn : CaseRow → Option ExecuteFn
  conduct : CaseRow → Option (Action → CaseRow → Conduct)
  conducted : ∀ case, Conducted (executeFn case) (conduct case)
  policyVersion : String
  audit : Fields

namespace GuardedRequest

def run (r : GuardedRequest) (s : Session) (case : CaseRow) : Except PyError GuardRun :=
  guardAndMaybeExecute s case (r.ctx case) (r.executeFn case) r.policyVersion r.audit

def effect (r : GuardedRequest) (s : Session) (case : CaseRow) : Effect :=
  guardEffect s case (r.ctx case) (r.conduct case) r.policyVersion r.audit

/-- `guard_and_maybe_execute` with nothing to execute. -/
def check (caseId : String) (ctx : CaseRow → GuardContext) (policyVersion : String)
    (audit : Fields) : GuardedRequest where
  caseId
  ctx
  executeFn := fun _ => none
  conduct := fun _ => none
  conducted := fun _ => .none
  policyVersion
  audit

/-- `guard_and_maybe_execute` with an `execute_fn` that only returns a
dictionary. -/
def guard (caseId : String) (ctx : CaseRow → GuardContext)
    (backend : Action → CaseRow → Fields) (policyVersion : String) (audit : Fields) :
    GuardedRequest where
  caseId
  ctx
  executeFn := fun _ => some (ExecuteFn.ofBackend backend)
  conduct := fun _ => some fun action case => ⟨backend action case, case, []⟩
  conducted := fun _ => .some (ExecuteFn.ofBackend_conducts backend)
  policyVersion
  audit

/-- `execute_with_guards`. -/
def execute (caseId : String) (ctx : CaseRow → GuardContext) (executor : Executor)
    (execMeta : CaseRow → ExecuteMeta) (policyVersion : String) : GuardedRequest where
  caseId
  ctx
  executeFn := fun case => some (exec executor (execMeta case) policyVersion)
  conduct := fun case => some (execConduct executor (execMeta case) policyVersion)
  conducted := fun case => .some (exec_conducts executor (execMeta case) policyVersion)
  policyVersion
  audit := []

theorem execute_run (caseId : String) (ctx : CaseRow → GuardContext) (executor : Executor)
    (execMeta : CaseRow → ExecuteMeta) (policyVersion : String) (s : Session) (case : CaseRow) :
    (executeWithGuards s case (ctx case) executor (some (execMeta case)) policyVersion).map
        Prod.fst =
      (execute caseId ctx executor execMeta policyVersion).run s case := by
  rw [executeWithGuards_eq, run, guardAndMaybeExecute_eq]
  change _ = if (ctx case).raisesOn case then _ else _
  split
  · rfl
  · rfl

/-- A request that raises is rolled back, and its effect is none. -/
theorem run_eq (r : GuardedRequest) (utcnow : ℕ → DateTime) {db : Db} {case : CaseRow}
    (h : (openSession utcnow db).Holds case) :
    (match r.run (openSession utcnow db) case with
      | .ok run => (run.session.db, run.session.calls)
      | .error _ => (db, [])) =
      (((openSession utcnow db).perform (r.effect (openSession utcnow db) case)).db,
        (r.effect (openSession utcnow db) case).calls) := by
  have hsession : (guardRun (openSession utcnow db) case (r.ctx case) (r.executeFn case)
      r.policyVersion r.audit).session = _ := (guardRun_eq (r.conducted case) h).1
  have hcalls : (guardRun (openSession utcnow db) case (r.ctx case) (r.executeFn case)
      r.policyVersion r.audit).session.calls =
        (r.effect (openSession utcnow db) case).calls := by
    rw [hsession, Session.perform_calls]
    exact List.nil_append _
  rw [effect, ← hsession, ← effect, ← hcalls, run]
  cases hrun : guardAndMaybeExecute (openSession utcnow db) case (r.ctx case) (r.executeFn case)
      r.policyVersion r.audit with
  | ok run => simp only [guardRun, hrun]
  | error e =>
      simp only [guardRun, hrun]
      rfl

end GuardedRequest

inductive Request where
  | ingest (newCaseId : String) (event : RiskEvent)
  | guarded (r : GuardedRequest)
  | paid (event : PaymentLinkPaidEvent)

/-- One request: the database it commits and the executor calls it makes. -/
def serve (utcnow : ℕ → DateTime) (db : Db) : Request → Db × List ExecutorCall
  | .ingest newCaseId event =>
      match ingestRiskEvent (openSession utcnow db) newCaseId event with
      | .ok (_, s) => (s.db, s.calls)
      | .error _ => (db, [])
  | .guarded r =>
      match (openSession utcnow db).getCase r.caseId with
      | some case =>
          match r.run (openSession utcnow db) case with
          | .ok run => (run.session.db, run.session.calls)
          | .error _ => (db, [])
      | none => (db, [])
  | .paid event =>
      match handlePaymentLinkPaid (openSession utcnow db) event with
      | .ok (_, s) => (s.db, s.calls)
      | .error _ => (db, [])

theorem holds_of_get? (utcnow : ℕ → DateTime) {db : Db} {caseId : String} {case : CaseRow}
    (h : db.cases.get? caseId = some case) :
    case.id = caseId ∧ (openSession utcnow db).Holds case := by
  have hid : case.id = caseId := Table.key_of_get? h
  refine ⟨hid, ?_⟩
  rw [Session.Holds, hid]
  exact h

/-- A guarded request on a stored case performs its effect. -/
theorem serve_guarded (utcnow : ℕ → DateTime) {db : Db} {r : GuardedRequest} {case : CaseRow}
    (h : db.cases.get? r.caseId = some case) :
    serve utcnow db (.guarded r) =
      (((openSession utcnow db).perform (r.effect (openSession utcnow db) case)).db,
        (r.effect (openSession utcnow db) case).calls) := by
  have hload : (openSession utcnow db).getCase r.caseId = some case := h
  simp only [serve, hload]
  exact r.run_eq utcnow (holds_of_get? utcnow h).2

/-- What one request can do. -/
inductive Served (utcnow : ℕ → DateTime) (db : Db) : Request → Db → List ExecutorCall → Prop where
  | idle (request : Request) : Served utcnow db request db []
  | opened {newCaseId : String} {event : RiskEvent} {db' : Db}
      (cases : db.cases.insert? (openedCase newCaseId event) = some db'.cases)
      (ledger : db'.ledger =
        ((openSession utcnow db).perform ⟨openedCase newCaseId event,
          [ingestFact newCaseId event], []⟩).db.ledger) :
      Served utcnow db (.ingest newCaseId event) db' []
  | guarded {r : GuardedRequest} {case : CaseRow} {e : Effect} {db' : Db}
      {made : List ExecutorCall} (id : case.id = r.caseId)
      (held : (openSession utcnow db).Holds case)
      (verdict : Verdict (openSession utcnow db) case (r.ctx case) (r.conduct case)
        r.policyVersion r.audit e)
      (performed : db' = ((openSession utcnow db).perform e).db) (calls : made = e.calls) :
      Served utcnow db (.guarded r) db' made
  | closed {event : PaymentLinkPaidEvent} {case : CaseRow} {db' : Db}
      (held : (openSession utcnow db).Holds case)
      (cases : db'.cases = ((openSession utcnow db).perform (paidEffect case event)).db.cases)
      (ledger : db'.ledger = ((openSession utcnow db).perform (paidEffect case event)).db.ledger) :
      Served utcnow db (.paid event) db' []

/-- A request does one of these things. -/
theorem serve_served (utcnow : ℕ → DateTime) (db : Db) (request : Request) :
    Served utcnow db request (serve utcnow db request).1 (serve utcnow db request).2 := by
  cases request with
  | ingest newCaseId event =>
      simp only [serve]
      split
      · next result s h =>
          rcases ingestRiskEvent_eq_ok h with rfl | ⟨hcases, hledger, hcalls⟩
          · exact .idle _
          · rw [hcalls]
            exact .opened hcases hledger
      · exact .idle _
  | guarded r =>
      simp only [serve]
      split
      · next case hcase =>
          have hload : db.cases.get? r.caseId = some case := hcase
          obtain ⟨hid, hheld⟩ := holds_of_get? utcnow hload
          rw [r.run_eq utcnow hheld]
          exact .guarded hid hheld (guardEffect_verdict ..) rfl rfl
      · exact .idle _
  | paid event =>
      simp only [serve]
      split
      · next result s h =>
          rcases handlePaymentLinkPaid_eq_ok h with rfl | ⟨case, hheld, -, hcases, hledger, hcalls⟩
          · exact .idle _
          · rw [hcalls]
            exact .closed hheld hcases hledger
      · exact .idle _

/-- The database after a list of requests. -/
abbrev after (utcnow : ℕ → DateTime) (db : Db) (requests : List Request) : Db :=
  Run.final (serve utcnow) db requests

/-- The executor calls of a list of requests, in order. -/
abbrev callsOf (utcnow : ℕ → DateTime) (db : Db) (requests : List Request) :
    List ExecutorCall :=
  Run.emitted (serve utcnow) db requests

/-- A case as it was just opened. -/
def freshCase : CaseRow where
  id := "case_1"
  payerRef := "payer_demo"
  amountPaise := 49900
  rail := .card

/-- The database that holds only that case. -/
def freshDb : Db := Db.single freshCase

/-- A retry of that case by an executor that does not recover it. -/
def retryRequest : GuardedRequest :=
  .execute "case_1"
    (fun case => { caseId := case.id, action := { verb := .scheduleRetry }, now := daytime })
    (fun _ _ _ => { ok := true }) (fun case => { seed := case.id }) "phase7"

/-- A retry by an executor that recovers the case. -/
def recoveringRequest : GuardedRequest :=
  .execute "case_1"
    (fun case => { caseId := case.id, action := { verb := .scheduleRetry }, now := daytime })
    (fun _ _ _ => { ok := true, recovered := true }) (fun case => { seed := case.id }) "phase7"

/-- A failed card payment. -/
def cardEvent : RiskEvent where
  eventId := "evt_1"
  source := .simulator
  occurredAt := daytime
  merchantId := "merch_demo"
  payerRef := "payer_demo"
  amountPaise := 49900
  rail := .card
  rawErrorReason := "insufficient_funds"

end RecoveryAgent.Runs
