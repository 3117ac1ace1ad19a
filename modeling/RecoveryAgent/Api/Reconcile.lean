import RecoveryAgent.Api.RoutesExecute
import RecoveryAgent.Execute.Razorpay
import RecoveryAgent.Runs.Opening

/-!
# Retries of payments that went through

Before a retry the executor asks Razorpay about the payment that the request names. The
reference that came in with the failure stays in the `event` row, and the route does not
look it up: a request that names no payment is retried without a question.
-/

namespace RecoveryAgent.Api

open Library Python Policy Ledger Guard Execute Runs

/-- The note of a retry that goes ahead. -/
def intentNote : String := "retry_intent_recorded_after_reconcile"

/-- A retry intent is on record for the case. -/
def IntentWritten (caseId : String) (db : Db) : Prop :=
  ∃ e ∈ db.trail caseId, e.kind = .outcome ∧ e.payload.get? "note" = some (.str intentNote)

/-- Razorpay reports that the payment went through, or fails to answer. -/
def Settles (r : RazorpayExecutor) (payId : String) : Prop :=
  ∀ payment, r.getPayment payId = .ok payment → alreadySucceeded payment = true

/-- A retry of a given case in mode razorpay, with usable keys and without dry run. -/
structure RazorpayRetry (caseId : String) where
  env : Environment
  req : ExecuteRunRequest
  razorpay : RazorpayExecutor
  given : req.given = some caseId
  verb : req.verb = .scheduleRetry
  mode : req.mode = "razorpay"
  executor : env.getExecutor "razorpay" = razorpay.run
  live : razorpay.dryRun = false
  keys : razorpay.keyId ≠ "" ∧ razorpay.keySecret ≠ ""

namespace RazorpayRetry

variable {caseId : String}

/-- The request names a payment that Razorpay settles. -/
def Reconciled (request : RazorpayRetry caseId) : Prop :=
  ∃ payId, request.req.paymentRef = some payId ∧ payId ≠ "" ∧ Settles request.razorpay payId

def LetsThrough (utcnow : ℕ → DateTime) (db : Db) (request : RazorpayRetry caseId) : Prop :=
  ∃ now action case, request.req.clock request.env = .ok now ∧ request.req.action = .ok action ∧
    db.cases.get? caseId = some case ∧
      LetThrough (openSession utcnow db) case (request.req.context now action case)

/-- One request as a step over the database. -/
def step (utcnow : ℕ → DateTime) (db : Db) (request : RazorpayRetry caseId) :
    Db × List ExecutorCall :=
  executeRunStep utcnow db (request.env, request.req)

/-- A retry goes ahead unless it is reconciled. -/
theorem note_run_iff (request : RazorpayRetry caseId) {action : Action}
    (haction : action.verb = .scheduleRetry) (case : CaseRow) {execMeta : ExecuteMeta}
    (hmeta : execMeta.paymentRef = request.req.paymentRef) :
    (request.razorpay.run action case execMeta).note = intentNote ↔ ¬request.Reconciled := by
  have hrun : request.razorpay.run action case execMeta =
      request.razorpay.retryWithReconcile action case execMeta := by
    unfold RazorpayExecutor.run
    rw [haction]
  have hkey : request.razorpay.hasTestKey = false := (Bool.or_eq_false_iff.1 request.live).2
  have hfetch : ∀ payId, request.razorpay.fetchPayment payId =
      request.razorpay.getPayment payId := by
    intro payId
    rw [RazorpayExecutor.fetchPayment, if_neg (by simp [request.keys, hkey])]
  rw [hrun, RazorpayExecutor.retryWithReconcile]
  unfold Reconciled
  rw [← hmeta]
  by_cases hpay : execMeta.paymentRef.getD "" = ""
  · rw [if_pos (Or.inl hpay)]
    refine iff_of_true rfl ?_
    rintro ⟨payId, hsome, hne, -⟩
    rw [hsome] at hpay
    exact hne hpay
  · obtain ⟨payId, hsome⟩ : ∃ payId, execMeta.paymentRef = some payId := by
      cases hnone : execMeta.paymentRef with
      | none => exact absurd (by rw [hnone]; rfl) hpay
      | some payId => exact ⟨payId, rfl⟩
    have hreconciled : (∃ payId', execMeta.paymentRef = some payId' ∧ payId' ≠ "" ∧
        Settles request.razorpay payId') ↔ Settles request.razorpay payId := by
      rw [hsome] at hpay ⊢
      constructor
      · rintro ⟨payId', hsame, -, hsettles⟩
        rw [Option.some.inj hsame]
        exact hsettles
      · exact fun hsettles => ⟨payId, rfl, hpay, hsettles⟩
    rw [if_neg (by simp [hpay, request.live]), hreconciled, hsome, Option.getD_some, hfetch]
    unfold Settles
    cases hreply : request.razorpay.getPayment payId with
    | error text =>
        refine iff_of_false (fun hnote => ?_) (not_not.2 nofun)
        have hchars := congrArg String.toList hnote
        rw [String.toList_append] at hchars
        exact absurd (List.cons.inj (List.cons.inj (List.cons.inj hchars).2).2).1 (by decide)
    | ok payment =>
        cases hsucceeded : alreadySucceeded payment with
        | true => simp [hsucceeded, intentNote]
        | false => simp [hsucceeded, intentNote]

/-- One request puts an intent on record exactly when it comes through unreconciled. -/
theorem intentWritten_step_iff (utcnow : ℕ → DateTime) (db : Db)
    (request : RazorpayRetry caseId) :
    IntentWritten caseId (request.step utcnow db).1 ↔
      IntentWritten caseId db ∨ (request.LetsThrough utcnow db ∧ ¬request.Reconciled) := by
  by_cases hvalid : ∃ now action, request.req.clock request.env = .ok now ∧
      request.req.action = .ok action
  · obtain ⟨now, action, hclock, haction⟩ := hvalid
    have hlets : request.LetsThrough utcnow db ↔ ∃ case, db.cases.get? caseId = some case ∧
        LetThrough (openSession utcnow db) case (request.req.context now action case) := by
      unfold LetsThrough
      simp only [hclock, haction, Except.ok.injEq]
      constructor
      · rintro ⟨_, _, case, rfl, rfl, hlet⟩
        exact ⟨case, hlet⟩
      · rintro ⟨case, hlet⟩
        exact ⟨now, action, case, rfl, rfl, hlet⟩
    rw [hlets, step, executeRunStep_of_valid utcnow db request.given hclock haction]
    cases hcase : db.cases.get? caseId with
    | none =>
        rw [executeStep_of_none utcnow _ hcase]
        simp
    | some case =>
        obtain ⟨e, -, hverdict, hown, hstep, -⟩ := executeStep_of_stored utcnow
          (request.req.call request.env now action) hcase
        have hwritten := verdict_outcome_iff hverdict
          fun payload => payload.get? "note" = some (.str intentNote)
        have hnote : (request.razorpay.run action (reopened case)
            (request.req.execMeta case)).note = intentNote ↔ ¬request.Reconciled :=
          request.note_run_iff (by rw [ExecuteRunRequest.action_verb haction, request.verb])
            (reopened case) rfl
        have hout : ∀ out : Outcome,
            out.modelDump.get? "note" = some (.str intentNote) ↔ out.note = intentNote := by
          intro out
          change some (Json.str out.note) = _ ↔ _
          simp
        have hexecutor : (request.req.call request.env now action).executor =
            request.razorpay.run := by
          rw [ExecuteRunRequest.call, request.mode, request.executor]
        rw [hstep, IntentWritten, Session.exists_trail_perform _ hown, hwritten, hout, hexecutor]
        simp only [Option.some_inj, exists_eq_left']
        rw [← hnote]
        rfl
  · have hstep : request.step utcnow db = (db, []) := by
      apply executeRunStep_of_invalid utcnow db request.given
      intro now action hclock haction
      exact hvalid ⟨now, action, hclock, haction⟩
    rw [hstep]
    refine (or_iff_left ?_).symm
    rintro ⟨⟨now, action, -, hclock, haction, -⟩, -⟩
    exact hvalid ⟨now, action, hclock, haction⟩

end RazorpayRetry

/-- A failure that nobody has seen opens its case with one `event` row. -/
theorem trail_of_ingest (utcnow : ℕ → DateTime) {db : Db} {newCaseId : String} {event : RiskEvent}
    (hfresh : Untouched db newCaseId) (hunseen : db.processed.get? event.eventId = none) :
    (serve utcnow db (.ingest newCaseId event)).1.trail newCaseId =
      [(ingestFact newCaseId event).toLedgerColumns] := by
  have hopened := ingestRiskEvent_ingested (openSession utcnow db) newCaseId event
  simp only [serve]
  generalize ingestRiskEvent (openSession utcnow db) newCaseId event = result at hopened
  cases hopened with
  | duplicate seen =>
      have hseen : db.processed.get? event.eventId = _ := seen
      rw [hunseen] at hseen
      cases hseen
  | taken _ refused =>
      obtain ⟨cases, hcases⟩ := Table.insert?_of_get?_eq_none
        (r := openedCase newCaseId event) hfresh.1
      have hrefused : db.cases.insert? (openedCase newCaseId event) = none := refused
      rw [hcases] at hrefused
      cases hrefused
  | opened _ _ _ =>
      have hold : db.trail newCaseId = [] :=
        List.filter_eq_nil_iff.2 fun e he hid => hfresh.2 e he (of_decide_eq_true hid)
      have hown : ∀ f ∈ [ingestFact newCaseId event], f.caseId = newCaseId :=
        List.forall_mem_singleton.2 rfl
      have htrail : ((openSession utcnow db).perform ⟨openedCase newCaseId event,
          [ingestFact newCaseId event], []⟩).db.trail newCaseId = _ :=
        (openSession utcnow db).perform_trail hown
      have hsession : (openSession utcnow db).db.trail newCaseId = [] := hold
      rw [hsession, List.nil_append] at htrail
      exact htrail

/-- A case is opened for a failure with the payment `P`, and is then retried. Its `event`
row has `P`. No intent is put on record exactly when every request that comes through names
a payment that Razorpay settles; so none is when all the requests name `P` and Razorpay
settles it. -/
theorem retries_reconciled_iff (utcnow : ℕ → DateTime) {db : Db} {newCaseId P : String}
    {event : RiskEvent} (hfresh : Untouched db newCaseId)
    (hunseen : db.processed.get? event.eventId = none) (href : event.paymentRef = some P)
    (requests : List (RazorpayRetry newCaseId)) :
    let opened := (serve utcnow db (.ingest newCaseId event)).1
    (∃ e, opened.trail newCaseId = [e] ∧ e.kind = .event ∧
        e.payload.get? "payment_ref" = some (.str P)) ∧
      (¬IntentWritten newCaseId (Run.final (RazorpayRetry.step utcnow) opened requests) ↔
        Run.along (RazorpayRetry.step utcnow)
          (fun db request => request.LetsThrough utcnow db → request.Reconciled) opened requests) ∧
      (P ≠ "" → (∀ request ∈ requests, request.req.paymentRef = some P ∧
          Settles request.razorpay P) →
        ¬IntentWritten newCaseId (Run.final (RazorpayRetry.step utcnow) opened requests)) := by
  intro opened
  have htrail : opened.trail newCaseId = _ := trail_of_ingest utcnow hfresh hunseen
  have hstart : ¬IntentWritten newCaseId opened := by
    rintro ⟨e, he, hkind, -⟩
    rw [htrail, List.mem_singleton] at he
    rw [he] at hkind
    cases hkind
  have hrun : ¬IntentWritten newCaseId (Run.final (RazorpayRetry.step utcnow) opened requests) ↔
      Run.along (RazorpayRetry.step utcnow)
        (fun db request => request.LetsThrough utcnow db → request.Reconciled)
        opened requests := by
    rw [Run.not_final_iff_along _ (RazorpayRetry.intentWritten_step_iff utcnow),
      and_iff_right hstart]
    simp only [not_and, not_not]
  refine ⟨⟨_, htrail, rfl, ?_⟩, hrun, ?_⟩
  · change some (Json.ofOptStr event.paymentRef) = _
    rw [href]
    rfl
  · intro hP hnamed
    rw [hrun]
    apply Run.along_of_along _ (Run.along_of_forall_mem _ opened hnamed) hnamed
    rintro _ request ⟨hname, hsettles⟩ - -
    exact ⟨P, hname, hP, hsettles⟩

/-- Razorpay has captured every payment it is asked about. -/
def captured : RazorpayExecutor where
  keyId := "rzp_test_key"
  keySecret := "secret"
  newHex := "0123456789"
  getPayment := fun payId => .ok [("id", .str payId), ("status", .str "captured")]
  postPaymentLink := fun _ => .raised "not called"

theorem captured_settles (payId : String) : Settles captured payId := by
  rintro payment ⟨⟩
  have hstatus : fieldText [("id", .str payId), ("status", .str "captured")] "status" "" =
      "captured" := rfl
  rw [alreadySucceeded, hstatus]
  decide

/-- A retry of the case by a client that sends this reference. -/
def retryNaming (paymentRef : Option String) : RazorpayRetry "case_1" where
  env :=
    { fromisoformat := fun _ => none
      now := daytime
      newEventId := "exec_1"
      newCaseId := "case_2"
      getExecutor := fun _ => captured.run }
  req := { mode := "razorpay", paymentRef, caseId := some "case_1" }
  razorpay := captured
  given := rfl
  verb := rfl
  mode := rfl
  executor := rfl
  live := by decide
  keys := by decide

/-- A failed payment with its reference. -/
def referencedEvent : RiskEvent := { cardEvent with paymentRef := some "pay_1" }

theorem retries_reconciled_iff_naming :
    ¬IntentWritten "case_1" (Run.final (RazorpayRetry.step fun _ => daytime)
      (serve (fun _ => daytime) Db.empty (.ingest "case_1" referencedEvent)).1
      [retryNaming (some "pay_1")]) := by
  have hnamed : ∀ request ∈ [retryNaming (some "pay_1")],
      request.req.paymentRef = some "pay_1" ∧ Settles request.razorpay "pay_1" :=
    List.forall_mem_singleton.2 ⟨rfl, captured_settles "pay_1"⟩
  have hfresh : Untouched Db.empty "case_1" := ⟨rfl, nofun⟩
  have hunseen : Db.empty.processed.get? referencedEvent.eventId = none := rfl
  have href : referencedEvent.paymentRef = some "pay_1" := rfl
  exact (retries_reconciled_iff (fun _ => daytime) hfresh hunseen href
    [retryNaming (some "pay_1")]).2.2 (by decide) hnamed

/-- The payment was captured, and the retry of a client that leaves its reference out goes
ahead. -/
theorem captured_payment_retried :
    Settles captured "pay_1" ∧
      IntentWritten "case_1" (Run.final (RazorpayRetry.step fun _ => daytime)
        (serve (fun _ => daytime) Db.empty (.ingest "case_1" referencedEvent)).1
        [retryNaming none]) := by
  refine ⟨captured_settles "pay_1", ?_⟩
  apply (RazorpayRetry.intentWritten_step_iff _ _ (retryNaming none)).2
  refine Or.inr ⟨⟨daytime, _, openedCase "case_1" referencedEvent, rfl, rfl, rfl,
    ⟨rfl, rfl, by decide, by decide⟩⟩, ?_⟩
  rintro ⟨payId, hname, -⟩
  cases hname

end RecoveryAgent.Api
