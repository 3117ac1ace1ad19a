import RecoveryAgent.Library.Transaction
import RecoveryAgent.Runs.Requests

/-!
# A guarded request and a paid link at the same time

Each request is a transaction that loads the case row once, decides from that
copy, and on commit writes the columns it has changed, with no version check.
While a guarded request holds its copy the webhook may commit the case as
recovered; whether the recovery survives depends on what the guard decides from
the copy.
-/

namespace RecoveryAgent.Runs

open Library Python Policy Ledger Guard Execute Transaction

/-- The row after a commit: a column is written if the transaction has changed
it. -/
def writtenRow (loaded mine stored : CaseRow) : CaseRow where
  id := stored.id
  status := column loaded.status mine.status stored.status
  failureClass := column loaded.failureClass mine.failureClass stored.failureClass
  score := column loaded.score mine.score stored.score
  attemptsUsed := column loaded.attemptsUsed mine.attemptsUsed stored.attemptsUsed
  contactsUsed := column loaded.contactsUsed mine.contactsUsed stored.contactsUsed
  stopReason := column loaded.stopReason mine.stopReason stored.stopReason
  lastAction := column loaded.lastAction mine.lastAction stored.lastAction
  payerRef := column loaded.payerRef mine.payerRef stored.payerRef
  amountPaise := column loaded.amountPaise mine.amountPaise stored.amountPaise
  rail := column loaded.rail mine.rail stored.rail
  subscriptionId := column loaded.subscriptionId mine.subscriptionId stored.subscriptionId
  mandateId := column loaded.mandateId mine.mandateId stored.mandateId

/-- What a transaction has to commit. -/
structure Write where
  effect : Effect
  processed : Option ProcessedEventRow := none

/-- The database as a session sees it that has loaded the copy. -/
def view (db : Db) (copy : CaseRow) : Db := { db with cases := db.cases.set copy }

def writtenCases (db : Db) (loaded mine : CaseRow) : Table CaseRow :=
  match db.cases.get? loaded.id with
  | some stored => db.cases.set (writtenRow loaded mine stored)
  | none => db.cases

/-- The commit: the changed columns of the case, the appended rows, and the
processed event. It is rolled back when the event is there already. -/
def commitWrite (utcnow : ℕ → DateTime) (db : Db) (loaded : CaseRow) (w : Write) : Db :=
  let cases := writtenCases db loaded w.effect.case
  let ledger := ((openSession utcnow db).record w.effect.facts).db.ledger
  match w.processed with
  | none => { db with cases, ledger }
  | some row =>
      match db.processed.insert? row with
      | some processed => { cases, ledger, processed }
      | none => db

/-- A request that goes through the guard pipeline. -/
def guardScript (utcnow : ℕ → DateTime) (r : GuardedRequest) : Script Db CaseRow Write where
  load := fun db => (openSession utcnow db).getCase r.caseId
  decide := fun db copy => { effect := r.effect (openSession utcnow (view db copy)) copy }
  commit := commitWrite utcnow

/-- `handle_payment_link_paid`. -/
def webhookScript (utcnow : ℕ → DateTime) (paid : PaymentLinkPaidEvent) :
    Script Db CaseRow Write where
  load := fun db =>
    match (openSession utcnow db).findProcessed paid.eventId with
    | some _ => none
    | none => (paidCaseId (openSession utcnow db) paid).bind (openSession utcnow db).getCase
  decide := fun db copy =>
    let s := (openSession utcnow (view db copy)).perform (paidEffect copy paid)
    { effect := paidEffect copy paid
      processed := some ⟨paid.eventId, copy.id, s.utcnow s.db.ledger.nextSeq⟩ }
  commit := commitWrite utcnow

inductive Party where
  | guard
  | webhook
  deriving DecidableEq, Repr

def script (utcnow : ℕ → DateTime) (r : GuardedRequest) (paid : PaymentLinkPaidEvent) :
    Party → Script Db CaseRow Write
  | .guard => guardScript utcnow r
  | .webhook => webhookScript utcnow paid

/-- The two transactions after some of their steps. -/
abbrev interleaved (utcnow : ℕ → DateTime) (r : GuardedRequest) (paid : PaymentLinkPaidEvent)
    (db : Db) (order : List Party) : Shared Party Db CaseRow Write :=
  Run.final (step (script utcnow r paid)) (start db) order

def committedStatus (db : Db) (caseId : String) : Option CaseStatus :=
  (db.cases.get? caseId).map (·.status)

/-- A recovery that the webhook commits is still there at the end. -/
def RecoveryKept (utcnow : ℕ → DateTime) (r : GuardedRequest) (paid : PaymentLinkPaidEvent)
    (db : Db) (order : List Party) : Prop :=
  ∀ pre post, order = pre ++ .webhook :: post →
    ((interleaved utcnow r paid db pre).phase .webhook).isDecided = true →
    committedStatus (interleaved utcnow r paid db (pre ++ [.webhook])).store r.caseId =
      some .recovered →
    committedStatus (interleaved utcnow r paid db order).store r.caseId = some .recovered

/-- The webhook commits on the case while the guarded request holds a copy. -/
def Overlaps (utcnow : ℕ → DateTime) (r : GuardedRequest) (paid : PaymentLinkPaidEvent)
    (db : Db) (order : List Party) : Prop :=
  ∃ pre post paying held, order = pre ++ .webhook :: post ∧
    ((interleaved utcnow r paid db pre).phase .webhook).isDecided = true ∧
    ((interleaved utcnow r paid db pre).phase .webhook).copy? = some paying ∧
    paying.id = r.caseId ∧
    ((interleaved utcnow r paid db pre).phase .guard).copy? = some held

/-- The status that the `execute_fn` leaves on a case the gates have passed. -/
def GuardedRequest.settled (r : GuardedRequest) (case : CaseRow) : CaseStatus :=
  match r.conduct case with
  | none => .opened
  | some act => (act (r.ctx case).action (reopened case)).case.status

/-- The guard changes the status of a running case to something other than
recovered: by the opt-out, by a block of an open case, or by what it leaves of a
case whose action has passed. -/
structure Rewrites (s : Session) (r : GuardedRequest) (case : CaseRow) : Prop where
  running : isCaseStopped case = false
  rewrites : (r.ctx case).optOut = true ∨ (r.ctx case).raises = false ∧
    ((allPassed ((r.ctx case).checks s case.id) = false ∧ case.status = .opened) ∨
    (allPassed ((r.ctx case).checks s case.id) = true ∧ r.settled case ≠ .recovered ∧
      r.settled case ≠ case.status))

/-!
## Alone
-/

theorem writtenRow_alone (loaded mine : CaseRow) :
    writtenRow loaded mine loaded = { mine with id := loaded.id } := by
  simp [writtenRow]

theorem view_self {db : Db} {copy : CaseRow} (h : db.cases.get? copy.id = some copy) :
    view db copy = db := by
  have hcases : db.cases.set copy = db.cases := Table.set_eq_self h
  rw [view, hcases]

/-- Writing a row that nobody has touched meanwhile replaces it. -/
theorem writtenCases_alone {db : Db} {loaded mine : CaseRow}
    (h : db.cases.get? loaded.id = some loaded) (hid : mine.id = loaded.id) :
    writtenCases db loaded mine = db.cases.set mine := by
  have hmine : ({ mine with id := loaded.id } : CaseRow) = mine := by rw [← hid]
  simp only [writtenCases, h, writtenRow_alone, hmine]

/-- A guarded request that nothing interrupts commits what it serves. -/
theorem guardScript_alone (utcnow : ℕ → DateTime) (r : GuardedRequest) (db : Db) :
    (guardScript utcnow r).complete db .ready = (serve utcnow db (.guarded r)).1 := by
  have hload : (guardScript utcnow r).load db = db.cases.get? r.caseId := rfl
  unfold Script.complete
  rw [hload]
  cases hcase : db.cases.get? r.caseId with
  | none =>
      have hnone : (openSession utcnow db).getCase r.caseId = none := hcase
      simp only [serve, hnone]
  | some case =>
      obtain ⟨hid, hheld⟩ := holds_of_get? utcnow hcase
      have hkept : (r.effect (openSession utcnow db) case).case.id = case.id :=
        (guardEffect_verdict ..).id (r.conducted case)
      have hview : view db case = db := view_self hheld
      have hwrite : writtenCases db case (r.effect (openSession utcnow db) case).case =
          db.cases.set (r.effect (openSession utcnow db) case).case :=
        writtenCases_alone hheld hkept
      rw [serve_guarded utcnow hcase]
      simp only [guardScript, hview, commitWrite, hwrite]
      rfl

/-- So does a webhook. -/
theorem webhookScript_alone (utcnow : ℕ → DateTime) (paid : PaymentLinkPaidEvent) (db : Db) :
    (webhookScript utcnow paid).complete db .ready = (serve utcnow db (.paid paid)).1 := by
  unfold Script.complete
  simp only [webhookScript, serve, handlePaymentLinkPaid]
  cases hfound : (openSession utcnow db).findProcessed paid.eventId with
  | some existing => rfl
  | none =>
      cases hresolved : paidCaseId (openSession utcnow db) paid with
      | none => rfl
      | some caseId =>
          cases hcase : (openSession utcnow db).getCase caseId with
          | none => simp [hcase]
          | some case =>
              have hstored : db.cases.get? caseId = some case := hcase
              obtain ⟨hid, hheld⟩ := holds_of_get? utcnow hstored
              have hview : view db case = db := view_self hheld
              have hkept := paidEffect_id case paid
              have hwrite : writtenCases db case (paidEffect case paid).case =
                  db.cases.set (paidEffect case paid).case :=
                writtenCases_alone hheld hkept
              have hclosed := closeLoop_eq hheld paid
              have hprocessed : (openSession utcnow db).db.processed = db.processed := rfl
              simp only [Option.bind_some, hcase, hclosed, commitWrite, hview, hwrite,
                Session.markEventProcessed, hkept, Session.perform_processed, hprocessed]
              generalize db.processed.insert? _ = inserted
              cases inserted with
              | none => rfl
              | some processed => rfl

/-!
## What the guard decides from its copy
-/

/-- A stored recovery survives a write of the status column unless the column
was changed to something else. -/
theorem column_recovered_iff (loaded mine : CaseStatus) :
    column loaded mine .recovered = .recovered ↔ mine = loaded ∨ mine = .recovered := by
  unfold column
  by_cases h : mine = loaded
  · simp [h]
  · simp [h]

/-- Of a case whose action has passed, the status is what the `execute_fn`
leaves. -/
theorem settled_status_iff {s : Session} {r : GuardedRequest} {case : CaseRow}
    {status : CaseStatus} (running : isCaseStopped case = false)
    (opt : (r.ctx case).optOut = false) (returns : (r.ctx case).raises = false)
    (passed : allPassed ((r.ctx case).checks s case.id) = true)
    (hsettled : status = r.settled case) :
    status = case.status ∨ status = .recovered ↔ ¬Rewrites s r case := by
  rw [hsettled]
  constructor
  · rintro hkept ⟨-, hopt | ⟨-, ⟨hrefused, -⟩ | ⟨-, hlost, hchanged⟩⟩⟩
    · rw [opt] at hopt
      cases hopt
    · rw [passed] at hrefused
      cases hrefused
    · rcases hkept with hsame | hrecovered
      · exact hchanged hsame
      · exact hlost hrecovered
  · intro hkept
    by_contra hneither
    push Not at hneither
    exact hkept ⟨running, Or.inr ⟨returns, Or.inr ⟨passed, hneither.2, hneither.1⟩⟩⟩

/-- The guard leaves the status as it has loaded it, or recovered, exactly when
it does not rewrite it. -/
theorem verdict_status_iff {s : Session} {r : GuardedRequest} {case : CaseRow} {e : Effect}
    (h : Verdict s case (r.ctx case) (r.conduct case) r.policyVersion r.audit e) :
    e.case.status = case.status ∨ e.case.status = .recovered ↔ ¬Rewrites s r case := by
  cases h with
  | stopped stopped =>
      refine iff_of_true (Or.inl rfl) ?_
      rintro ⟨running, -⟩
      rw [stopped] at running
      cases running
  | optedOut running opt =>
      have hstatus : case.status ≠ .stopped := by
        intro hstopped
        simp [isCaseStopped, hstopped] at running
      refine iff_of_false ?_ (not_not_intro ⟨running, Or.inl opt⟩)
      rintro (hsame | hrecovered)
      · exact hstatus hsame.symm
      · cases hrecovered
  | raised running opt raises =>
      refine iff_of_true (Or.inl rfl) ?_
      rintro ⟨-, hopt | ⟨hreturns, -⟩⟩
      · rw [opt] at hopt
        cases hopt
      · rw [raises] at hreturns
        cases hreturns
  | blocked running opt returns refused =>
      constructor
      · rintro (hsame | hrecovered) ⟨-, hopt | ⟨-, ⟨-, hopened⟩ | ⟨hpassed, -⟩⟩⟩
        · rw [opt] at hopt
          cases hopt
        · cases hsame.trans hopened
        · rw [refused] at hpassed
          cases hpassed
        all_goals cases hrecovered
      · intro hkept
        rcases isCaseStopped_eq_false_iff.1 running with hopened | hblocked
        · exact absurd ⟨running, Or.inr ⟨returns, Or.inl ⟨refused, hopened⟩⟩⟩ hkept
        · exact Or.inl hblocked.symm
  | admitted running opt returns passed nothing =>
      have hsettled : r.settled case = (reopened case).status := by
        rw [GuardedRequest.settled, nothing, (reopened_status running).1]
      exact settled_status_iff running opt returns passed hsettled.symm
  | @executed running opt returns passed act something =>
      apply settled_status_iff running opt returns passed
      rw [GuardedRequest.settled, something]

/-!
## The two commits
-/

/-- Rows that are no `action` rows leave the executed fingerprints, and with them
the verdict of the gates, as they are. -/
theorem rewrites_congr {s s' : Session} {r : GuardedRequest} {case : CaseRow}
    {rows : List LedgerColumns} (hhistory : s'.db.history = s.db.history ++ rows)
    (hrows : ∀ e ∈ rows, e.kind ≠ .action) : Rewrites s' r case ↔ Rewrites s r case := by
  have hnone : rows.filter (fun e => decide (e.kind = .action) && decide (e.caseId = case.id)) =
      [] := by
    rw [List.filter_eq_nil_iff]
    intro e he
    simp [hrows e he]
  have hexecuted : executedFingerprints s' case.id = executedFingerprints s case.id := by
    simp only [executedFingerprints, Db.trail, hhistory, List.filter_filter, List.filter_append,
      hnone, List.append_nil]
  have hchecks : (r.ctx case).checks s' case.id = (r.ctx case).checks s case.id := by
    simp only [GuardContext.checks, GuardContext.gated, GuardContext.replayed,
      GuardContext.executedOn, hexecuted]
  constructor
  · rintro ⟨running, hrewrites⟩
    rw [hchecks] at hrewrites
    exact ⟨running, hrewrites⟩
  · rintro ⟨running, hrewrites⟩
    rw [← hchecks] at hrewrites
    exact ⟨running, hrewrites⟩

/-- The status after a commit that changes a loaded case. -/
theorem committedStatus_written {db : Db} {loaded mine stored : CaseRow}
    (h : db.cases.get? loaded.id = some stored) :
    (((writtenCases db loaded mine).get? loaded.id).map (·.status)) =
      some (column loaded.status mine.status stored.status) := by
  have hid : stored.id = loaded.id := Table.key_of_get? h
  have hkey : Keyed.key (writtenRow loaded mine stored) = loaded.id := hid
  have hstored : db.cases.get? (Keyed.key (writtenRow loaded mine stored)) = some stored := by
    rw [hkey]
    exact h
  have hwritten := Table.get?_set_self hstored
  rw [hkey] at hwritten
  simp only [writtenCases, h, hwritten]
  rfl

/-- A webhook that has found its case commits it as recovered, and appends no
`action` row. -/
theorem webhook_commit {utcnow : ℕ → DateTime} {paid : PaymentLinkPaidEvent} {db : Db}
    {paying : CaseRow} (hload : (webhookScript utcnow paid).load db = some paying) :
    committedStatus ((webhookScript utcnow paid).commit db paying
        ((webhookScript utcnow paid).decide db paying)) paying.id = some .recovered ∧
    ∃ rows, ((webhookScript utcnow paid).commit db paying
        ((webhookScript utcnow paid).decide db paying)).history = db.history ++ rows ∧
      ∀ e ∈ rows, e.kind ≠ .action := by
  simp only [webhookScript] at hload
  cases hfound : (openSession utcnow db).findProcessed paid.eventId with
  | some existing =>
      rw [hfound] at hload
      cases hload
  | none =>
      rw [hfound] at hload
      obtain ⟨caseId, -, hcase⟩ := Option.bind_eq_some_iff.1 hload
      have hstored : db.cases.get? caseId = some paying := hcase
      obtain ⟨hid, hheld⟩ := holds_of_get? utcnow hstored
      have hfree : ∀ receivedAt, ∃ processed,
          db.processed.insert? ⟨paid.eventId, paying.id, receivedAt⟩ = some processed :=
        fun receivedAt => Table.insert?_of_get?_eq_none hfound
      have hview : view db paying = db := view_self hheld
      have hstatus : (paidEffect paying paid).case.status = .recovered := by
        unfold paidEffect
        split
        · next h => exact h
        · rfl
      have hcolumn : ((writtenCases db paying (paidEffect paying paid).case).get?
          paying.id).map (·.status) = some (column paying.status
            (paidEffect paying paid).case.status paying.status) :=
        committedStatus_written hheld
      rw [column_undisturbed, hstatus] at hcolumn
      obtain ⟨processed, hinsert⟩ := hfree (utcnow
        ((openSession utcnow db).perform (paidEffect paying paid)).db.ledger.nextSeq)
      have hprocessed : (webhookScript utcnow paid).commit db paying
          ((webhookScript utcnow paid).decide db paying) =
            { cases := writtenCases db paying (paidEffect paying paid).case
              ledger := ((openSession utcnow db).record (paidEffect paying paid).facts).db.ledger
              processed } := by
        simp only [webhookScript, commitWrite, hview, Session.perform_utcnow]
        rw [show (openSession utcnow db).utcnow = utcnow from rfl, hinsert]
      rw [hprocessed]
      refine ⟨hcolumn, (paidEffect paying paid).facts.map (·.toLedgerColumns), ?_, ?_⟩
      · exact Session.record_history (openSession utcnow db) (paidEffect paying paid).facts
      · intro e he
        obtain ⟨f, hf, rfl⟩ := List.mem_map.1 he
        exact paidEffect_kind_ne paying paid f hf

/-- A commit leaves the other cases alone. -/
theorem commitWrite_of_ne (utcnow : ℕ → DateTime) (db : Db) {loaded : CaseRow} (w : Write)
    {caseId : String} (h : caseId ≠ loaded.id) :
    (commitWrite utcnow db loaded w).cases.get? caseId = db.cases.get? caseId := by
  have hwritten : (writtenCases db loaded w.effect.case).get? caseId = db.cases.get? caseId := by
    unfold writtenCases
    split
    · next stored hstored =>
        have hid : stored.id = loaded.id := Table.key_of_get? hstored
        apply Table.get?_set_of_ne
        change caseId ≠ stored.id
        rw [hid]
        exact h
    · rfl
  unfold commitWrite
  simp only
  split
  · exact hwritten
  · split
    · exact hwritten
    · rfl

/-!
## The interleaving
-/

section

variable {utcnow : ℕ → DateTime} {r : GuardedRequest} {paid : PaymentLinkPaidEvent} {db : Db}

/-- What is known when the webhook commits while the guard holds a copy: nothing
was committed yet. -/
theorem undisturbed_at_commit {order : List Party} {held : CaseRow}
    (hwebhook : ((interleaved utcnow r paid db order).phase .webhook).isDecided = true)
    (hguard : ((interleaved utcnow r paid db order).phase .guard).copy? = some held) :
    (interleaved utcnow r paid db order).store = db ∧ db.cases.get? r.caseId = some held ∧
    ((interleaved utcnow r paid db order).phase .guard = .loaded held ∨
      (interleaved utcnow r paid db order).phase .guard =
        .decided held ((guardScript utcnow r).decide db held)) ∧
    ∃ paying, (webhookScript utcnow paid).load db = some paying ∧
      (interleaved utcnow r paid db order).phase .webhook =
        .decided paying ((webhookScript utcnow paid).decide db paying) := by
  have hundisturbed : Undisturbed (script utcnow r paid) db (interleaved utcnow r paid db order) :=
    final_undisturbed db order
  obtain ⟨paying, write, hdecided⟩ := Phase.exists_copy_of_isDecided hwebhook
  have hrunning : ∀ p, (interleaved utcnow r paid db order).phase p ≠ .finished := by
    intro p hp
    cases p with
    | guard =>
        rw [hp] at hguard
        cases hguard
    | webhook => cases hdecided.symm.trans hp
  obtain ⟨hstore, htracks⟩ := hundisturbed hrunning
  obtain ⟨hheld, hphase⟩ := (htracks .guard).of_copy? hguard
  have htracked := htracks .webhook
  rw [hdecided] at htracked
  obtain ⟨hpaying, rfl⟩ := htracked
  exact ⟨hstore, hheld, hphase, paying, hpaying, hdecided⟩

theorem guard_commit_status {store : Db} {held : CaseRow} (s : Session)
    (hstored : committedStatus store held.id = some .recovered) :
    committedStatus ((guardScript utcnow r).commit store held { effect := r.effect s held })
        held.id = some .recovered ↔ ¬Rewrites s r held := by
  obtain ⟨stored, hrow, hstatus⟩ := Option.map_eq_some_iff.1 hstored
  have hwritten : committedStatus ((guardScript utcnow r).commit store held
      { effect := r.effect s held }) held.id =
        some (column held.status (r.effect s held).case.status stored.status) :=
    committedStatus_written hrow
  have hverdict := guardEffect_verdict s held (r.ctx held) (r.conduct held) r.policyVersion
    r.audit
  rw [hwritten, hstatus, Option.some_inj, column_recovered_iff]
  exact verdict_status_iff hverdict

theorem interleaved_concat (pre : List Party) (p : Party) :
    interleaved utcnow r paid db (pre ++ [p]) =
      (step (script utcnow r paid) (interleaved utcnow r paid db pre) p).1 :=
  Run.final_append ..

/-- Once the webhook has committed, only the guard still writes. -/
theorem store_after_webhook {pre post : List Party}
    (hwebhook : ((interleaved utcnow r paid db pre).phase .webhook).isDecided = true)
    (hdone : (interleaved utcnow r paid db (pre ++ .webhook :: post)).phase .guard = .finished) :
    (interleaved utcnow r paid db (pre ++ .webhook :: post)).store =
      (guardScript utcnow r).complete
        (interleaved utcnow r paid db (pre ++ [.webhook])).store
        ((interleaved utcnow r paid db pre).phase .guard) := by
  obtain ⟨paying, write, hdecided⟩ := Phase.exists_copy_of_isDecided hwebhook
  have hsplit : pre ++ .webhook :: post = (pre ++ [.webhook]) ++ post := by simp
  have hothers : ∀ p, p ≠ .guard →
      (interleaved utcnow r paid db (pre ++ [.webhook])).phase p = .finished := by
    intro p hp
    cases p with
    | guard => exact absurd rfl hp
    | webhook =>
        rw [interleaved_concat, step_phase_self, hdecided]
        rfl
  have hguard : (interleaved utcnow r paid db (pre ++ [.webhook])).phase .guard =
      (interleaved utcnow r paid db pre).phase .guard := by
    rw [interleaved_concat]
    exact step_phase_of_ne _ (by decide)
  rw [hsplit, interleaved, Run.final_append] at hdone ⊢
  rw [final_store_of_last hothers hdone, hguard]
  rfl

/-- A guard that holds its copy across the webhook's commit keeps the recovery
exactly when it does not rewrite the status. -/
theorem kept_across_commit {pre post : List Party} {held : CaseRow}
    (hwebhook : ((interleaved utcnow r paid db pre).phase .webhook).isDecided = true)
    (hguard : ((interleaved utcnow r paid db pre).phase .guard).copy? = some held)
    (hdone : (interleaved utcnow r paid db (pre ++ .webhook :: post)).phase .guard = .finished)
    (hcommitted : committedStatus (interleaved utcnow r paid db (pre ++ [.webhook])).store
      r.caseId = some .recovered) :
    committedStatus (interleaved utcnow r paid db (pre ++ .webhook :: post)).store r.caseId =
        some .recovered ↔
      ¬Rewrites (openSession utcnow db) r held := by
  obtain ⟨hstore, hheld, hphase, paying, hpaying, hdecided⟩ :=
    undisturbed_at_commit hwebhook hguard
  have hid : held.id = r.caseId := Table.key_of_get? hheld
  have hpaid : (interleaved utcnow r paid db (pre ++ [.webhook])).store =
      (webhookScript utcnow paid).commit db paying
        ((webhookScript utcnow paid).decide db paying) := by
    rw [interleaved_concat]
    simp only [step, hdecided, hstore]
    rfl
  obtain ⟨-, rows, hhistory, hrows⟩ := webhook_commit hpaying
  rw [← hpaid] at hhistory
  rw [← hid] at hcommitted ⊢
  rw [store_after_webhook hwebhook hdone]
  rcases hphase with hloaded | hdecidedGuard
  · rw [hloaded]
    have hlater : Rewrites (openSession utcnow (view (interleaved utcnow r paid db
        (pre ++ [.webhook])).store held)) r held ↔ Rewrites (openSession utcnow db) r held :=
      rewrites_congr hhistory hrows
    rw [← hlater]
    exact guard_commit_status _ hcommitted
  · rw [hdecidedGuard]
    have hnothing : ∀ e ∈ ([] : List LedgerColumns), e.kind ≠ .action := by simp
    have hsame : Rewrites (openSession utcnow (view db held)) r held ↔
        Rewrites (openSession utcnow db) r held :=
      rewrites_congr (List.append_nil _).symm hnothing
    rw [← hsame]
    exact guard_commit_status _ hcommitted

/-- A guard that loads after the webhook's commit finds the case closed. -/
theorem kept_of_loaded_later {store : Db}
    (hcommitted : committedStatus store r.caseId = some .recovered) :
    committedStatus ((guardScript utcnow r).complete store .ready) r.caseId =
      some .recovered := by
  obtain ⟨stored, hrow, hstatus⟩ := Option.map_eq_some_iff.1 hcommitted
  have hload : (guardScript utcnow r).load store = some stored := hrow
  have hid : stored.id = r.caseId := Table.key_of_get? hrow
  have hclosed : ∀ s, ¬Rewrites s r stored := by
    rintro s ⟨running, -⟩
    simp [isCaseStopped, hstatus] at running
  rw [← hid] at hcommitted ⊢
  simp only [Script.complete, hload]
  exact (guard_commit_status _ hcommitted).2 (hclosed _)

/-- The recovery survives every order of the two transactions but one kind: the
guard loads before the webhook's commit, commits after it, and rewrites the
status. -/
theorem recovery_kept_iff (order : List Party)
    (hdone : ∀ p, (interleaved utcnow r paid db order).phase p = .finished) :
    RecoveryKept utcnow r paid db order ↔
      ¬(Overlaps utcnow r paid db order ∧ ∃ case, db.cases.get? r.caseId = some case ∧
        Rewrites (openSession utcnow db) r case) := by
  constructor
  · rintro hkept ⟨⟨pre, post, paying, held, rfl, hwebhook, hcopy, hpays, hguard⟩, case, hcase,
      hrewrites⟩
    obtain ⟨hstore, hheld, -, paying', hpaying, hdecided⟩ := undisturbed_at_commit hwebhook hguard
    rw [hdecided] at hcopy
    cases hcopy
    have hcommitted : committedStatus (interleaved utcnow r paid db (pre ++ [.webhook])).store
        r.caseId = some .recovered := by
      rw [interleaved_concat]
      simp only [step, hdecided, hstore]
      rw [← hpays]
      exact (webhook_commit hpaying).1
    cases hheld.symm.trans hcase
    have hfinal := hkept pre post rfl hwebhook hcommitted
    exact (kept_across_commit hwebhook hguard (hdone .guard) hcommitted).1 hfinal hrewrites
  · rintro hsafe pre post rfl hwebhook hcommitted
    have hafter := store_after_webhook hwebhook (hdone .guard)
    cases hphase : ((interleaved utcnow r paid db pre).phase .guard).copy? with
    | some held =>
        rw [kept_across_commit hwebhook hphase (hdone .guard) hcommitted]
        intro hrewrites
        obtain ⟨hstore, hheld, -, paying, -, hdecided⟩ := undisturbed_at_commit hwebhook hphase
        by_cases hpays : paying.id = r.caseId
        · refine hsafe ⟨⟨pre, post, paying, held, rfl, hwebhook, ?_, hpays, hphase⟩, held, hheld,
            hrewrites⟩
          rw [hdecided]
          rfl
        · -- The webhook pays another case, so this one was recovered all along.
          have hother : committedStatus (interleaved utcnow r paid db (pre ++ [.webhook])).store
              r.caseId = some held.status := by
            rw [interleaved_concat]
            simp only [step, hdecided, hstore]
            have hsame := commitWrite_of_ne utcnow db
              ((webhookScript utcnow paid).decide db paying) (Ne.symm hpays)
            exact congrArg (Option.map (·.status)) (hsame.trans hheld)
          have hstatus : held.status = .recovered :=
            Option.some.inj (hother.symm.trans hcommitted)
          have hrunning := hrewrites.running
          simp [isCaseStopped, hstatus] at hrunning
    | none =>
        cases hguard : (interleaved utcnow r paid db pre).phase .guard with
        | ready =>
            rw [hafter, hguard]
            exact kept_of_loaded_later hcommitted
        | finished =>
            rw [hafter, hguard]
            exact hcommitted
        | loaded held =>
            rw [hguard] at hphase
            cases hphase
        | decided held write =>
            rw [hguard] at hphase
            cases hphase

end

def paidLink : PaymentLinkPaidEvent where
  eventId := "evt_paid_1"
  paymentLinkId := "plink_1"
  caseId := some "case_1"
  occurredAt := daytime

/-- The case after a refused action. -/
def blockedDb : Db := Db.single { freshCase with status := .blocked }

/-- One after the other, the recovery is kept. -/
theorem recovery_kept_iff_serial :
    RecoveryKept (fun _ => daytime) retryRequest paidLink blockedDb
        [.webhook, .webhook, .webhook, .guard, .guard, .guard] ↔
      ¬(Overlaps (fun _ => daytime) retryRequest paidLink blockedDb
          [.webhook, .webhook, .webhook, .guard, .guard, .guard] ∧
        ∃ case, blockedDb.cases.get? retryRequest.caseId = some case ∧
          Rewrites (openSession (fun _ => daytime) blockedDb) retryRequest case) :=
  recovery_kept_iff [.webhook, .webhook, .webhook, .guard, .guard, .guard] fun p => by
    cases p with
    | guard => rfl
    | webhook => rfl

/-- A retry that has loaded the blocked case before the webhook and commits after
it opens the recovered case again. -/
theorem recovery_lost :
    ((interleaved (fun _ => daytime) retryRequest paidLink blockedDb
        [.guard, .webhook, .webhook, .webhook, .guard, .guard]).phase .guard = .finished ∧
      (interleaved (fun _ => daytime) retryRequest paidLink blockedDb
        [.guard, .webhook, .webhook, .webhook, .guard, .guard]).phase .webhook = .finished) ∧
    ¬RecoveryKept (fun _ => daytime) retryRequest paidLink blockedDb
      [.guard, .webhook, .webhook, .webhook, .guard, .guard] := by
  refine ⟨⟨rfl, rfl⟩, ?_⟩
  intro hkept
  have hcommitted : committedStatus (interleaved (fun _ => daytime) retryRequest paidLink blockedDb
      ([.guard, .webhook, .webhook] ++ [.webhook])).store "case_1" = some .recovered := by decide
  have hlost : committedStatus (interleaved (fun _ => daytime) retryRequest paidLink blockedDb
      [.guard, .webhook, .webhook, .webhook, .guard, .guard]).store "case_1" = some .opened := by
    decide
  have hfinal := hkept [.guard, .webhook, .webhook] [.guard, .guard] rfl rfl hcommitted
  cases hlost.symm.trans hfinal

end RecoveryAgent.Runs
