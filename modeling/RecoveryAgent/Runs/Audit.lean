import RecoveryAgent.Runs.Requests

/-!
# The audit trail of the pipeline

Every decision of the pipeline can be read back from the ledger: one
`execute_with_guards` call on a running case writes a row for each gate, and an
outcome row and an action row exactly when the executor was called. Only where
the contact window has no time in India does the call raise, and then no gate has
a row. Over a run the action rows of a case count its executor calls, and no
request touches the rows of another case.
-/

namespace RecoveryAgent.Runs

open Library Python Policy Ledger Guard Execute

/-- What a call on the case has written and returned. -/
structure Audited (s : Session) (case : CaseRow) (ctx : GuardContext) (run : GuardRun)
    (outcome : Option Outcome) (gates rest : List LedgerColumns)
    (made : List ExecutorCall) : Prop where
  history : run.session.db.history = s.db.history ++ (gates ++ rest)
  own : ∀ e ∈ gates ++ rest, e.caseId = case.id
  calls : run.session.calls = s.calls ++ made
  /-- The returned checks are those of the six gates, in their order. -/
  checks : defaultGates.mapM (fun gate => gate (ctx.gated s case.id)) = .ok run.result.checks
  /-- One gate row for each check, with its name and verdict. -/
  rows : gates.map (fun e => (e.kind, e.gateName, e.gateResult)) =
    run.result.checks.map fun c => (.gateCheck, some c.name, some c.gateResult)
  blockedBy : run.result.blockedBy =
    (run.result.checks.find? fun c => !c.passed).map (·.name)
  passed : allPassed run.result.checks = true →
    ∃ out, outcome = some out ∧ made = [⟨case.id, ctx.action, out.modelDump⟩] ∧
      rest.map (·.kind) =
        if out.recovered then [.outcome, .stop, .action] else [.outcome, .action]
  refused : allPassed run.result.checks = false → outcome = none ∧ made = [] ∧ rest = []

/-- The call returns, and what it has written and returned is audited. -/
def FullyAudited (s : Session) (case : CaseRow) (ctx : GuardContext) (executor : Executor)
    (execMeta : Option ExecuteMeta) (policyVersion : String) : Prop :=
  ∃ run outcome gates rest made,
    executeWithGuards s case ctx executor execMeta policyVersion = .ok (run, outcome) ∧
      Audited s case ctx run outcome gates rest made

theorem gateFacts_rows (s : Session) (caseId : String) (ctx : GuardContext)
    (policyVersion : String) (audit : Fields) :
    ((gateFacts s caseId ctx policyVersion audit).map (·.toLedgerColumns)).map
        (fun e => (e.kind, e.gateName, e.gateResult)) =
      (ctx.checks s caseId).map fun c => (.gateCheck, some c.name, some c.gateResult) := by
  rw [gateFacts, List.map_map, List.map_map]
  rfl

theorem gateFacts_own {s : Session} {caseId : String} {ctx : GuardContext}
    {policyVersion : String} {audit : Fields} :
    ∀ e ∈ (gateFacts s caseId ctx policyVersion audit).map (·.toLedgerColumns),
      e.caseId = caseId := by
  intro e he
  obtain ⟨f, hf, rfl⟩ := List.mem_map.1 he
  exact (mem_gateFacts hf).1

theorem find?_blocked_of_passed {checks : List GateCheck} (h : allPassed checks = true) :
    (checks.find? fun c => !c.passed) = none := by
  simpa [allPassed] using h

section

variable {s : Session} {case : CaseRow} {ctx : GuardContext}

theorem gates_return (hreturns : ctx.raises = false) :
    defaultGates.mapM (fun gate => gate (ctx.gated s case.id)) = .ok (ctx.checks s case.id) := by
  have hreplayed : ¬(ctx.replayed s case.id).raises = true := by
    change ¬ctx.raises = true
    simp [hreturns]
  have hgates : runGates (ctx.replayed s case.id) =
      .ok (ctx.checks s case.id, ctx.gated s case.id) := by
    rw [runGates_eq, if_neg hreplayed]
    rfl
  unfold runGates at hgates
  obtain ⟨checks, hchecks, hpair⟩ := bind_eq_ok hgates
  cases hpair
  exact hchecks

/-- A refused call writes the gate rows and nothing else. -/
theorem audited_of_blocked (hrunning : isCaseStopped case = false) (hopt : ctx.optOut = false)
    (hreturns : ctx.raises = false) (hblocked : allPassed (ctx.checks s case.id) = false)
    (executeFn : Option ExecuteFn) (policyVersion : String) (out : Outcome) :
    Audited s case ctx (guardRun s case ctx executeFn policyVersion [])
      (if (guardRun s case ctx executeFn policyVersion []).result.executed then some out
        else none)
      ((gateFacts s case.id ctx policyVersion []).map (·.toLedgerColumns)) [] [] := by
  rw [guardRun_of_blocked hrunning hopt hreturns hblocked]
  exact
    { history := by simp
      own := by simpa using gateFacts_own
      calls := by simp
      checks := gates_return hreturns
      rows := gateFacts_rows s case.id ctx policyVersion []
      blockedBy := by dsimp only
      passed := by simp [hblocked]
      refused := by simp }

/-- A passed call also writes what the executor leaves and the action row. -/
theorem audited_of_passed (h : s.Holds case) (hrunning : isCaseStopped case = false)
    (hopt : ctx.optOut = false) (hreturns : ctx.raises = false)
    (hpassed : allPassed (ctx.checks s case.id) = true)
    (executor : Executor) (execMeta : ExecuteMeta) (policyVersion : String) :
    ∃ rest made,
      Audited s case ctx
        (guardRun s case ctx (some (exec executor execMeta policyVersion)) policyVersion [])
        (if (guardRun s case ctx (some (exec executor execMeta policyVersion))
          policyVersion []).result.executed then
            some (executor ctx.action (reopened case) execMeta)
          else none)
        ((gateFacts s case.id ctx policyVersion []).map (·.toLedgerColumns)) rest made := by
  have hheld : (s.perform ⟨reopened case, gateFacts s case.id ctx policyVersion [], []⟩).Holds
      (reopened case) := h.perform (reopened_id case)
  have hconducts := exec_conducts executor execMeta policyVersion
  rw [guardRun_of_passed hrunning hopt hreturns hpassed, admitted_eq_perform h,
    executeAdmitted_eq hheld hconducts]
  simp only [gated_action, if_true, reopened_id]
  have hresult := execConduct_result executor execMeta policyVersion ctx.action (reopened case)
  have hkinds := execConduct_kinds executor execMeta policyVersion ctx.action (reopened case)
  have hlawful := execConduct_lawful executor execMeta policyVersion ctx.action (reopened case)
  generalize execConduct executor execMeta policyVersion ctx.action (reopened case) = done at *
  refine ⟨(done.facts ++ [actionFact case.id policyVersion (ctx.gated s case.id)
    done.result]).map (·.toLedgerColumns), [⟨case.id, ctx.action, done.result⟩], ?_⟩
  exact
    { history := by simp
      own := by
        intro e he
        rcases List.mem_append.1 he with he | he
        · exact gateFacts_own e he
        · obtain ⟨f, hf, rfl⟩ := List.mem_map.1 he
          rcases List.mem_append.1 hf with hf | hf
          · exact (hlawful.own f hf).trans (reopened_id case)
          · rw [List.mem_singleton.1 hf]
            rfl
      calls := by simp
      checks := gates_return hreturns
      rows := gateFacts_rows s case.id ctx policyVersion []
      blockedBy := (congrArg (Option.map _) (find?_blocked_of_passed hpassed)).symm
      passed := by
        intro _
        refine ⟨_, rfl, by rw [hresult], ?_⟩
        rw [List.map_map, List.map_append]
        change done.facts.map (fun f => f.kind) ++ [.action] = _
        rw [hkinds]
        split <;> rfl
      refused := by simp [hpassed] }

end

/-- One call on a running case without an opt-out is audited exactly when it does not
raise. -/
theorem fullyAudited_iff {s : Session} {case : CaseRow} (h : s.Holds case)
    {ctx : GuardContext} (hrunning : isCaseStopped case = false) (hopt : ctx.optOut = false)
    (executor : Executor) (execMeta : Option ExecuteMeta) (policyVersion : String) :
    FullyAudited s case ctx executor execMeta policyVersion ↔ ctx.raises = false := by
  have hon : ctx.raisesOn case = ctx.raises := by simp [GuardContext.raisesOn, hrunning, hopt]
  have heq := executeWithGuards_eq s case ctx executor execMeta policyVersion
  rw [hon] at heq
  constructor
  · rintro ⟨run, outcome, gates, rest, made, hreturned, -⟩
    by_contra hraises
    rw [heq, if_pos (by simpa using hraises)] at hreturned
    cases hreturned
  · intro hreturns
    rw [if_neg (by simp [hreturns])] at heq
    unfold serviceRun at heq
    generalize execMeta.getD { failureReason := "unknown", seed := case.id } = em at heq
    cases hpassed : allPassed (ctx.checks s case.id) with
    | false =>
        exact ⟨_, _, _, _, _, heq,
          audited_of_blocked hrunning hopt hreturns hpassed _ policyVersion _⟩
    | true =>
        obtain ⟨rest, made, haudited⟩ := audited_of_passed h hrunning hopt hreturns hpassed executor
          em policyVersion
        exact ⟨_, _, _, rest, made, heq, haudited⟩

/-!
## Over a run
-/

def actionRows (db : Db) (caseId : String) : ℕ :=
  (db.trail caseId).countP fun e => e.kind = .action

theorem actionRows_congr {db db' : Db} (h : db.ledger = db'.ledger) (caseId : String) :
    actionRows db caseId = actionRows db' caseId := by
  rw [actionRows, Db.trail_congr h, actionRows]

theorem actionRows_perform (s : Session) {e : Effect} {id : String}
    (hown : ∀ f ∈ e.facts, f.caseId = id) (caseId : String) :
    actionRows (s.perform e).db caseId = actionRows s.db caseId +
      if id = caseId then e.facts.countP (fun f => f.kind = .action) else 0 := by
  unfold actionRows
  by_cases hid : id = caseId
  · subst hid
    rw [s.perform_trail hown, List.countP_append, List.countP_map, if_pos rfl]
    rfl
  · rw [s.perform_trail_of_ne hown (Ne.symm hid), if_neg hid, Nat.add_zero]

/-- One request adds as many `action` rows to a case as it makes executor calls
for it. -/
theorem serve_actionRows (utcnow : ℕ → DateTime) (db : Db) (request : Request)
    (caseId : String) :
    actionRows (serve utcnow db request).1 caseId =
      actionRows db caseId + (serve utcnow db request).2.countP fun c => c.caseId = caseId := by
  have hserved := serve_served utcnow db request
  generalize serve utcnow db request = out at hserved ⊢
  obtain ⟨db', made⟩ := out
  cases hserved with
  | idle _ => rfl
  | @opened newCaseId event _ cases ledger =>
      have hown : ∀ f ∈ [ingestFact newCaseId event], f.caseId = newCaseId := by
        simp [ingestFact]
      have hrows := actionRows_perform (openSession utcnow db)
        (e := ⟨openedCase newCaseId event, [ingestFact newCaseId event], []⟩) hown caseId
      have hsame : actionRows db' caseId = _ := (actionRows_congr ledger caseId).trans hrows
      rw [hsame]
      simp [ingestFact, openSession]
  | @guarded r case e _ _ id held verdict performed calls =>
      obtain ⟨hown, hcalls⟩ := verdict.own (r.conducted case)
      have hmade : (e.calls.countP fun c => c.caseId = caseId) =
          if case.id = caseId then e.calls.length else 0 := by
        split
        · next h => exact List.countP_eq_length.2 fun c hc => by simp [hcalls c hc, h]
        · next h => exact List.countP_eq_zero.2 fun c hc => by simp [hcalls c hc, h]
      subst performed calls
      rw [actionRows_perform _ hown, hmade, verdict.action_rows (r.conducted case)]
      rfl
  | @closed event case _ held cases ledger =>
      have hown := paidEffect_own case event
      have hkind := paidEffect_kind_ne case event
      have hnone : (paidEffect case event).facts.countP (fun f => f.kind = .action) = 0 :=
        List.countP_eq_zero.2 fun f hf => by simpa using hkind f hf
      have hsame : actionRows db' caseId = _ :=
        (actionRows_congr ledger caseId).trans (actionRows_perform _ hown caseId)
      rw [hsame, hnone]
      simp [openSession]

/-- A guarded request on another case leaves the rows of a case alone. -/
theorem serve_guarded_of_ne (utcnow : ℕ → DateTime) (db : Db) {r : GuardedRequest}
    {caseId : String} (hne : caseId ≠ r.caseId) :
    (serve utcnow db (.guarded r)).1.rowsOf caseId = db.rowsOf caseId ∧
      (serve utcnow db (.guarded r)).1.cases.get? caseId = db.cases.get? caseId ∧
        (serve utcnow db (.guarded r)).1.processed = db.processed := by
  have hserved := serve_served utcnow db (.guarded r)
  generalize serve utcnow db (.guarded r) = out at hserved ⊢
  obtain ⟨db', made⟩ := out
  cases hserved with
  | idle _ => exact ⟨rfl, rfl, rfl⟩
  | @guarded _ case e _ _ id held verdict performed calls =>
      have hown := (verdict.own (r.conducted case)).1
      have hid := verdict.id (r.conducted case)
      subst performed
      rw [← id] at hne
      refine ⟨Session.perform_rowsOf_of_ne _ hown hne, ?_, rfl⟩
      exact Session.perform_getCase_of_ne _ _ (by rwa [← hid] at hne)

/-- Every pipeline decision is fully audited, save those on a contact at a clock that has no
time in India. The first part is about one `execute_with_guards` call. The second counts
the executor calls of a run on a case by the `action` rows written, and the third says that
guarded requests on other cases leave every row of a case as it is. -/
theorem pipeline_fully_audited_iff (s : Session) (case : CaseRow) (ctx : GuardContext)
    (executor : Executor) (execMeta : Option ExecuteMeta) (policyVersion : String)
    (utcnow : ℕ → DateTime) (db : Db) (caseId : String) :
    (s.Holds case → isCaseStopped case = false → ctx.optOut = false →
      (FullyAudited s case ctx executor execMeta policyVersion ↔
        (isContactAction ctx = true → ctx.now.inIst = true))) ∧
    (∀ requests : List Request,
      actionRows (after utcnow db requests) caseId = actionRows db caseId +
        (callsOf utcnow db requests).countP fun c => c.caseId = caseId) ∧
    (∀ requests : List GuardedRequest, (∀ r ∈ requests, r.caseId ≠ caseId) →
      (after utcnow db (requests.map .guarded)).rowsOf caseId = db.rowsOf caseId ∧
      (after utcnow db (requests.map .guarded)).cases.get? caseId = db.cases.get? caseId ∧
      (after utcnow db (requests.map .guarded)).processed = db.processed) := by
  refine ⟨?_, ?_, ?_⟩
  · intro h hrunning hopt
    rw [fullyAudited_iff h hrunning hopt]
    simp [GuardContext.raises]
  · intro requests
    exact Run.final_add_emitted (serve utcnow) (fun db => actionRows db caseId)
      (fun c => c.caseId = caseId) (fun db request => serve_actionRows utcnow db request caseId)
      db requests
  · intro requests hne
    induction requests generalizing db with
    | nil => exact ⟨rfl, rfl, rfl⟩
    | cons r requests ih =>
        obtain ⟨hrows, hcase, hprocessed⟩ := serve_guarded_of_ne utcnow db
          (hne r List.mem_cons_self).symm
        obtain ⟨hrows', hcase', hprocessed'⟩ := ih (serve utcnow db (.guarded r)).1
          fun r' hr' => hne r' (List.mem_cons_of_mem _ hr')
        exact ⟨hrows'.trans hrows, hcase'.trans hcase, hprocessed'.trans hprocessed⟩

/-- A retry on a fresh case is audited. -/
theorem pipeline_fully_audited_freshCase :
    FullyAudited (openSession (fun _ => daytime) freshDb) freshCase
      { caseId := "case_1", action := { verb := .scheduleRetry }, now := daytime }
      (fun _ _ _ => { ok := true }) none "phase7" :=
  ((pipeline_fully_audited_iff (openSession (fun _ => daytime) freshDb) freshCase
    { caseId := "case_1", action := { verb := .scheduleRetry }, now := daytime }
    (fun _ _ _ => { ok := true }) none "phase7" (fun _ => daytime) freshDb "case_1").1
    rfl rfl rfl).2 (by decide)

/-- A link on a fresh case half an hour before the end of the year 9999 in UTC: the call
raises, and no gate has a row. -/
theorem not_audited_end_of_time :
    let s := openSession (fun _ => daytime) freshDb
    let ctx : GuardContext :=
      { caseId := "case_1"
        action := { verb := .sendPaymentLink }
        now := ⟨253402299000000000, some 0⟩ }
    s.Holds freshCase ∧ isCaseStopped freshCase = false ∧ ctx.optOut = false ∧
      executeWithGuards s freshCase ctx (fun _ _ _ => { ok := true }) none "phase7" =
        .error .overflowError ∧
      ¬FullyAudited s freshCase ctx (fun _ _ _ => { ok := true }) none "phase7" := by
  have hraised : executeWithGuards (openSession (fun _ => daytime) freshDb) freshCase
      { caseId := "case_1"
        action := { verb := .sendPaymentLink }
        now := ⟨253402299000000000, some 0⟩ } (fun _ _ _ => { ok := true }) none "phase7" =
      .error .overflowError := by
    rw [executeWithGuards_eq]
    exact if_pos (by decide)
  refine ⟨rfl, rfl, rfl, hraised, ?_⟩
  rintro ⟨run, outcome, gates, rest, made, hreturned, -⟩
  cases hraised.symm.trans hreturned

end RecoveryAgent.Runs
