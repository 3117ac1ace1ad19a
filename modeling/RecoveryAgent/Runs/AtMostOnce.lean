import RecoveryAgent.Runs.Requests

/-!
# At most one execution

The fingerprints executed on a case are those that its `action` rows replay.
The idempotency gate refuses a replayed fingerprint, and every executed action
leaves an `action` row with its own, so requests that trust the replay execute
no action twice, across requests and restarts.
-/

namespace RecoveryAgent.Runs

open Library Python Policy Ledger Guard

/-- A context that leaves the executed fingerprints to the replay and its own
fingerprint to the format. -/
structure FreshContext (case : CaseRow) (ctx : GuardContext) : Prop where
  caseId : ctx.caseId = case.id
  executed : ctx.executedFingerprints = ∅
  fingerprint : ctx.actionFingerprint = "" ∨ ctx.actionFingerprint = fingerprintAction ctx

/-- The request builds a fresh context from whatever row it loads. -/
def GuardedRequest.Fresh (r : GuardedRequest) : Prop :=
  ∀ case, case.id = r.caseId → FreshContext case (r.ctx case)

def Request.Fresh : Request → Prop
  | .guarded r => r.Fresh
  | _ => True

/-- The case and the fingerprint of a call. -/
def callKey (c : ExecutorCall) : String × String :=
  (c.caseId, actionFingerprint c.caseId c.action)

/-- The pairs of a case and a fingerprint that the ledger replays. -/
def replayedKeys (db : Db) : Set (String × String) :=
  {k | ∃ e ∈ db.trail k.1, e.kind = .action ∧ replayedFingerprint e = some k.2}

theorem mem_replayedKeys_iff {utcnow : ℕ → DateTime} {db : Db} {caseId fp : String} :
    (caseId, fp) ∈ replayedKeys db ↔
      fp ∈ executedFingerprints (openSession utcnow db) caseId :=
  (mem_executedFingerprints (s := openSession utcnow db)).symm

theorem FreshContext.fingerprint_eq {case : CaseRow} {ctx : GuardContext}
    (h : FreshContext case ctx) : ctx.fingerprint = actionFingerprint case.id ctx.action := by
  have hcomposed : fingerprintAction ctx = actionFingerprint case.id ctx.action := by
    rw [fingerprintAction, h.caseId]
  unfold GuardContext.fingerprint
  rcases h.fingerprint with hempty | hown
  · rw [if_pos hempty, hcomposed]
  · rw [hown, ite_self, hcomposed]

theorem replayed_fingerprint (ctx : GuardContext) (s : Session) (caseId : String) :
    (ctx.replayed s caseId).fingerprint = ctx.fingerprint := rfl

theorem FreshContext.idempotency_passed_iff {utcnow : ℕ → DateTime} {db : Db} {case : CaseRow}
    {ctx : GuardContext} (h : FreshContext case ctx) :
    (gateIdempotency (ctx.replayed (openSession utcnow db) case.id)).passed = true ↔
      (case.id, actionFingerprint case.id ctx.action) ∉ replayedKeys db := by
  have hexecuted : (ctx.replayed (openSession utcnow db) case.id).executedFingerprints =
      executedFingerprints (openSession utcnow db) case.id := by
    exact if_pos h.executed
  rw [Guard.idempotency_passed_iff, replayed_fingerprint, h.fingerprint_eq, hexecuted,
    mem_replayedKeys_iff]

theorem replayedFingerprint_actionFact (caseId policyVersion : String) (ctx : GuardContext)
    (s : Session) (result : Fields) :
    replayedFingerprint (actionFact caseId policyVersion (ctx.gated s caseId) result).toLedgerColumns
      = some ctx.fingerprint := by
  have hstamp : (ctx.gated s caseId).actionFingerprint = ctx.fingerprint :=
    replayed_fingerprint ctx s caseId
  have hstored : (actionFact caseId policyVersion (ctx.gated s caseId) result).payload.get?
      "action_fingerprint" = some (.str ctx.fingerprint) := by
    rw [← hstamp]
    rfl
  have htruthy : (Json.str ctx.fingerprint).truthy = true := by
    simp [Json.truthy, fingerprint_ne_empty]
  simp only [replayedFingerprint, hstored, Option.getD_some, htruthy, if_true, Json.text?_str]

/-- One call of the pipeline executes its own fingerprint, or none. -/
theorem executedFingerprints_verdict {s : Session} {case : CaseRow} {ctx : GuardContext}
    {conduct : Option (Action → CaseRow → Conduct)} {executeFn : Option ExecuteFn}
    {policyVersion : String} {audit : Fields} {e : Effect} (fp : String)
    (h : Verdict s case ctx conduct policyVersion audit e)
    (hconduct : Conducted executeFn conduct) :
    fp ∈ executedFingerprints (s.perform e) case.id ↔
      fp ∈ executedFingerprints s case.id ∨ (e.calls ≠ [] ∧ ctx.fingerprint = fp) := by
  rw [mem_executedFingerprints_perform (h.own hconduct).1]
  apply or_congr_right
  have hgates : ∀ f ∈ gateFacts s case.id ctx policyVersion audit, f.kind ≠ .action := by
    intro f hf
    rw [(mem_gateFacts hf).2.1]
    decide
  cases h with
  | stopped _ => simp
  | optedOut _ _ => simp [stopFact]
  | raised _ _ _ => simp
  | blocked _ _ _ _ =>
      simp only [ne_eq, not_true_eq_false, false_and, iff_false]
      rintro ⟨f, hf, hkind, -⟩
      exact hgates f hf hkind
  | admitted _ _ _ _ _ =>
      simp only [ne_eq, not_true_eq_false, false_and, iff_false]
      rintro ⟨f, hf, hkind, -⟩
      exact hgates f hf hkind
  | @executed _ _ _ _ act something =>
      subst something
      cases hconduct with
      | some hf =>
          have hown := replayedFingerprint_actionFact case.id policyVersion ctx s
            (act ctx.action (reopened case)).result
          constructor
          · rintro ⟨f, hmem, hkind, hfp⟩
            rcases List.mem_append.1 hmem with hmem | hmem
            · exact absurd hkind (hgates f hmem)
            · rcases List.mem_append.1 hmem with hmem | hmem
              · rcases (hf.lawful _ _).kinds f hmem with hkind' | hkind'
                · simp [hkind'] at hkind
                · simp [hkind'] at hkind
              · rw [List.mem_singleton.1 hmem, hown] at hfp
                exact ⟨by simp, Option.some.inj hfp⟩
          · rintro ⟨-, rfl⟩
            refine ⟨actionFact case.id policyVersion (ctx.gated s case.id) _, ?_, rfl, hown⟩
            simp

/-- A request only adds to the history. -/
theorem serve_history (utcnow : ℕ → DateTime) (db : Db) (request : Request) :
    ∃ rows, (serve utcnow db request).1.history = db.history ++ rows := by
  have hserved := serve_served utcnow db request
  generalize serve utcnow db request = out at hserved ⊢
  obtain ⟨db', made⟩ := out
  have hperformed : ∀ (e : Effect), db'.ledger = ((openSession utcnow db).perform e).db.ledger →
      ∃ rows, db'.history = db.history ++ rows := by
    intro e hledger
    refine ⟨e.facts.map (·.toLedgerColumns), ?_⟩
    have hhistory := (openSession utcnow db).perform_history e
    rw [Db.history, hledger]
    exact hhistory
  cases hserved with
  | idle _ => exact ⟨[], (List.append_nil _).symm⟩
  | opened _ ledger => exact hperformed _ ledger
  | guarded _ _ _ performed _ => exact hperformed _ (congrArg Db.ledger performed)
  | closed _ _ ledger => exact hperformed _ ledger

/-- A call is made by a guarded request on a case whose gates have all passed. It
is the only call of the request and its `action` row is in the trail. -/
theorem serve_call {utcnow : ℕ → DateTime} {db : Db} {request : Request} {c : ExecutorCall}
    (hc : c ∈ (serve utcnow db request).2) :
    ∃ r case, request = .guarded r ∧ case.id = r.caseId ∧
      (openSession utcnow db).Holds case ∧ isCaseStopped case = false ∧
      (r.ctx case).optOut = false ∧
      allPassed ((r.ctx case).checks (openSession utcnow db) case.id) = true ∧
      c.caseId = case.id ∧ c.action = (r.ctx case).action ∧
      (serve utcnow db request).2 = [c] ∧
      ∃ e ∈ (serve utcnow db request).1.trail case.id, e.kind = .action ∧
        replayedFingerprint e = some (r.ctx case).fingerprint := by
  have hserved := serve_served utcnow db request
  generalize serve utcnow db request = out at hserved hc ⊢
  obtain ⟨db', made⟩ := out
  cases hserved with
  | idle _ => cases hc
  | opened _ _ => cases hc
  | closed _ _ _ => cases hc
  | @guarded r case e _ _ id held verdict performed calls =>
      subst performed calls
      have hown := (verdict.own (r.conducted case)).1
      have htrail := (openSession utcnow db).perform_trail hown
      cases verdict with
      | stopped _ => cases hc
      | optedOut _ _ => cases hc
      | raised _ _ _ => cases hc
      | blocked _ _ _ _ => cases hc
      | admitted _ _ _ _ _ => cases hc
      | @executed running opt _ passed act _ =>
          rw [List.mem_singleton.1 hc]
          refine ⟨r, case, rfl, id, held, running, opt, passed, rfl, rfl, rfl, ?_⟩
          refine ⟨(actionFact case.id r.policyVersion
            ((r.ctx case).gated (openSession utcnow db) case.id)
              (act (r.ctx case).action (reopened case)).result).toLedgerColumns, ?_, rfl, ?_⟩
          · simp only [htrail, List.map_append, List.map_cons, List.map_nil]
            simp
          · exact replayedFingerprint_actionFact _ _ _ _ _

theorem idempotency_of_allPassed {ctx : GuardContext} {s : Session} {caseId : String}
    (h : allPassed (ctx.checks s caseId) = true) :
    (gateIdempotency (ctx.replayed s caseId)).passed = true :=
  (allPassed_gateVerdicts_iff.1 h).2.2.2.2.2

/-- The keys of the calls are recorded in the ledger. -/
theorem serve_recording (utcnow : ℕ → DateTime) :
    Run.Recording (serve utcnow) callKey replayedKeys fun _ request => request.Fresh where
  kept := by
    intro db request k hk
    obtain ⟨rows, hrows⟩ := serve_history utcnow db request
    obtain ⟨e, he, hreplayed⟩ := hk
    refine ⟨e, ?_, hreplayed⟩
    rw [Db.trail, hrows, List.filter_append]
    exact List.mem_append_left _ he
  fresh := by
    intro db request hfresh c hc
    obtain ⟨r, case, rfl, hid, -, -, -, hpassed, hcase, haction, -, -⟩ := serve_call hc
    have hgate := idempotency_of_allPassed hpassed
    rw [(hfresh case hid).idempotency_passed_iff, ← haction, ← hcase] at hgate
    exact hgate
  noted := by
    intro db request hfresh c hc
    obtain ⟨r, case, rfl, hid, -, -, -, -, hcase, haction, -, e, he, hkind, hfp⟩ := serve_call hc
    rw [(hfresh case hid).fingerprint_eq, ← haction, ← hcase] at hfp
    rw [← hcase] at he
    exact ⟨e, he, hkind, hfp⟩
  single := by
    intro db request
    cases hmade : (serve utcnow db request).2 with
    | nil => exact List.nodup_nil
    | cons c made =>
        have hc : c ∈ (serve utcnow db request).2 := by
          rw [hmade]
          exact List.mem_cons_self
        obtain ⟨_, _, -, -, -, -, -, -, -, -, hsingle, -⟩ := serve_call hc
        rw [← hmade, hsingle]
        exact List.nodup_singleton _

theorem refusal_of_not_passed {ctx : GuardContext} {s : Session} {caseId : String}
    (h : ¬(gateIdempotency (ctx.replayed s caseId)).passed = true) :
    gateIdempotency (ctx.gated s caseId) = ⟨"idempotency", false, "GATE_IDEM"⟩ := by
  have hmem := Guard.idempotency_passed_iff.not.1 h
  have hstamped := stamped_fingerprint (ctx.replayed s caseId)
  rw [gateIdempotency, if_pos]
  rw [GuardContext.gated, hstamped]
  exact not_not.1 hmem

/-- A refusal by the idempotency gate is among the returned checks. -/
theorem idempotency_mem_of_refused {r : GuardedRequest} {s : Session} {case : CaseRow}
    (hrunning : isCaseStopped case = false) (hopt : (r.ctx case).optOut = false)
    (hgate : gateIdempotency ((r.ctx case).gated s case.id) =
      ⟨"idempotency", false, "GATE_IDEM"⟩) (hreturns : (r.ctx case).raises = false) :
    ∃ run, r.run s case = .ok run ∧ ⟨"idempotency", false, "GATE_IDEM"⟩ ∈ run.result.checks := by
  have hmem : gateIdempotency ((r.ctx case).gated s case.id) ∈ (r.ctx case).checks s case.id := by
    simp [GuardContext.checks, gateVerdicts]
  rw [hgate] at hmem
  have hblocked : allPassed ((r.ctx case).checks s case.id) = false := by
    by_contra hpassed
    have hall : ∀ c ∈ (r.ctx case).checks s case.id, c.passed = true := by
      simpa [allPassed] using hpassed
    cases hall _ hmem
  have hon : (r.ctx case).raisesOn case = false := by simp [GuardContext.raisesOn, hreturns]
  refine ⟨_, guardAndMaybeExecute_of_returns hon _, ?_⟩
  rw [guardRun_of_blocked hrunning hopt hreturns hblocked]
  exact hmem

/-- At-most-once execution. However the requests on the cases follow each other,
no two of them execute an action with the same fingerprint on one case, and a
later request with an executed fingerprint is refused by the idempotency
gate, whose refusal is among the checks of every call that returns. -/
theorem executes_at_most_once (utcnow : ℕ → DateTime) (db : Db) (requests : List Request)
    (hfresh : ∀ request ∈ requests, request.Fresh) (caseId : String) :
    (((callsOf utcnow db requests).filter fun c => c.caseId = caseId).map
      fun c => actionFingerprint caseId c.action).Nodup ∧
    ∀ (r : GuardedRequest) (case : CaseRow), r.Fresh → r.caseId = caseId → case.id = caseId →
      (openSession utcnow (after utcnow db requests)).Holds case →
      isCaseStopped case = false → (r.ctx case).optOut = false →
      (∃ c ∈ callsOf utcnow db requests, c.caseId = caseId ∧
        actionFingerprint caseId c.action = actionFingerprint caseId (r.ctx case).action) →
      let s := openSession utcnow (after utcnow db requests)
      gateIdempotency ((r.ctx case).gated s case.id) = ⟨"idempotency", false, "GATE_IDEM"⟩ ∧
        ((r.ctx case).raises = false →
          ∃ run, r.run s case = .ok run ∧
            ⟨"idempotency", false, "GATE_IDEM"⟩ ∈ run.result.checks) := by
  have halong := Run.along_of_forall_mem (serve utcnow) db hfresh
  constructor
  · have hnodup := (serve_recording utcnow).emitted_nodup halong
    have hkeys : (((callsOf utcnow db requests).filter fun c => c.caseId = caseId).map
        callKey).Nodup := hnodup.sublist (List.filter_sublist.map _)
    have hpairs : ((callsOf utcnow db requests).filter fun c => c.caseId = caseId).map callKey =
        (((callsOf utcnow db requests).filter fun c => c.caseId = caseId).map
          fun c => actionFingerprint caseId c.action).map (Prod.mk caseId) := by
      rw [List.map_map]
      apply List.map_congr_left
      intro c hc
      have hcase : c.caseId = caseId := by simpa using (List.mem_filter.1 hc).2
      simp [callKey, hcase]
    rw [hpairs] at hkeys
    exact hkeys.of_map
  · intro r case hr hrid hid hheld hrunning hopt ⟨c, hc, hcase, hfp⟩
    have hrecorded := (serve_recording utcnow).emitted_noted halong c hc
    rw [callKey, hcase, hfp, ← hid] at hrecorded
    have hnot : ¬(gateIdempotency ((r.ctx case).replayed
        (openSession utcnow (after utcnow db requests)) case.id)).passed = true :=
      mt (hr case (hid.trans hrid.symm)).idempotency_passed_iff.1 (not_not.2 hrecorded)
    have hgate := refusal_of_not_passed hnot
    exact ⟨hgate, idempotency_mem_of_refused hrunning hopt hgate⟩

/-- A retry of the fresh case is executed once and refused the second time. -/
theorem executes_at_most_once_retry :
    (((callsOf (fun _ => daytime) freshDb [.guarded retryRequest]).filter
      fun c => c.caseId = "case_1").map fun c => actionFingerprint "case_1" c.action).Nodup ∧
    ∃ run, retryRequest.run
        (openSession (fun _ => daytime) (after (fun _ => daytime) freshDb [.guarded retryRequest]))
        { freshCase with attemptsUsed := 1 } = .ok run ∧
      ⟨"idempotency", false, "GATE_IDEM"⟩ ∈ run.result.checks := by
  have hfresh : retryRequest.Fresh := fun _ _ => ⟨rfl, rfl, Or.inl rfl⟩
  have honce := executes_at_most_once (fun _ => daytime) freshDb [.guarded retryRequest]
    (List.forall_mem_singleton.2 hfresh) "case_1"
  have hcall : ∃ c ∈ callsOf (fun _ => daytime) freshDb [.guarded retryRequest],
      c.caseId = "case_1" ∧ actionFingerprint "case_1" c.action =
        actionFingerprint "case_1" (retryRequest.ctx { freshCase with attemptsUsed := 1 }).action :=
    ⟨⟨"case_1", { verb := .scheduleRetry }, _⟩, List.mem_singleton_self _, rfl, rfl⟩
  have hlater := honce.2 retryRequest { freshCase with attemptsUsed := 1 } hfresh rfl rfl rfl rfl
    rfl hcall
  exact ⟨honce.1, hlater.2 rfl⟩

end RecoveryAgent.Runs
