import RecoveryAgent.Guard.Pipeline
import RecoveryAgent.Ledger.Effect

/-!
# The pipeline in normal form

An `execute_fn` conducts itself well when all it does to the session is to make
one call, write the case it was given and append facts. For such a function one
call of the pipeline performs one effect, and the effect is read off five
cases: the case is stopped, the payer opts out, a gate refuses, the gates pass
with nothing to execute, and the gates pass and the action is executed.
-/

namespace RecoveryAgent.Guard

open Python Policy Ledger

/-- What an `execute_fn` returns and writes. -/
structure Conduct where
  result : Fields
  case : CaseRow
  facts : List LedgerFact := []

/-- What an `execute_fn` may write on the case it was given: outcome rows, and a
stop together with its row. -/
structure Conduct.Lawful (done : Conduct) (case : CaseRow) : Prop where
  id : done.case.id = case.id
  own : ∀ f ∈ done.facts, f.caseId = case.id
  stops : ((∀ f ∈ done.facts, f.kind = .outcome) ∧ done.case.status = case.status ∧
      done.case.stopReason = case.stopReason) ∨
    ∃ facts reason policyVersion, (∀ f ∈ facts, f.kind = .outcome) ∧
      done.facts = facts ++ [stopFact case.id reason policyVersion] ∧
        done.case.status = reason.status ∧ done.case.stopReason = some reason.value

theorem Conduct.Lawful.kinds {done : Conduct} {case : CaseRow} (h : done.Lawful case) :
    ∀ f ∈ done.facts, f.kind = .outcome ∨ f.kind = .stop := by
  intro f hf
  rcases h.stops with ⟨hkinds, -⟩ | ⟨facts, reason, policyVersion, hkinds, hfacts, -⟩
  · exact Or.inl (hkinds f hf)
  · rw [hfacts] at hf
    rcases List.mem_append.1 hf with hf | hf
    · exact Or.inl (hkinds f hf)
    · right
      rw [List.mem_singleton.1 hf]
      rfl

/-- `f` makes one call and otherwise only does what `conduct` says. -/
structure ExecuteFn.Conducts (f : ExecuteFn) (conduct : Action → CaseRow → Conduct) : Prop where
  eq : ∀ action case s, s.Holds case →
    f action case s = ((conduct action case).result, (conduct action case).case,
      s.perform ⟨(conduct action case).case, (conduct action case).facts,
        [⟨case.id, action, (conduct action case).result⟩]⟩)
  lawful : ∀ action case, (conduct action case).Lawful case

theorem ExecuteFn.ofBackend_conducts (backend : Action → CaseRow → Fields) :
    (ExecuteFn.ofBackend backend).Conducts fun action case => ⟨backend action case, case, []⟩ where
  eq := by
    intro action case s h
    unfold ExecuteFn.ofBackend
    rw [h.call_eq_perform]
  lawful := by
    intro action case
    exact ⟨rfl, by simp, Or.inl ⟨by simp, rfl, rfl⟩⟩

/-- The context as the gates see it. -/
def GuardContext.gated (ctx : GuardContext) (s : Session) (caseId : String) : GuardContext :=
  (ctx.replayed s caseId).stamped

def GuardContext.checks (ctx : GuardContext) (s : Session) (caseId : String) : List GateCheck :=
  gateVerdicts (ctx.gated s caseId)

def gateFacts (s : Session) (caseId : String) (ctx : GuardContext) (policyVersion : String)
    (audit : Fields) : List LedgerFact :=
  (ctx.checks s caseId).map (gateFact caseId policyVersion (ctx.gated s caseId)
    (audit.setDefault "proposed_by" (.str (ctx.gated s caseId).action.proposedBy.value)))

@[simp] theorem gated_action (ctx : GuardContext) (s : Session) (caseId : String) :
    (ctx.gated s caseId).action = ctx.action := rfl

/-- What the gates ask of a context. -/
theorem checks_allPassed_iff {ctx : GuardContext} {s : Session} {caseId : String} :
    allPassed (ctx.checks s caseId) = true ↔
      (strip (ctx.failureClass.getD "") = "risk_fraud" → ctx.action.verb = .escalateHuman) ∧
      (isContactAction ctx = true → ctx.contactWindowStartHourIst ≤ ctx.now.istHour ∧
        ctx.now.istHour < ctx.contactWindowEndHourIst) ∧
      (isContactAction ctx = true → ctx.contactsUsed < ctx.maxContacts) ∧
      (ctx.action.verb ≠ .escalateHuman →
        ctx.mandateState ≠ some .revoked ∧ ctx.mandateState ≠ some .expired) ∧
      (ctx.action.verb ≠ .escalateHuman → ctx.attemptsUsed < ctx.maxAttempts) ∧
      ctx.fingerprint ∉ ctx.executedOn s caseId := by
  rw [GuardContext.checks, GuardContext.gated, allPassed_gateVerdicts_iff,
    prohibitedRecovery_passed_iff,
    contactWindow_passed_iff, frequencyCap_passed_iff, mandateValidity_passed_iff,
    attemptCap_passed_iff, idempotency_passed_iff]
  rfl

/-- An effect on the case adds the fingerprints of its `action` rows. -/
theorem mem_executedFingerprints_perform {s : Session} {e : Effect} {caseId fp : String}
    (hown : ∀ f ∈ e.facts, f.caseId = caseId) :
    fp ∈ executedFingerprints (s.perform e) caseId ↔
      fp ∈ executedFingerprints s caseId ∨
        ∃ f ∈ e.facts, f.kind = .action ∧ replayedFingerprint f.toLedgerColumns = some fp := by
  rw [mem_executedFingerprints, mem_executedFingerprints]
  exact s.exists_trail_perform hown fun c => c.kind = .action ∧ replayedFingerprint c = some fp

@[simp] theorem reopened_id (case : CaseRow) : (reopened case).id = case.id := by
  unfold reopened
  split <;> rfl

/-- A running case is open once the gates have passed. -/
theorem reopened_status {case : CaseRow} (hrunning : isCaseStopped case = false) :
    (reopened case).status = .opened ∧ (reopened case).stopReason = case.stopReason := by
  unfold reopened
  rcases isCaseStopped_eq_false_iff.1 hrunning with h | h
  · simp [h]
  · simp [h]

/-- What one call of the pipeline on a held case writes. -/
def guardEffect (s : Session) (case : CaseRow) (ctx : GuardContext)
    (conduct : Option (Action → CaseRow → Conduct)) (policyVersion : String) (audit : Fields) :
    Effect :=
  if isCaseStopped case then { case }
  else if ctx.optOut then
    { case := stoppedCase case .optOut, facts := [stopFact case.id .optOut policyVersion] }
  else if ctx.raises then { case }
  else if !allPassed (ctx.checks s case.id) then
    { case := { case with status := .blocked }
      facts := gateFacts s case.id ctx policyVersion audit }
  else
    match conduct with
    | none => { case := reopened case, facts := gateFacts s case.id ctx policyVersion audit }
    | some conduct =>
        let done := conduct (ctx.gated s case.id).action (reopened case)
        { case := done.case
          facts := gateFacts s case.id ctx policyVersion audit ++ (done.facts ++
            [actionFact case.id policyVersion (ctx.gated s case.id) done.result])
          calls := [⟨case.id, (ctx.gated s case.id).action, done.result⟩] }

/-- The optional `execute_fn` of the pipeline and what it conducts. -/
inductive Conducted : Option ExecuteFn → Option (Action → CaseRow → Conduct) → Prop where
  | none : Conducted none none
  | some {f : ExecuteFn} {conduct : Action → CaseRow → Conduct} (h : f.Conducts conduct) :
      Conducted (some f) (some conduct)

section

variable {s : Session} {case : CaseRow} {ctx : GuardContext} {policyVersion : String}
  {audit : Fields}

theorem guardRun_of_stopped (hstopped : isCaseStopped case = true)
    (executeFn : Option ExecuteFn) :
    guardRun s case ctx executeFn policyVersion audit =
      { result :=
          { allowed := false
            skippedBecauseStopped := true
            blockedBy :=
              some (if case.stopReason.getD "" = "" then "stopped" else case.stopReason.getD "") }
        ctx, case, session := s } := by
  rw [guardRun, guardAndMaybeExecute, if_pos hstopped]

theorem guardRun_of_optOut (hopen : isCaseStopped case = false)
    (hopt : ctx.optOut = true) (executeFn : Option ExecuteFn) :
    guardRun s case ctx executeFn policyVersion audit =
      { result := { allowed := false, blockedBy := some "opt_out", skippedBecauseStopped := true }
        ctx
        case := (applyStop s case .optOut policyVersion).1
        session := (applyStop s case .optOut policyVersion).2 } := by
  rw [guardRun, guardAndMaybeExecute, if_neg (by simp [hopen]), if_pos hopt]

/-- A call that reaches the gates returns what it does with their checks, or raises what
they raise. -/
theorem guardAndMaybeExecute_of_running (hopen : isCaseStopped case = false)
    (hopt : ctx.optOut = false) (executeFn : Option ExecuteFn) :
    guardAndMaybeExecute s case ctx executeFn policyVersion audit =
      if ctx.raises then .error .overflowError
      else if !allPassed (ctx.checks s case.id) then .ok
        { result :=
            { allowed := false
              checks := ctx.checks s case.id
              blockedBy := ((ctx.checks s case.id).find? fun c => !c.passed).map (·.name)
              ledgerSeqs :=
                (s.recorded (gateFacts s case.id ctx policyVersion audit)).map (·.seq) }
          ctx := ctx.gated s case.id
          case := { case with status := .blocked }
          session := (s.record (gateFacts s case.id ctx policyVersion audit)).add
            { case with status := .blocked } }
      else .ok (executeAdmitted
        (if case.status = .blocked then
          (s.record (gateFacts s case.id ctx policyVersion audit)).add (reopened case)
        else s.record (gateFacts s case.id ctx policyVersion audit))
        (reopened case) (ctx.gated s case.id) (ctx.checks s case.id)
        ((s.recorded (gateFacts s case.id ctx policyVersion audit)).map (·.seq))
        executeFn policyVersion) := by
  have hgates : runGates (ctx.replayed s case.id) =
      if ctx.raises then .error .overflowError
      else .ok (ctx.checks s case.id, ctx.gated s case.id) := runGates_eq _
  rw [guardAndMaybeExecute, if_neg (by simp [hopen]), if_neg (by simp [hopt]), hgates]
  cases ctx.raises with
  | true => rfl
  | false =>
      simp only [Bool.false_eq_true, if_false]
      cases hpassed : allPassed (ctx.checks s case.id) with
      | false =>
          have hrefused : (!allPassed (ctx.checks s case.id)) = true := by simp [hpassed]
          exact if_pos hrefused
      | true =>
          have hadmitted : ¬(!allPassed (ctx.checks s case.id)) = true := by simp [hpassed]
          exact if_neg hadmitted

/-- A call that raises leaves everything as it was. -/
theorem guardRun_of_raises (hopen : isCaseStopped case = false) (hopt : ctx.optOut = false)
    (hraises : ctx.raises = true) (executeFn : Option ExecuteFn) :
    guardRun s case ctx executeFn policyVersion audit =
      { result := { allowed := false }, ctx, case, session := s } := by
  rw [guardRun, guardAndMaybeExecute_of_running hopen hopt, if_pos hraises]

theorem guardRun_of_blocked (hopen : isCaseStopped case = false)
    (hopt : ctx.optOut = false) (hreturns : ctx.raises = false)
    (hblocked : allPassed (ctx.checks s case.id) = false) (executeFn : Option ExecuteFn) :
    guardRun s case ctx executeFn policyVersion audit =
      { result :=
          { allowed := false
            checks := ctx.checks s case.id
            blockedBy := ((ctx.checks s case.id).find? fun c => !c.passed).map (·.name)
            ledgerSeqs :=
              (s.recorded (gateFacts s case.id ctx policyVersion audit)).map (·.seq) }
        ctx := ctx.gated s case.id
        case := { case with status := .blocked }
        session := (s.record (gateFacts s case.id ctx policyVersion audit)).add
          { case with status := .blocked } } := by
  rw [guardRun, guardAndMaybeExecute_of_running hopen hopt, if_neg (by simp [hreturns]),
    if_pos (by simp [hblocked])]

theorem guardRun_of_passed (hopen : isCaseStopped case = false)
    (hopt : ctx.optOut = false) (hreturns : ctx.raises = false)
    (hpassed : allPassed (ctx.checks s case.id) = true) (executeFn : Option ExecuteFn) :
    guardRun s case ctx executeFn policyVersion audit =
      executeAdmitted
        (if case.status = .blocked then
          (s.record (gateFacts s case.id ctx policyVersion audit)).add (reopened case)
        else s.record (gateFacts s case.id ctx policyVersion audit))
        (reopened case) (ctx.gated s case.id) (ctx.checks s case.id)
        ((s.recorded (gateFacts s case.id ctx policyVersion audit)).map (·.seq))
        executeFn policyVersion := by
  rw [guardRun, guardAndMaybeExecute_of_running hopen hopt, if_neg (by simp [hreturns]),
    if_neg (by simp [hpassed])]

/-- A call returns what it leaves behind, unless it raises. -/
theorem guardAndMaybeExecute_eq (executeFn : Option ExecuteFn) :
    guardAndMaybeExecute s case ctx executeFn policyVersion audit =
      if ctx.raisesOn case then .error .overflowError
      else .ok (guardRun s case ctx executeFn policyVersion audit) := by
  unfold GuardContext.raisesOn
  cases hopen : isCaseStopped case with
  | true =>
      rw [guardRun_of_stopped hopen, guardAndMaybeExecute, if_pos hopen]
      rfl
  | false =>
      cases hopt : ctx.optOut with
      | true =>
          rw [guardRun_of_optOut hopen hopt, guardAndMaybeExecute, if_neg (by simp [hopen]),
            if_pos hopt]
          rfl
      | false =>
          rw [guardRun, guardAndMaybeExecute_of_running hopen hopt]
          cases ctx.raises with
          | true => rfl
          | false =>
              simp only [Bool.false_eq_true, if_false, Bool.not_false, Bool.and_false]
              split
              · rfl
              · rfl

theorem guardAndMaybeExecute_of_returns (h : ctx.raisesOn case = false)
    (executeFn : Option ExecuteFn) :
    guardAndMaybeExecute s case ctx executeFn policyVersion audit =
      .ok (guardRun s case ctx executeFn policyVersion audit) := by
  rw [guardAndMaybeExecute_eq, if_neg (by simp [h])]

/-- The session once all gates have passed: the gate rows are written, and a
blocked case is open again. -/
theorem admitted_eq_perform (h : s.Holds case) (facts : List LedgerFact) :
    (if case.status = .blocked then (s.record facts).add (reopened case) else s.record facts) =
      s.perform ⟨reopened case, facts, []⟩ := by
  by_cases hblocked : case.status = .blocked
  · rw [if_pos hblocked]
    exact h.record_add (reopened_id case) facts
  · rw [if_neg hblocked, h.record_eq_perform, reopened, if_neg hblocked]

/-- Executing an admitted action: one call, the writes of the `execute_fn`, and
the `action` row. -/
theorem executeAdmitted_eq (h : s.Holds case) {f : ExecuteFn}
    {conduct : Action → CaseRow → Conduct} (hf : f.Conducts conduct) (checks : List GateCheck)
    (seqs : List ℕ) :
    executeAdmitted s case ctx checks seqs (some f) policyVersion =
      { result :=
          { allowed := true
            checks
            executed := true
            executeResult := some (conduct ctx.action case).result
            ledgerSeqs := seqs }
        ctx :=
          { ctx with
            executedFingerprints := insert ctx.actionFingerprint ctx.executedFingerprints }
        case := (conduct ctx.action case).case
        session := s.perform
          { case := (conduct ctx.action case).case
            facts := (conduct ctx.action case).facts ++
              [actionFact case.id policyVersion ctx (conduct ctx.action case).result]
            calls := [⟨case.id, ctx.action, (conduct ctx.action case).result⟩] } } := by
  have hid := (hf.lawful ctx.action case).id
  have hheld : (s.perform ⟨(conduct ctx.action case).case, (conduct ctx.action case).facts,
      [⟨case.id, ctx.action, (conduct ctx.action case).result⟩]⟩).Holds
        (conduct ctx.action case).case :=
    h.perform hid
  have hrow := hheld.record_eq_perform
    [actionFact case.id policyVersion ctx (conduct ctx.action case).result]
  rw [Session.perform_perform] at hrow
  · simp only [executeAdmitted, hf.eq ctx.action case s h, hid]
    congr 1
  · rfl

/-- One call of the pipeline performs its effect, and returns the case as the
effect leaves it. -/
theorem guardRun_eq {executeFn : Option ExecuteFn}
    {conduct : Option (Action → CaseRow → Conduct)} (hconduct : Conducted executeFn conduct)
    (h : s.Holds case) :
    (guardRun s case ctx executeFn policyVersion audit).session =
      s.perform (guardEffect s case ctx conduct policyVersion audit) ∧
    (guardRun s case ctx executeFn policyVersion audit).case =
      (guardEffect s case ctx conduct policyVersion audit).case := by
  unfold guardEffect
  cases hopen : isCaseStopped case with
  | true =>
      rw [guardRun_of_stopped hopen]
      exact ⟨h.perform_idle.symm, rfl⟩
  | false =>
      cases hopt : ctx.optOut with
      | true =>
          rw [guardRun_of_optOut hopen hopt, applyStop_eq h]
          exact ⟨rfl, rfl⟩
      | false =>
          cases hraises : ctx.raises with
          | true =>
              rw [guardRun_of_raises hopen hopt hraises]
              exact ⟨h.perform_idle.symm, rfl⟩
          | false =>
              cases hpassed : allPassed (ctx.checks s case.id) with
              | false =>
                  have hid : ({ case with status := .blocked } : CaseRow).id = case.id := rfl
                  rw [guardRun_of_blocked hopen hopt hraises hpassed, h.record_add hid]
                  exact ⟨rfl, rfl⟩
              | true =>
                  rw [guardRun_of_passed hopen hopt hraises hpassed, admitted_eq_perform h]
                  cases hconduct with
                  | none => exact ⟨rfl, rfl⟩
                  | some hf =>
                      have hheld := h.perform (e := ⟨reopened case,
                        gateFacts s case.id ctx policyVersion audit, []⟩) (reopened_id case)
                      rw [executeAdmitted_eq hheld hf, Session.perform_perform]
                      · simp only [reopened_id, List.nil_append]
                        exact ⟨rfl, rfl⟩
                      · exact (hf.lawful _ _).id.symm

end

/-- The guard lets the action through on this row. -/
structure LetThrough (s : Session) (case : CaseRow) (ctx : GuardContext) : Prop where
  running : isCaseStopped case = false
  optOut : ctx.optOut = false
  returns : ctx.raises = false
  passed : allPassed (ctx.checks s case.id) = true

section

variable {s : Session} {case : CaseRow} {ctx : GuardContext} {policyVersion : String}
  {audit : Fields}

theorem not_letThrough_of_stopped (h : isCaseStopped case = true) : ¬LetThrough s case ctx := by
  intro hlet
  rw [hlet.running] at h
  cases h

theorem not_letThrough_of_optOut (h : ctx.optOut = true) : ¬LetThrough s case ctx := by
  intro hlet
  rw [hlet.optOut] at h
  cases h

theorem not_letThrough_of_refused (h : allPassed (ctx.checks s case.id) = false) :
    ¬LetThrough s case ctx := by
  intro hlet
  rw [hlet.passed] at h
  cases h

theorem not_letThrough_of_raises (h : ctx.raises = true) : ¬LetThrough s case ctx := by
  intro hlet
  rw [hlet.returns] at h
  cases h

theorem LetThrough.raisesOn (h : LetThrough s case ctx) : ctx.raisesOn case = false := by
  simp [GuardContext.raisesOn, h.returns]

/-- What is let through is allowed, and executed if there is anything to execute
it with. -/
theorem LetThrough.result (h : LetThrough s case ctx) (executeFn : Option ExecuteFn) :
    (guardRun s case ctx executeFn policyVersion audit).result.allowed = true ∧
    (guardRun s case ctx executeFn policyVersion audit).result.executed =
      executeFn.isSome := by
  rw [guardRun_of_passed h.running h.optOut h.returns h.passed]
  cases executeFn with
  | none => exact ⟨rfl, rfl⟩
  | some f => exact ⟨rfl, rfl⟩

/-- What is not let through is neither allowed nor executed. -/
theorem result_of_not_letThrough (h : ¬LetThrough s case ctx) (executeFn : Option ExecuteFn) :
    (guardRun s case ctx executeFn policyVersion audit).result.allowed = false ∧
    (guardRun s case ctx executeFn policyVersion audit).result.executed = false := by
  cases hopen : isCaseStopped case with
  | true =>
      rw [guardRun_of_stopped hopen]
      exact ⟨rfl, rfl⟩
  | false =>
      cases hopt : ctx.optOut with
      | true =>
          rw [guardRun_of_optOut hopen hopt]
          exact ⟨rfl, rfl⟩
      | false =>
          cases hraises : ctx.raises with
          | true =>
              rw [guardRun_of_raises hopen hopt hraises]
              exact ⟨rfl, rfl⟩
          | false =>
              cases hpassed : allPassed (ctx.checks s case.id) with
              | true => exact absurd ⟨hopen, hopt, hraises, hpassed⟩ h
              | false =>
                  rw [guardRun_of_blocked hopen hopt hraises hpassed]
                  exact ⟨rfl, rfl⟩

theorem LetThrough.effect (h : LetThrough s case ctx) (act : Action → CaseRow → Conduct) :
    guardEffect s case ctx (some act) policyVersion audit =
      { case := (act ctx.action (reopened case)).case
        facts := gateFacts s case.id ctx policyVersion audit ++
          ((act ctx.action (reopened case)).facts ++
            [actionFact case.id policyVersion (ctx.gated s case.id)
              (act ctx.action (reopened case)).result])
        calls := [⟨case.id, ctx.action, (act ctx.action (reopened case)).result⟩] } := by
  unfold guardEffect
  rw [if_neg (by simp [h.running]), if_neg (by simp [h.optOut]), if_neg (by simp [h.returns]),
    if_neg (by simp [h.passed])]
  rfl

theorem calls_of_nothing : (guardEffect s case ctx none policyVersion audit).calls = [] := by
  unfold guardEffect
  split
  · rfl
  · split
    · rfl
    · split
      · rfl
      · split
        · rfl
        · rfl

theorem calls_of_not_letThrough (h : ¬LetThrough s case ctx)
    (conduct : Option (Action → CaseRow → Conduct)) :
    (guardEffect s case ctx conduct policyVersion audit).calls = [] := by
  unfold guardEffect
  split
  · rfl
  · next hopen =>
      split
      · rfl
      · next hopt =>
          split
          · rfl
          · next hreturns =>
              split
              · rfl
              · next hpassed => exact absurd ⟨by simpa using hopen, by simpa using hopt,
                  by simpa using hreturns, by simpa using hpassed⟩ h

end

/-!
## The six cases
-/

/-- What the pipeline can write on a case. -/
inductive Verdict (s : Session) (case : CaseRow) (ctx : GuardContext)
    (conduct : Option (Action → CaseRow → Conduct)) (policyVersion : String) (audit : Fields) :
    Effect → Prop where
  | stopped (stopped : isCaseStopped case = true) :
      Verdict s case ctx conduct policyVersion audit { case }
  | optedOut (running : isCaseStopped case = false) (opt : ctx.optOut = true) :
      Verdict s case ctx conduct policyVersion audit
        { case := stoppedCase case .optOut, facts := [stopFact case.id .optOut policyVersion] }
  | raised (running : isCaseStopped case = false) (opt : ctx.optOut = false)
      (raises : ctx.raises = true) :
      Verdict s case ctx conduct policyVersion audit { case }
  | blocked (running : isCaseStopped case = false) (opt : ctx.optOut = false)
      (returns : ctx.raises = false) (refused : allPassed (ctx.checks s case.id) = false) :
      Verdict s case ctx conduct policyVersion audit
        { case := { case with status := .blocked }
          facts := gateFacts s case.id ctx policyVersion audit }
  | admitted (running : isCaseStopped case = false) (opt : ctx.optOut = false)
      (returns : ctx.raises = false) (passed : allPassed (ctx.checks s case.id) = true)
      (nothing : conduct = none) :
      Verdict s case ctx conduct policyVersion audit
        { case := reopened case, facts := gateFacts s case.id ctx policyVersion audit }
  | executed (running : isCaseStopped case = false) (opt : ctx.optOut = false)
      (returns : ctx.raises = false) (passed : allPassed (ctx.checks s case.id) = true)
      {act : Action → CaseRow → Conduct} (something : conduct = some act) :
      Verdict s case ctx conduct policyVersion audit
        { case := (act ctx.action (reopened case)).case
          facts := gateFacts s case.id ctx policyVersion audit ++
            ((act ctx.action (reopened case)).facts ++
              [actionFact case.id policyVersion (ctx.gated s case.id)
                (act ctx.action (reopened case)).result])
          calls := [⟨case.id, ctx.action, (act ctx.action (reopened case)).result⟩] }

theorem guardEffect_verdict (s : Session) (case : CaseRow) (ctx : GuardContext)
    (conduct : Option (Action → CaseRow → Conduct)) (policyVersion : String) (audit : Fields) :
    Verdict s case ctx conduct policyVersion audit
      (guardEffect s case ctx conduct policyVersion audit) := by
  unfold guardEffect
  cases hrunning : isCaseStopped case with
  | true => exact .stopped hrunning
  | false =>
      cases hopt : ctx.optOut with
      | true => exact .optedOut hrunning hopt
      | false =>
          cases hraises : ctx.raises with
          | true => exact .raised hrunning hopt hraises
          | false =>
              cases hpassed : allPassed (ctx.checks s case.id) with
              | false => exact .blocked hrunning hopt hraises hpassed
              | true =>
                  cases hconduct : conduct with
                  | none => exact .admitted hrunning hopt hraises hpassed rfl
                  | some act =>
                      have hexecuted : Verdict s case ctx (some act) policyVersion audit _ :=
                        .executed hrunning hopt hraises hpassed rfl
                      simpa using hexecuted

section

variable {s : Session} {case : CaseRow} {ctx : GuardContext}
  {conduct : Option (Action → CaseRow → Conduct)} {policyVersion : String} {audit : Fields}

theorem mem_gateFacts {caseId : String} {f : LedgerFact}
    (hf : f ∈ gateFacts s caseId ctx policyVersion audit) :
    f.caseId = caseId ∧ f.kind = .gateCheck ∧
      ∃ c ∈ ctx.checks s caseId, f.gateName = some c.name ∧ f.gateResult = some c.gateResult := by
  obtain ⟨c, hc, rfl⟩ := List.mem_map.1 hf
  exact ⟨rfl, rfl, c, hc, rfl, rfl⟩

theorem checks_length (ctx : GuardContext) (s : Session) (caseId : String) :
    (ctx.checks s caseId).length = 6 := by
  have hnames := congrArg List.length (gateVerdicts_names (ctx.gated s caseId))
  rw [List.length_map] at hnames
  exact hnames

theorem gateFacts_length (caseId : String) :
    (gateFacts s caseId ctx policyVersion audit).length = 6 := by
  rw [gateFacts, List.length_map, checks_length]

/-- The case keeps its id. -/
theorem Verdict.id {e : Effect} (h : Verdict s case ctx conduct policyVersion audit e)
    {executeFn : Option ExecuteFn} (hconduct : Conducted executeFn conduct) :
    e.case.id = case.id := by
  cases h with
  | stopped _ => rfl
  | optedOut _ _ => rfl
  | raised _ _ _ => rfl
  | blocked _ _ _ _ => rfl
  | admitted _ _ _ _ _ => exact reopened_id case
  | executed _ _ _ _ something =>
      subst something
      cases hconduct with
      | some hf => exact ((hf.lawful _ _).id).trans (reopened_id case)

/-- Every row and every call belongs to the case. -/
theorem Verdict.own {e : Effect} (h : Verdict s case ctx conduct policyVersion audit e)
    {executeFn : Option ExecuteFn} (hconduct : Conducted executeFn conduct) :
    (∀ f ∈ e.facts, f.caseId = case.id) ∧ ∀ c ∈ e.calls, c.caseId = case.id := by
  have hgates : ∀ f ∈ gateFacts s case.id ctx policyVersion audit, f.caseId = case.id :=
    fun f hf => (mem_gateFacts hf).1
  cases h with
  | stopped _ => simp
  | optedOut _ _ => simp [stopFact]
  | raised _ _ _ => simp
  | blocked _ _ _ _ => exact ⟨hgates, by simp⟩
  | admitted _ _ _ _ _ => exact ⟨hgates, by simp⟩
  | executed _ _ _ _ something =>
      subst something
      cases hconduct with
      | some hf =>
          refine ⟨?_, by simp⟩
          intro f hmem
          rcases List.mem_append.1 hmem with hmem | hmem
          · exact hgates f hmem
          · rcases List.mem_append.1 hmem with hmem | hmem
            · rw [(hf.lawful _ _).own f hmem, reopened_id]
            · rw [List.mem_singleton.1 hmem]
              rfl

/-- One `action` row is written for each call. -/
theorem Verdict.action_rows {e : Effect} (h : Verdict s case ctx conduct policyVersion audit e)
    {executeFn : Option ExecuteFn} (hconduct : Conducted executeFn conduct) :
    e.facts.countP (fun f => f.kind = .action) = e.calls.length := by
  have hgates : (gateFacts s case.id ctx policyVersion audit).countP
      (fun f => f.kind = .action) = 0 := by
    rw [List.countP_eq_zero]
    intro f hf
    simp [(mem_gateFacts hf).2.1]
  cases h with
  | stopped _ => rfl
  | optedOut _ _ => rfl
  | raised _ _ _ => rfl
  | blocked _ _ _ _ => exact hgates
  | admitted _ _ _ _ _ => exact hgates
  | @executed _ _ _ _ act something =>
      subst something
      cases hconduct with
      | some hf =>
          have hwritten :
              (act ctx.action (reopened case)).facts.countP (fun f => f.kind = .action) = 0 := by
            rw [List.countP_eq_zero]
            intro f hmem
            rcases (hf.lawful ctx.action (reopened case)).kinds f hmem with hkind | hkind
            · simp [hkind]
            · simp [hkind]
          rw [List.countP_append, List.countP_append, hgates, hwritten]
          rfl

end

end RecoveryAgent.Guard
