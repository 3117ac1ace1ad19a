import RecoveryAgent.Guard.Effects

/-!
# Execution behind the guard

`execute/base.py` and `execute/service.py`: the outcome of an action, and
`execute_with_guards`, which runs an executor as the `execute_fn` of the guard
pipeline, writes the outcome and keeps the counters of the case.
-/

namespace RecoveryAgent.Execute

open Python Policy Ledger Guard

/-- Result of attempting an action against a backend. -/
structure Outcome where
  ok : Bool
  externalId : Option String := none
  recovered : Bool := false
  status : String := "ok"
  raw : Fields := []
  note : String := ""

def Outcome.modelDump (out : Outcome) : Fields :=
  [("ok", .bool out.ok),
    ("external_id", .ofOptStr out.externalId),
    ("recovered", .bool out.recovered),
    ("status", .str out.status),
    ("raw", .obj out.raw),
    ("note", .str out.note)]

/-- Extra context an executor needs. -/
structure ExecuteMeta where
  failureReason : String := "unknown"
  failureDom : ℤ := 15
  observedCreditDay : Option ℤ := none
  paymentRef : Option String := none
  dryRun : Bool := false
  seed : String := "exec"

/-- `executor.run`. It may be anything that returns an outcome. -/
abbrev Executor := Action → CaseRow → ExecuteMeta → Outcome

def outcomeFact (caseId policyVersion : String) (out : Outcome) : LedgerFact where
  caseId
  kind := .outcome
  actor := .system
  payload := out.modelDump
  reasonCode := out.status
  policyVersion

/-- The callback `_exec`: it runs the executor, writes the outcome, and then
stops the case, or counts the attempt or the contact. -/
def exec (executor : Executor) (execMeta : ExecuteMeta) (policyVersion : String) : ExecuteFn :=
  fun action c s =>
    let out := executor action c execMeta
    let s := s.call c.id action out.modelDump
    let s := s.appendLedger (outcomeFact c.id policyVersion out)
    if out.recovered then
      let (c, s) := applyStop s c .recovered policyVersion
      (out.modelDump, c, s)
    else if action.verb = .scheduleRetry then
      let c := { c with attemptsUsed := c.attemptsUsed + 1 }
      (out.modelDump, c, s.add c)
    else if action.verb = .sendPaymentLink ∨ action.verb = .requestMandateUpdate then
      let c :=
        { c with contactsUsed := c.contactsUsed + 1, lastAction := some action.verb.value }
      (out.modelDump, c, s.add c)
    else (out.modelDump, c, s)

/-- `execute_with_guards`: the pipeline run with `_exec`, and the outcome that
`_exec` has put in its box. -/
def executeWithGuards (s : Session) (case : CaseRow) (ctx : GuardContext) (executor : Executor)
    (execMeta : Option ExecuteMeta) (policyVersion : String) :
    Except PyError (GuardRun × Option Outcome) := do
  let execMeta := execMeta.getD { failureReason := "unknown", seed := case.id }
  let run ← guardAndMaybeExecute s case ctx (some (exec executor execMeta policyVersion))
    policyVersion []
  return (run,
    if run.result.executed then some (executor ctx.action (reopened case) execMeta) else none)

/-- What a call of `execute_with_guards` leaves behind, also where it raises. -/
def serviceRun (s : Session) (case : CaseRow) (ctx : GuardContext) (executor : Executor)
    (execMeta : Option ExecuteMeta) (policyVersion : String) : GuardRun × Option Outcome :=
  let execMeta := execMeta.getD { failureReason := "unknown", seed := case.id }
  let run := guardRun s case ctx (some (exec executor execMeta policyVersion)) policyVersion []
  (run, if run.result.executed then some (executor ctx.action (reopened case) execMeta) else none)

theorem executeWithGuards_eq (s : Session) (case : CaseRow) (ctx : GuardContext)
    (executor : Executor) (execMeta : Option ExecuteMeta) (policyVersion : String) :
    executeWithGuards s case ctx executor execMeta policyVersion =
      if ctx.raisesOn case then .error .overflowError
      else .ok (serviceRun s case ctx executor execMeta policyVersion) := by
  unfold executeWithGuards serviceRun
  simp only [guardAndMaybeExecute_eq]
  cases ctx.raisesOn case with
  | true => rfl
  | false => rfl

theorem executeWithGuards_eq_ok {s : Session} {case : CaseRow} {ctx : GuardContext}
    {executor : Executor} {execMeta : Option ExecuteMeta} {policyVersion : String}
    {ran : GuardRun × Option Outcome}
    (h : executeWithGuards s case ctx executor execMeta policyVersion = .ok ran) :
    ran = serviceRun s case ctx executor execMeta policyVersion := by
  rw [executeWithGuards_eq] at h
  split at h
  · cases h
  · exact (Except.ok.inj h).symm

theorem executeWithGuards_of_returns {s : Session} {case : CaseRow} {ctx : GuardContext}
    {executor : Executor} {execMeta : Option ExecuteMeta} {policyVersion : String}
    (h : ctx.raisesOn case = false) :
    executeWithGuards s case ctx executor execMeta policyVersion =
      .ok (serviceRun s case ctx executor execMeta policyVersion) := by
  rw [executeWithGuards_eq, if_neg (by simp [h])]

/-!
## What the callback does
-/

/-- The case after an outcome that was not recovered. -/
def counted (case : CaseRow) (action : Action) : CaseRow :=
  if action.verb = .scheduleRetry then { case with attemptsUsed := case.attemptsUsed + 1 }
  else if action.verb.isLink then
    { case with contactsUsed := case.contactsUsed + 1, lastAction := some action.verb.value }
  else case

def execConduct (executor : Executor) (execMeta : ExecuteMeta) (policyVersion : String)
    (action : Action) (case : CaseRow) : Conduct :=
  let out := executor action case execMeta
  if out.recovered then
    { result := out.modelDump
      case := stoppedCase case .recovered
      facts := [outcomeFact case.id policyVersion out, stopFact case.id .recovered policyVersion] }
  else
    { result := out.modelDump
      case := counted case action
      facts := [outcomeFact case.id policyVersion out] }

theorem execConduct_result (executor : Executor) (execMeta : ExecuteMeta)
    (policyVersion : String) (action : Action) (case : CaseRow) :
    (execConduct executor execMeta policyVersion action case).result =
      (executor action case execMeta).modelDump := by
  unfold execConduct
  simp only
  split <;> rfl

theorem execConduct_kinds (executor : Executor) (execMeta : ExecuteMeta)
    (policyVersion : String) (action : Action) (case : CaseRow) :
    (execConduct executor execMeta policyVersion action case).facts.map (·.kind) =
      if (executor action case execMeta).recovered then [.outcome, .stop] else [.outcome] := by
  unfold execConduct
  simp only
  split <;> rfl

theorem counted_status (case : CaseRow) (action : Action) :
    (counted case action).id = case.id ∧ (counted case action).status = case.status ∧
      (counted case action).stopReason = case.stopReason := by
  unfold counted
  split
  · exact ⟨rfl, rfl, rfl⟩
  · split
    · exact ⟨rfl, rfl, rfl⟩
    · exact ⟨rfl, rfl, rfl⟩

theorem execConduct_lawful (executor : Executor) (execMeta : ExecuteMeta)
    (policyVersion : String) (action : Action) (case : CaseRow) :
    (execConduct executor execMeta policyVersion action case).Lawful case := by
  obtain ⟨hid, hstatus, hreason⟩ := counted_status case action
  unfold execConduct
  simp only
  split
  · refine ⟨rfl, ?_, Or.inr ⟨[outcomeFact case.id policyVersion _], .recovered, policyVersion,
      ?_, rfl, rfl, rfl⟩⟩
    · simp [outcomeFact, stopFact]
    · simp [outcomeFact]
  · refine ⟨hid, ?_, Or.inl ⟨?_, hstatus, hreason⟩⟩
    · simp [outcomeFact]
    · simp [outcomeFact]

/-- The call and its outcome row, before the case is touched. -/
theorem called_eq_perform {s : Session} {case : CaseRow} (h : s.Holds case) (action : Action)
    (result : Fields) (fact : LedgerFact) :
    (s.call case.id action result).appendLedger fact =
      s.perform ⟨case, [fact], [⟨case.id, action, result⟩]⟩ := by
  have hheld : (s.perform ⟨case, [], [⟨case.id, action, result⟩]⟩).Holds case := h.perform rfl
  have hrow := hheld.record_eq_perform [fact]
  rw [Session.perform_perform] at hrow
  · rw [h.call_eq_perform]
    exact hrow
  · rfl

theorem exec_conducts (executor : Executor) (execMeta : ExecuteMeta) (policyVersion : String) :
    (exec executor execMeta policyVersion).Conducts
      (execConduct executor execMeta policyVersion) where
  eq := by
    intro action case s h
    have hcalled := called_eq_perform h action (executor action case execMeta).modelDump
      (outcomeFact case.id policyVersion (executor action case execMeta))
    have hheld : (s.perform ⟨case, [outcomeFact case.id policyVersion
        (executor action case execMeta)], [⟨case.id, action,
          (executor action case execMeta).modelDump⟩]⟩).Holds case := h.perform rfl
    unfold exec execConduct counted
    simp only [hcalled, ActionVerb.isLink_iff]
    split
    · rw [applyStop_eq hheld, Session.perform_perform]
      · rfl
      · rfl
    · split
      · rw [Session.add_eq_perform, Session.perform_perform]
        · simp
        · rfl
      · split
        · rw [Session.add_eq_perform, Session.perform_perform]
          · simp
          · rfl
        · rfl
  lawful := execConduct_lawful executor execMeta policyVersion

/-- The outcome rows of a call are those of the executions that the guard lets through. -/
theorem verdict_outcome_iff {s : Session} {case : CaseRow} {ctx : GuardContext}
    {executor : Executor} {execMeta : ExecuteMeta} {policyVersion : String} {audit : Fields}
    {e : Effect} (h : Verdict s case ctx (some (execConduct executor execMeta policyVersion))
      policyVersion audit e) (p : Fields → Prop) :
    (∃ f ∈ e.facts, f.kind = .outcome ∧ p f.payload) ↔
      LetThrough s case ctx ∧ p (executor ctx.action (reopened case) execMeta).modelDump := by
  have hgates : ∀ f ∈ gateFacts s case.id ctx policyVersion audit, f.kind ≠ .outcome := by
    intro f hf
    rw [(mem_gateFacts hf).2.1]
    decide
  cases h with
  | stopped stopped =>
      exact iff_of_false (by simp) fun h => not_letThrough_of_stopped stopped h.1
  | optedOut _ opt =>
      exact iff_of_false (by simp [stopFact]) fun h => not_letThrough_of_optOut opt h.1
  | raised _ _ raises => exact iff_of_false (by simp) fun h => not_letThrough_of_raises raises h.1
  | blocked _ _ _ refused =>
      have hsilent : ¬∃ f ∈ gateFacts s case.id ctx policyVersion audit,
          f.kind = .outcome ∧ p f.payload := by
        rintro ⟨f, hf, hkind, -⟩
        exact hgates f hf hkind
      exact iff_of_false hsilent fun h => not_letThrough_of_refused refused h.1
  | admitted _ _ _ _ nothing => cases nothing
  | executed running opt returns passed something =>
      cases something
      have hfacts : ∀ f, f ∈ (execConduct executor execMeta policyVersion ctx.action
          (reopened case)).facts ∧ f.kind = .outcome ↔
            f = outcomeFact (reopened case).id policyVersion
              (executor ctx.action (reopened case) execMeta) := by
        intro f
        unfold execConduct
        simp only
        split
        · simp only [List.mem_cons, List.not_mem_nil, or_false]
          constructor
          · rintro ⟨rfl | rfl, hkind⟩
            · rfl
            · cases hkind
          · rintro rfl
            exact ⟨Or.inl rfl, rfl⟩
        · simp only [List.mem_singleton]
          exact ⟨fun hf => hf.1, fun hf => ⟨hf, hf ▸ rfl⟩⟩
      constructor
      · rintro ⟨f, hf, hkind, hp⟩
        refine ⟨⟨running, opt, returns, passed⟩, ?_⟩
        rcases List.mem_append.1 hf with hf | hf
        · exact absurd hkind (hgates f hf)
        · rcases List.mem_append.1 hf with hf | hf
          · rw [(hfacts f).1 ⟨hf, hkind⟩] at hp
            exact hp
          · rw [List.mem_singleton.1 hf] at hkind
            cases hkind
      · rintro ⟨-, hp⟩
        obtain ⟨hmem, hkind⟩ := (hfacts _).2 rfl
        exact ⟨_, List.mem_append_right _ (List.mem_append_left _ hmem), hkind, hp⟩

end RecoveryAgent.Execute
