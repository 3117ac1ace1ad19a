import RecoveryAgent.Runs.Requests

/-!
# Counters as budgets

`_exec` counts retries in `attempts_used` and links in `contacts_used`. Either
counter is a budget in the sense of `Library.Run`: an execution that the
counter knows of raises it or recovers, and thereby closes, the case.
-/

namespace RecoveryAgent.Runs

open Library Python Policy Ledger Guard Execute

structure ExecuteCall where
  ctx : CaseRow → GuardContext
  executor : Executor
  execMeta : CaseRow → ExecuteMeta
  policyVersion : String

def ExecuteCall.request (caseId : String) (call : ExecuteCall) : Request :=
  .guarded (.execute caseId call.ctx call.executor call.execMeta call.policyVersion)

/-- `execute_with_guards` on one case, as a machine over the database. -/
def executeStep (utcnow : ℕ → DateTime) (caseId : String) (db : Db) (call : ExecuteCall) :
    Db × List ExecutorCall :=
  serve utcnow db (call.request caseId)

/-- A counter of the case row, and the actions it counts. -/
structure Counter where
  used : CaseRow → ℕ
  spends : Action → Bool
  kept : ∀ case status stopReason, used { case with status, stopReason } = used case
  counted : ∀ case action,
    used (counted case action) = used case + if spends action then 1 else 0

/-- `attempts_used` counts the retries. -/
def attempts : Counter where
  used := CaseRow.attemptsUsed
  spends := fun action => action.verb = .scheduleRetry
  kept := fun _ _ _ => rfl
  counted := by
    intro case action
    unfold Execute.counted
    by_cases hretry : action.verb = .scheduleRetry
    · simp [hretry]
    · rw [if_neg hretry]
      split
      · simp [hretry]
      · simp [hretry]

/-- `contacts_used` counts the links. -/
def contacts : Counter where
  used := CaseRow.contactsUsed
  spends := fun action => action.verb.isLink
  kept := fun _ _ _ => rfl
  counted := by
    intro case action
    unfold Execute.counted
    by_cases hretry : action.verb = .scheduleRetry
    · simp [hretry, ActionVerb.isLink]
    · rw [if_neg hretry]
      split <;> simp

theorem Counter.reopened (counter : Counter) (case : CaseRow) :
    counter.used (reopened case) = counter.used case := by
  unfold Guard.reopened
  split
  · exact counter.kept case .opened case.stopReason
  · rfl

theorem verdict_counter (counter : Counter) {s : Session} {case : CaseRow} {ctx : GuardContext}
    {executor : Executor} {execMeta : ExecuteMeta} {policyVersion : String} {audit : Fields}
    {e : Effect} (h : Verdict s case ctx (some (execConduct executor execMeta policyVersion))
      policyVersion audit e) :
    counter.used case ≤ counter.used e.case ∧
    (isCaseStopped case = true → isCaseStopped e.case = true ∧ e.calls = []) ∧
    (e.calls = [] ∨ ∃ result, e.calls = [⟨case.id, ctx.action, result⟩] ∧ LetThrough s case ctx ∧
      (isCaseStopped e.case = true ∨ counter.used e.case =
        counter.used case + if counter.spends ctx.action then 1 else 0)) := by
  cases h with
  | stopped stopped => exact ⟨le_rfl, fun _ => ⟨stopped, rfl⟩, Or.inl rfl⟩
  | optedOut _ _ =>
      refine ⟨?_, fun _ => ⟨rfl, rfl⟩, Or.inl rfl⟩
      exact (counter.kept case _ _).ge
  | raised running _ _ => exact ⟨le_rfl, by simp [running], Or.inl rfl⟩
  | blocked running _ _ _ =>
      refine ⟨(counter.kept case .blocked case.stopReason).ge, ?_, Or.inl rfl⟩
      simp [running]
  | admitted _ _ _ _ nothing => cases nothing
  | executed running opt returns passed something =>
      cases something
      have hcase : (execConduct executor execMeta policyVersion ctx.action (reopened case)).case =
          if (executor ctx.action (reopened case) execMeta).recovered then
            stoppedCase (reopened case) .recovered
          else counted (reopened case) ctx.action := by
        unfold execConduct
        simp only
        split <;> rfl
      rw [hcase]
      refine ⟨?_, by simp [running], Or.inr ⟨_, rfl, ⟨running, opt, returns, passed⟩, ?_⟩⟩
      · split
        · exact ((counter.kept _ _ _).trans (counter.reopened case)).ge
        · rw [counter.counted, counter.reopened]
          exact Nat.le_add_right _ _
      · split
        · exact Or.inl rfl
        · right
          rw [counter.counted, counter.reopened]

/-- On a stored case one step performs what the verdict on the row says. -/
theorem executeStep_of_stored (utcnow : ℕ → DateTime) {caseId : String} {db : Db}
    (call : ExecuteCall) {case : CaseRow} (hcase : db.cases.get? caseId = some case) :
    ∃ e, case.id = caseId ∧
      Verdict (openSession utcnow db) case (call.ctx case)
        (some (execConduct call.executor (call.execMeta case) call.policyVersion))
        call.policyVersion [] e ∧
      (∀ f ∈ e.facts, f.caseId = caseId) ∧
      executeStep utcnow caseId db call = (((openSession utcnow db).perform e).db, e.calls) ∧
      (executeStep utcnow caseId db call).1.cases.get? caseId = some e.case := by
  obtain ⟨hid, hheld⟩ := holds_of_get? utcnow hcase
  have hverdict := guardEffect_verdict (openSession utcnow db) case (call.ctx case)
    (some (execConduct call.executor (call.execMeta case) call.policyVersion))
    call.policyVersion []
  have hconducted := Conducted.some (exec_conducts call.executor (call.execMeta case)
    call.policyVersion)
  have heid := hverdict.id hconducted
  have hstep : executeStep utcnow caseId db call = _ :=
    serve_guarded utcnow (r := .execute caseId call.ctx call.executor call.execMeta
      call.policyVersion) hcase
  refine ⟨_, hid, hverdict, hid ▸ (hverdict.own hconducted).1, hstep, ?_⟩
  have hafter := hheld.perform heid
  rw [Session.Holds, heid, hid] at hafter
  rw [hstep]
  exact hafter

/-- Without a case one step does nothing. -/
theorem executeStep_of_none (utcnow : ℕ → DateTime) {caseId : String} {db : Db}
    (call : ExecuteCall) (hcase : db.cases.get? caseId = none) :
    executeStep utcnow caseId db call = (db, []) := by
  have hload : (openSession utcnow db).getCase caseId = none := hcase
  simp only [executeStep, ExecuteCall.request, serve, GuardedRequest.execute, hload]

/-- One step does nothing, or what the verdict on the stored row says. -/
theorem executeStep_cases (utcnow : ℕ → DateTime) (caseId : String) (db : Db)
    (call : ExecuteCall) :
    (db.cases.get? caseId = none ∧ executeStep utcnow caseId db call = (db, [])) ∨
    ∃ case e, db.cases.get? caseId = some case ∧ case.id = caseId ∧
      Verdict (openSession utcnow db) case (call.ctx case)
        (some (execConduct call.executor (call.execMeta case) call.policyVersion))
        call.policyVersion [] e ∧
      (executeStep utcnow caseId db call).1.cases.get? caseId = some e.case ∧
      (executeStep utcnow caseId db call).2 = e.calls := by
  cases hcase : db.cases.get? caseId with
  | none => exact Or.inl ⟨rfl, executeStep_of_none utcnow call hcase⟩
  | some case =>
      obtain ⟨e, hid, hverdict, -, hstep, hafter⟩ := executeStep_of_stored utcnow call hcase
      exact Or.inr ⟨case, e, rfl, hid, hverdict, hafter, congrArg Prod.snd hstep⟩

/-- The counter of the stored row. -/
def storedUse (counter : Counter) (caseId : String) (db : Db) : ℕ :=
  ((db.cases.get? caseId).map counter.used).getD 0

/-- The case is stopped, or there is no such case. -/
def StoredStopped (caseId : String) (db : Db) : Prop :=
  ∀ case, db.cases.get? caseId = some case → isCaseStopped case = true

/-- If the guard lets the call through with an action of this kind, then the
counter counts the action and has room below the cap. -/
def WithinBudget (counter : Counter) (kind : Action → Bool) (cap : ℕ) (utcnow : ℕ → DateTime)
    (caseId : String) (db : Db) (call : ExecuteCall) : Prop :=
  ∀ case, db.cases.get? caseId = some case →
    LetThrough (openSession utcnow db) case (call.ctx case) →
      kind (call.ctx case).action = true →
        counter.spends (call.ctx case).action = true ∧ counter.used case < cap

/-- Calls within the budget spend it. -/
theorem executeStep_budgeted (counter : Counter) (kind : Action → Bool) (cap : ℕ)
    (utcnow : ℕ → DateTime) (caseId : String) :
    Run.Budgeted (executeStep utcnow caseId) (fun c => kind c.action) (storedUse counter caseId)
      (StoredStopped caseId) cap (WithinBudget counter kind cap utcnow caseId) where
  kept := by
    intro db call _
    rcases executeStep_cases utcnow caseId db call with ⟨-, hstep⟩ |
      ⟨case, e, hcase, -, hverdict, hafter, -⟩
    · rw [hstep]
    · rw [storedUse, storedUse, hafter, hcase]
      exact (verdict_counter counter hverdict).1
  shut := by
    intro db call _ hstopped
    rcases executeStep_cases utcnow caseId db call with ⟨-, hstep⟩ |
      ⟨case, e, hcase, -, hverdict, hafter, hcalls⟩
    · rw [hstep]
      exact ⟨hstopped, rfl⟩
    · obtain ⟨hclosed, hnone⟩ := (verdict_counter counter hverdict).2.1 (hstopped case hcase)
      refine ⟨?_, by rw [hcalls, hnone]; rfl⟩
      intro case' hcase'
      rw [hafter] at hcase'
      rw [← Option.some.inj hcase']
      exact hclosed
  spend := by
    intro db call hwithin
    rcases executeStep_cases utcnow caseId db call with ⟨-, hstep⟩ |
      ⟨case, e, hcase, -, hverdict, hafter, hcalls⟩
    · rw [hstep]
      exact Or.inl rfl
    · rw [hcalls]
      rcases (verdict_counter counter hverdict).2.2 with hnone | ⟨result, hone, hthrough, hpaid⟩
      · rw [hnone]
        exact Or.inl rfl
      · rw [hone]
        cases hkind : kind (call.ctx case).action with
        | false => exact Or.inl (by simp [hkind])
        | true =>
            obtain ⟨hspends, hroom⟩ := hwithin case hcase hthrough hkind
            refine Or.inr ⟨by simp [hkind], ?_, ?_⟩
            · rw [storedUse, hcase]
              exact hroom
            · rcases hpaid with hclosed | hraised
              · right
                intro case' hcase'
                rw [hafter] at hcase'
                rw [← Option.some.inj hcase']
                exact hclosed
              · left
                rw [storedUse, storedUse, hafter, hcase]
                rw [hspends, if_pos rfl] at hraised
                exact hraised.ge

end RecoveryAgent.Runs
