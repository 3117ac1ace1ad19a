import RecoveryAgent.Runs.Budget

/-!
# The order of the story

`list_ledger` tells the story of a case in the order of the row numbers. The outcome of
an action, and the stop after a recovery, are written inside the callback, before the
pipeline writes the `action` row. A run therefore tells its story in order exactly when
no action is executed in it.
-/

namespace RecoveryAgent.Runs

open Library Python Policy Ledger Guard Execute

/-- The kinds of the rows with their numbers. -/
def storyOf (rows : List LedgerEntryRow) : List (LedgerKind × ℕ) :=
  rows.map fun row => (row.kind, row.seq)

/-- One execution tells an outcome after its action, and the action after its six gates. -/
structure ToldInOrder (story : List (LedgerKind × ℕ)) : Prop where
  outcome : ∀ o ∈ story, o.1 = .outcome → ∃ a ∈ story, a.1 = .action ∧ a.2 < o.2
  action : ∀ a ∈ story, a.1 = .action →
    story.countP (fun g => g.1 = .gateCheck && g.2 < a.2) = 6

/-- No row of the pipeline comes after a stop. -/
def StopsAreLast (story : List (LedgerKind × ℕ)) : Prop :=
  ∀ stop ∈ story, stop.1 = .stop →
    ∀ row ∈ story, row.1 ∈ [LedgerKind.gateCheck, .action, .outcome] → row.2 < stop.2

section

variable (utcnow : ℕ → DateTime) (caseId : String)

/-- The rows of the case that one call writes. -/
def written (db : Db) (call : ExecuteCall) : List LedgerEntryRow :=
  ((executeStep utcnow caseId db call).1.rowsOf caseId).drop (db.rowsOf caseId).length

/-- The ledger after the calls tells the story of the case in order. -/
structure StoryInOrder (db : Db) (calls : List ExecuteCall) : Prop where
  executions : Run.along (executeStep utcnow caseId)
    (fun db call => ToldInOrder (storyOf (written utcnow caseId db call))) db calls
  stops : StopsAreLast (storyOf ((Run.final (executeStep utcnow caseId) db calls).rowsOf caseId))

/-- The guard refuses the call, if there is a case to guard. -/
def Refused (db : Db) (call : ExecuteCall) : Prop :=
  ∀ case, db.cases.get? caseId = some case →
    ¬LetThrough (openSession utcnow db) case (call.ctx case)

end

/-- The case is running and no row of it tells a stop, as when it has just been opened. -/
structure Unstopped (caseId : String) (db : Db) : Prop where
  running : ∃ case, db.cases.get? caseId = some case ∧ isCaseStopped case = false
  rows : ∀ row ∈ db.rowsOf caseId, row.kind ≠ .stop

/-!
## One call
-/

/-- Facts are told in their order, from the next number on. -/
theorem storyOf_recorded (s : Session) (facts : List LedgerFact) :
    storyOf (s.recorded facts) = (facts.map (·.kind)).zipIdx s.db.ledger.nextSeq := by
  unfold Session.recorded storyOf
  generalize s.db.ledger.nextSeq = n
  induction facts generalizing n with
  | nil => rfl
  | cons f facts ih =>
      rw [Journal.numbered_cons, List.map_cons, List.map_cons, List.zipIdx_cons, ih]
      rfl

/-- The rows that a call on a stored case writes. -/
theorem executeStep_rowsOf (utcnow : ℕ → DateTime) {caseId : String} {db : Db}
    (call : ExecuteCall) {case : CaseRow} (h : db.cases.get? caseId = some case) :
    ∃ e, Verdict (openSession utcnow db) case (call.ctx case)
        (some (execConduct call.executor (call.execMeta case) call.policyVersion))
        call.policyVersion [] e ∧
      (executeStep utcnow caseId db call).1.cases.get? caseId = some e.case ∧
      (executeStep utcnow caseId db call).1.rowsOf caseId =
        db.rowsOf caseId ++ (openSession utcnow db).recorded e.facts := by
  obtain ⟨e, -, hverdict, hown, hstep, hafter⟩ := executeStep_of_stored utcnow call h
  refine ⟨e, hverdict, hafter, ?_⟩
  rw [hstep]
  exact Session.perform_rowsOf _ hown

/-- The kinds of the rows that the verdict writes: of a refused call nothing, a stop or six
gates, of the others six gates and then the outcome. -/
theorem verdict_kinds {s : Session} {case : CaseRow} {ctx : GuardContext} {executor : Executor}
    {execMeta : ExecuteMeta} {policyVersion : String} {e : Effect}
    (h : Verdict s case ctx (some (execConduct executor execMeta policyVersion)) policyVersion []
      e) :
    (¬LetThrough s case ctx ∧ (e.case = case ∧
          e.facts.map (·.kind) = [] ∨
        isCaseStopped case = false ∧ isCaseStopped e.case = true ∧
          e.facts.map (·.kind) = [.stop] ∨
        isCaseStopped case = false ∧ e.facts.map (·.kind) = List.replicate 6 .gateCheck)) ∨
    (LetThrough s case ctx ∧ ∃ rest, e.facts.map (·.kind) =
      List.replicate 6 .gateCheck ++ .outcome :: rest) := by
  have hgates : (gateFacts s case.id ctx policyVersion []).map (·.kind) =
      List.replicate 6 .gateCheck := by
    rw [List.eq_replicate_iff, List.length_map, gateFacts_length]
    refine ⟨rfl, ?_⟩
    intro kind hkind
    obtain ⟨f, hf, rfl⟩ := List.mem_map.1 hkind
    exact (mem_gateFacts hf).2.1
  cases h with
  | stopped stopped =>
      exact Or.inl ⟨not_letThrough_of_stopped stopped, Or.inl ⟨rfl, rfl⟩⟩
  | optedOut running opt =>
      exact Or.inl ⟨not_letThrough_of_optOut opt, Or.inr (Or.inl ⟨running, rfl, rfl⟩)⟩
  | raised _ _ raises => exact Or.inl ⟨not_letThrough_of_raises raises, Or.inl ⟨rfl, rfl⟩⟩
  | blocked running _ _ refused =>
      exact Or.inl ⟨not_letThrough_of_refused refused, Or.inr (Or.inr ⟨running, hgates⟩)⟩
  | admitted _ _ _ _ nothing => cases nothing
  | executed running opt returns passed something =>
      cases something
      refine Or.inr ⟨⟨running, opt, returns, passed⟩, ?_⟩
      have hkinds := execConduct_kinds executor execMeta policyVersion ctx.action (reopened case)
      rw [List.map_append, List.map_append, hgates, hkinds]
      split
      · exact ⟨[.stop, .action], rfl⟩
      · exact ⟨[.action], rfl⟩

/-- Where nothing is executed, nothing is told out of order. -/
theorem toldInOrder_of_quiet {story : List (LedgerKind × ℕ)}
    (h : ∀ row ∈ story, row.1 ≠ .outcome ∧ row.1 ≠ .action) : ToldInOrder story where
  outcome := fun o ho hkind => absurd hkind (h o ho).1
  action := fun a ha hkind => absurd hkind (h a ha).2

theorem not_toldInOrder_of_outcome_first {before rest : List LedgerKind}
    (h : .action ∉ before) (n : ℕ) : ¬ToldInOrder ((before ++ .outcome :: rest).zipIdx n) := by
  intro htold
  rw [List.zipIdx_append, List.zipIdx_cons] at htold
  obtain ⟨a, ha, hkind, hlt⟩ := htold.outcome (.outcome, n + before.length) (by simp) rfl
  rcases List.mem_append.1 ha with ha | ha
  · rw [← hkind] at h
    exact h (List.fst_mem_of_mem_zipIdx ha)
  · have hle : n + before.length ≤ a.2 := by
      rw [← List.zipIdx_cons] at ha
      exact List.le_snd_of_mem_zipIdx ha
    exact absurd hlt (Nat.not_lt.2 hle)

section

variable {utcnow : ℕ → DateTime} {caseId : String} {db : Db} {call : ExecuteCall}

/-- A call tells its execution in order exactly when it is refused. -/
theorem toldInOrder_written_iff :
    ToldInOrder (storyOf (written utcnow caseId db call)) ↔ Refused utcnow caseId db call := by
  cases hcase : db.cases.get? caseId with
  | none =>
      rw [written, executeStep_of_none utcnow call hcase, List.drop_length]
      refine iff_of_true (toldInOrder_of_quiet fun _ hrow => by cases hrow) ?_
      intro case hsome
      rw [hcase] at hsome
      cases hsome
  | some case =>
      obtain ⟨e, hverdict, -, hrows⟩ := executeStep_rowsOf utcnow call hcase
      rw [written, hrows, List.drop_left, storyOf_recorded]
      have hrefused : Refused utcnow caseId db call ↔
          ¬LetThrough (openSession utcnow db) case (call.ctx case) := by
        unfold Refused
        rw [hcase]
        simp
      rw [hrefused]
      rcases verdict_kinds hverdict with ⟨hnot, hquiet⟩ | ⟨hlet, rest, hkinds⟩
      · refine iff_of_true (toldInOrder_of_quiet fun row hrow => ?_) hnot
        have hkind := List.fst_mem_of_mem_zipIdx hrow
        rcases hquiet with ⟨-, hkinds⟩ | ⟨-, -, hkinds⟩ | ⟨-, hkinds⟩
        · rw [hkinds] at hkind
          cases hkind
        · rw [hkinds] at hkind
          rw [List.mem_singleton.1 hkind]
          decide
        · rw [hkinds] at hkind
          rw [List.eq_of_mem_replicate hkind]
          decide
      · rw [hkinds]
        exact iff_of_false (not_toldInOrder_of_outcome_first (by decide) _) (not_not.2 hlet)

/-!
## A run
-/

/-- What refused calls keep: a running case has no stop in its story, and no row of the
pipeline comes after one. -/
structure Orderly (caseId : String) (db : Db) : Prop where
  running : ∀ case, db.cases.get? caseId = some case → isCaseStopped case = false →
    ∀ row ∈ db.rowsOf caseId, row.kind ≠ .stop
  stops : StopsAreLast (storyOf (db.rowsOf caseId))

/-- Without a stop there is nothing to come after one. -/
theorem stopsAreLast_of_no_stop {rows : List LedgerEntryRow} (h : ∀ row ∈ rows, row.kind ≠ .stop) :
    StopsAreLast (storyOf rows) := by
  intro stop hstop hkind
  obtain ⟨row, hrow, rfl⟩ := List.mem_map.1 hstop
  exact absurd hkind (h row hrow)

theorem Unstopped.orderly (h : Unstopped caseId db) : Orderly caseId db :=
  ⟨fun _ _ _ => h.rows, stopsAreLast_of_no_stop h.rows⟩

/-- A refused call keeps the story orderly. -/
theorem Orderly.step (h : Orderly caseId db) (hrefused : Refused utcnow caseId db call) :
    Orderly caseId (executeStep utcnow caseId db call).1 := by
  cases hcase : db.cases.get? caseId with
  | none =>
      rw [executeStep_of_none utcnow call hcase]
      exact h
  | some case =>
      obtain ⟨e, hverdict, hafter, hrows⟩ :=
        executeStep_rowsOf utcnow call hcase
      have hkinds : ∀ row ∈ (openSession utcnow db).recorded e.facts,
          row.kind ∈ e.facts.map (·.kind) := by
        intro row hrow
        obtain ⟨f, hf, n, rfl⟩ := Journal.mem_numbered hrow
        exact List.mem_map_of_mem hf
      rcases verdict_kinds hverdict with ⟨-, hquiet⟩ | ⟨hlet, -⟩
      · rcases hquiet with ⟨hsame, hnone⟩ | ⟨hrunning, hstopped, hone⟩ | ⟨hrunning, hgates⟩
        · have hnil : (openSession utcnow db).recorded e.facts = [] := by
            rw [List.map_eq_nil_iff.1 hnone]
            rfl
          rw [hnil, List.append_nil] at hrows
          rw [hsame] at hafter
          constructor
          · rw [hrows, hafter, ← hcase]
            exact h.running
          · rw [hrows]
            exact h.stops
        · constructor
          · intro case' hcase' hrunning'
            rw [hafter] at hcase'
            cases hcase'
            rw [hstopped] at hrunning'
            cases hrunning'
          · -- the one new row is the stop, and it has the largest number
            rw [hrows, storyOf, List.map_append]
            change StopsAreLast (storyOf _ ++ storyOf _)
            rw [storyOf_recorded, hone]
            intro stop hstop hkind row hrow hpipeline
            rcases List.mem_append.1 hstop with hold | hnew
            · obtain ⟨r, hr, rfl⟩ := List.mem_map.1 hold
              exact absurd hkind (h.running case hcase hrunning r hr)
            · rw [List.zipIdx_singleton, List.mem_singleton] at hnew
              rcases List.mem_append.1 hrow with hold | hrow
              · obtain ⟨r, hr, rfl⟩ := List.mem_map.1 hold
                rw [hnew]
                exact db.ledger.seq_lt_nextSeq (List.mem_filter.1 hr).1
              · rw [List.zipIdx_singleton, List.mem_singleton] at hrow
                rw [hrow] at hpipeline
                simp at hpipeline
        · have hnostop : ∀ row ∈ (executeStep utcnow caseId db call).1.rowsOf caseId,
              row.kind ≠ .stop := by
            intro row hrow
            rw [hrows] at hrow
            rcases List.mem_append.1 hrow with hrow | hrow
            · exact h.running case hcase hrunning row hrow
            · have hkind := hkinds row hrow
              rw [hgates] at hkind
              rw [List.eq_of_mem_replicate hkind]
              decide
          exact ⟨fun _ _ _ => hnostop, stopsAreLast_of_no_stop hnostop⟩
      · exact absurd hlet (hrefused case hcase)

end

/-- From a fresh case the ledger tells the story of the calls in order exactly when the
guard refuses them all. -/
theorem story_in_order_iff (utcnow : ℕ → DateTime) {caseId : String} {db : Db}
    (hfresh : Unstopped caseId db) (calls : List ExecuteCall) :
    StoryInOrder utcnow caseId db calls ↔
      Run.along (executeStep utcnow caseId) (Refused utcnow caseId) db calls := by
  have hsteps : (fun db call => ToldInOrder (storyOf (written utcnow caseId db call))) =
      Refused utcnow caseId := by
    funext db call
    exact propext toldInOrder_written_iff
  constructor
  · intro h
    have htold := h.executions
    rw [hsteps] at htold
    exact htold
  · intro hrefused
    refine ⟨?_, ?_⟩
    · rw [hsteps]
      exact hrefused
    · exact (Run.final_of_preserved _ (fun _ _ h hstep => h.step hstep) hfresh.orderly
        hrefused).stops

/-- A payer who opts out. -/
def optOutCall : ExecuteCall where
  ctx := fun case =>
    { caseId := case.id, action := { verb := .scheduleRetry }, now := daytime, optOut := true }
  executor := fun _ _ _ => { ok := true }
  execMeta := fun case => { seed := case.id }
  policyVersion := "phase7"

/-- A retry that goes through. -/
def retryCall : ExecuteCall where
  ctx := fun case => { caseId := case.id, action := { verb := .scheduleRetry }, now := daytime }
  executor := fun _ _ _ => { ok := true }
  execMeta := fun case => { seed := case.id }
  policyVersion := "phase7"

theorem story_in_order_iff_opted_out :
    StoryInOrder (fun _ => daytime) "case_1" freshDb [optOutCall] := by
  have hrows : freshDb.rowsOf "case_1" = [] := rfl
  have hfresh : Unstopped "case_1" freshDb := by
    refine ⟨⟨freshCase, rfl, rfl⟩, ?_⟩
    rw [hrows]
    exact List.forall_mem_nil _
  have hrefused : Refused (fun _ => daytime) "case_1" freshDb optOutCall :=
    fun case _ => not_letThrough_of_optOut rfl
  rw [story_in_order_iff (fun _ => daytime) hfresh, Run.along_cons]
  exact ⟨hrefused, Run.along_nil _ _ _⟩

/-- The outcome of the one retry has the number 7, and its action the number 8. -/
theorem retry_told_out_of_order :
    ¬StoryInOrder (fun _ => daytime) "case_1" freshDb [retryCall] := by
  intro h
  have htold : ToldInOrder (storyOf (written (fun _ => daytime) "case_1" freshDb retryCall)) :=
    h.executions.1
  have hkinds : storyOf (written (fun _ => daytime) "case_1" freshDb retryCall) =
      (List.replicate 6 LedgerKind.gateCheck ++ LedgerKind.outcome :: [.action]).zipIdx 1 := by
    decide
  rw [hkinds] at htold
  exact not_toldInOrder_of_outcome_first (by decide) 1 htold

end RecoveryAgent.Runs
