import RecoveryAgent.Ledger.Trail
import RecoveryAgent.Runs.AtMostOnce

/-!
# Status and trail agree

The status of a case and its trail are written by separate statements. In every
state that the services reach from the empty database they tell the same: the
status is the fold of the trail, and a stop in the trail closes the case for
good.
-/

namespace RecoveryAgent.Runs

open Library Python Policy Ledger Guard

def isRecoveredStop (e : LedgerColumns) : Prop := e.kind = .stop ∧ e.reasonCode = "recovered"

instance (e : LedgerColumns) : Decidable (isRecoveredStop e) :=
  inferInstanceAs (Decidable (_ ∧ _))

/-- The row of a case says what its trail tells. -/
structure Told (case : CaseRow) (trail : List LedgerColumns) : Prop where
  status : case.status = statusOf trail
  reason : case.stopReason = stopReasonOf trail
  recovered : (∃ e ∈ trail, isRecoveredStop e) → case.status = .recovered

section

variable {case case' : CaseRow} {trail rows : List LedgerColumns}

/-- A case that is running has no stop in its trail. -/
theorem Told.lastStop_eq_none (h : Told case trail) (hrunning : isCaseStopped case = false) :
    lastStop trail = none := by
  have hstatus := h.status
  cases hlast : lastStop trail with
  | none => rfl
  | some e =>
      rw [statusOf, hlast] at hstatus
      simp only at hstatus
      split at hstatus
      · simp [isCaseStopped, hstatus] at hrunning
      · simp [isCaseStopped, hstatus] at hrunning

theorem Told.no_stop (h : Told case trail) (hrunning : isCaseStopped case = false) :
    ∀ e ∈ trail, e.kind ≠ .stop :=
  lastStop_eq_none_iff.1 (h.lastStop_eq_none hrunning)

/-- Rows that are neither stops nor gate checks change nothing. -/
theorem Told.append_quiet (h : Told case trail) (hstop : ∀ e ∈ rows, e.kind ≠ .stop)
    (hgate : ∀ e ∈ rows, e.kind ≠ .gateCheck) : Told case (trail ++ rows) where
  status := by
    rw [statusOf, lastStop_append_of_no_stop hstop, hasBlock_append_of_no_gate hgate]
    exact h.status
  reason := by
    rw [stopReasonOf, lastStop_append_of_no_stop hstop]
    exact h.reason
  recovered := by
    rintro ⟨e, he, hrecovered⟩
    rcases List.mem_append.1 he with he | he
    · exact h.recovered ⟨e, he, hrecovered⟩
    · exact absurd hrecovered.1 (hstop e he)

/-- A stop, with no other stop after it, decides. Only a recovery may stop a
case that is stopped already. -/
theorem Told.append_stop (h : Told case trail) (pre post : List LedgerColumns)
    {reason : StopReason} (caseId policyVersion : String)
    (hallowed : isCaseStopped case = false ∨ reason = .recovered)
    (hpre : ∀ e ∈ pre, e.kind ≠ .stop) (hpost : ∀ e ∈ post, e.kind ≠ .stop)
    (hstatus : case'.status = reason.status) (hreason : case'.stopReason = some reason.value) :
    Told case' (trail ++ (pre ++ [(stopFact caseId reason policyVersion).toLedgerColumns] ++
      post)) := by
  have hlast : lastStop (trail ++ (pre ++ [(stopFact caseId reason
      policyVersion).toLedgerColumns] ++ post)) =
        some (stopFact caseId reason policyVersion).toLedgerColumns := by
    rw [← List.append_assoc, lastStop_append_of_no_stop hpost, ← List.append_assoc]
    exact lastStop_concat rfl
  refine ⟨?_, ?_, ?_⟩
  · rw [hstatus, statusOf, hlast]
    exact reason.status_eq
  · rw [hreason, stopReasonOf, hlast]
    rfl
  · rintro ⟨e, he, hkind, hcode⟩
    rw [hstatus]
    rcases hallowed with hrunning | rfl
    · simp only [List.mem_append, List.mem_singleton] at he
      rcases he with he | (he | rfl) | he
      · exact absurd hkind (h.no_stop hrunning e he)
      · exact absurd hkind (hpre e he)
      · rw [reason.status_eq]
        exact if_pos hcode
      · exact absurd hkind (hpost e he)
    · rfl

/-- A batch of gate rows decides as long as there is no stop. -/
theorem Told.append_batch (h : Told case trail) (hrunning : isCaseStopped case = false)
    (batch rows : List LedgerColumns) (hbatch : ∀ e ∈ batch, e.kind = .gateCheck)
    (hlength : batch.length = 6) (hstop : ∀ e ∈ rows, e.kind ≠ .stop)
    (hgate : ∀ e ∈ rows, e.kind ≠ .gateCheck)
    (hstatus : case'.status =
      if (batch.any fun e => e.gateResult = some .blocked) then .blocked else .opened)
    (hreason : case'.stopReason = case.stopReason) : Told case' (trail ++ (batch ++ rows)) := by
  have hnone : ∀ e ∈ batch ++ rows, e.kind ≠ .stop := by
    intro e he
    rcases List.mem_append.1 he with he | he
    · rw [hbatch e he]
      simp
    · exact hstop e he
  have hlast : lastStop (trail ++ (batch ++ rows)) = none := by
    rw [lastStop_append_of_no_stop hnone, h.lastStop_eq_none hrunning]
  refine ⟨?_, ?_, ?_⟩
  · rw [hstatus, statusOf, hlast, hasBlock_append_of_batch hbatch hlength hgate]
  · rw [hreason, h.reason, stopReasonOf, stopReasonOf, hlast, h.lastStop_eq_none hrunning]
  · rintro ⟨e, he, hkind, -⟩
    exact absurd hkind (lastStop_eq_none_iff.1 hlast e he)

/-- Gate rows that have passed leave an open case open. -/
theorem Told.append_passed (h : Told case trail) (hopened : case.status = .opened)
    (hstop : ∀ e ∈ rows, e.kind ≠ .stop)
    (hpassed : ∀ e ∈ rows, e.kind = .gateCheck → e.gateResult ≠ some .blocked)
    (hstatus : case'.status = .opened) (hreason : case'.stopReason = case.stopReason) :
    Told case' (trail ++ rows) := by
  have hrunning : isCaseStopped case = false := by
    rw [isCaseStopped, hopened]
    rfl
  have hnone := h.lastStop_eq_none hrunning
  have hunblocked : hasBlock trail = false := by
    have htold := h.status
    rw [hopened, statusOf, hnone] at htold
    by_contra hblocked
    rw [if_pos (by simpa using hblocked)] at htold
    cases htold
  refine ⟨?_, ?_, ?_⟩
  · rw [hstatus, statusOf, lastStop_append_of_no_stop hstop, hnone,
      hasBlock_append_of_passed hunblocked hpassed]
    rfl
  · rw [hreason, h.reason, stopReasonOf, stopReasonOf, lastStop_append_of_no_stop hstop]
  · rintro ⟨e, he, hkind, -⟩
    rcases List.mem_append.1 he with he | he
    · exact absurd hkind (h.no_stop hrunning e he)
    · exact absurd hkind (hstop e he)

end

/-- The gate rows hold a block exactly when not all checks passed. -/
theorem gateFacts_any_blocked (s : Session) (caseId : String) (ctx : GuardContext)
    (policyVersion : String) (audit : Fields) :
    (((gateFacts s caseId ctx policyVersion audit).map (·.toLedgerColumns)).any
      fun e => e.gateResult = some .blocked) = !allPassed (ctx.checks s caseId) := by
  rw [gateFacts, List.map_map, List.any_map, allPassed, List.not_all_eq_any_not]
  congr 1
  funext c
  by_cases hpassed : c.passed = true
  · simp [gateFact, GateCheck.gateResult, hpassed]
  · simp [gateFact, GateCheck.gateResult, hpassed]

theorem gateRows_kind {s : Session} {caseId : String} {ctx : GuardContext}
    {policyVersion : String} {audit : Fields} :
    ∀ e ∈ (gateFacts s caseId ctx policyVersion audit).map (·.toLedgerColumns),
      e.kind = .gateCheck := by
  intro e he
  obtain ⟨f, hf, rfl⟩ := List.mem_map.1 he
  exact (mem_gateFacts hf).2.1

theorem gateRows_length {s : Session} {caseId : String} {ctx : GuardContext}
    {policyVersion : String} {audit : Fields} :
    ((gateFacts s caseId ctx policyVersion audit).map (·.toLedgerColumns)).length = 6 := by
  rw [List.length_map, gateFacts_length]

/-- An executed action keeps row and trail together, whether its outcome stops the
case or not. -/
theorem Told.executed {s : Session} {case : CaseRow} {ctx : GuardContext}
    {policyVersion : String} {audit : Fields} {trail : List LedgerColumns}
    (h : Told case trail) (hrunning : isCaseStopped case = false)
    (hpassed : allPassed (ctx.checks s case.id) = true) {done : Conduct}
    (hlawful : done.Lawful (reopened case)) :
    Told done.case (trail ++ (gateFacts s case.id ctx policyVersion audit ++ (done.facts ++
      [actionFact case.id policyVersion (ctx.gated s case.id) done.result])).map
        (·.toLedgerColumns)) := by
  obtain ⟨hopened, hreason⟩ := reopened_status hrunning
  rw [List.map_append, List.map_append]
  rcases hlawful.stops with ⟨hkinds, hstatus, hsame⟩ |
    ⟨facts, reason, version, hkinds, hfacts, hstatus, hstopped⟩
  · have hrows : ∀ e ∈ done.facts.map (·.toLedgerColumns) ++
        [actionFact case.id policyVersion (ctx.gated s case.id) done.result].map
          (·.toLedgerColumns), e.kind = .outcome ∨ e.kind = .action := by
      intro e he
      rcases List.mem_append.1 he with he | he
      · obtain ⟨f, hf, rfl⟩ := List.mem_map.1 he
        exact Or.inl (hkinds f hf)
      · right
        rw [List.mem_singleton.1 he]
        rfl
    refine h.append_batch hrunning _ _ gateRows_kind gateRows_length ?_ ?_ ?_ ?_
    · intro e he
      rcases hrows e he with hkind | hkind
      · simp [hkind]
      · simp [hkind]
    · intro e he
      rcases hrows e he with hkind | hkind
      · simp [hkind]
      · simp [hkind]
    · rw [hstatus, hopened, gateFacts_any_blocked, hpassed]
      rfl
    · rw [hsame, hreason]
  · have hpre : ∀ e ∈ (gateFacts s case.id ctx policyVersion audit ++ facts).map
        (·.toLedgerColumns), e.kind ≠ .stop := by
      intro e he
      obtain ⟨f, hf, rfl⟩ := List.mem_map.1 he
      rcases List.mem_append.1 hf with hf | hf
      · simp [(mem_gateFacts hf).2.1]
      · simp [hkinds f hf]
    have htold := h.append_stop _ [(actionFact case.id policyVersion
      (ctx.gated s case.id) done.result).toLedgerColumns] (reopened case).id version
        (Or.inl hrunning) hpre (by simp [actionFact]) hstatus hstopped
    rw [hfacts]
    simpa using htold

/-- Whatever the pipeline writes on a case, row and trail go on telling the
same. -/
theorem Told.verdict {s : Session} {case : CaseRow} {ctx : GuardContext}
    {executeFn : Option ExecuteFn} {conduct : Option (Action → CaseRow → Conduct)}
    (hconduct : Conducted executeFn conduct) {policyVersion : String} {audit : Fields}
    {e : Effect} (hverdict : Verdict s case ctx conduct policyVersion audit e)
    {trail : List LedgerColumns} (h : Told case trail) :
    Told e.case (trail ++ e.facts.map (·.toLedgerColumns)) := by
  have hblocked := gateFacts_any_blocked s case.id ctx policyVersion audit
  cases hverdict with
  | stopped _ => simpa using h
  | optedOut running _ =>
      exact h.append_stop [] [] _ _ (Or.inl running) (by simp) (by simp) rfl rfl
  | raised _ _ _ => simpa using h
  | blocked running _ _ refused =>
      have htold : Told { case with status := .blocked } _ :=
        h.append_batch running _ [] gateRows_kind gateRows_length (by simp) (by simp)
          (by rw [hblocked, refused]; rfl) rfl
      rwa [List.append_nil] at htold
  | admitted running _ _ passed _ =>
      obtain ⟨hopened, hreason⟩ := reopened_status running
      have htold := h.append_batch running _ [] gateRows_kind gateRows_length (by simp) (by simp)
        (by rw [hblocked, passed, hopened]; rfl) hreason
      rwa [List.append_nil] at htold
  | executed running _ _ passed something =>
      subst something
      cases hconduct with
      | some hf => exact h.executed running passed (hf.lawful ctx.action (reopened case))

/-!
## Over runs
-/

/-- Every ledger row belongs to a stored case, and the stored cases say what
their trails tell. -/
structure Consistent (db : Db) : Prop where
  known : ∀ e ∈ db.history, (db.cases.get? e.caseId).isSome
  told : ∀ caseId case, db.cases.get? caseId = some case → Told case (db.trail caseId)

theorem Consistent.congr {db db' : Db} (h : Consistent db) (hcases : db'.cases = db.cases)
    (hledger : db'.ledger = db.ledger) : Consistent db' := by
  have hhistory : db'.history = db.history := by rw [Db.history, hledger, Db.history]
  refine ⟨?_, ?_⟩
  · rw [hhistory, hcases]
    exact h.known
  · intro caseId
    rw [hcases, Db.trail, hhistory]
    exact h.told caseId

theorem consistent_empty : Consistent Db.empty where
  known := by
    intro e he
    exact absurd he List.not_mem_nil
  told := by
    intro caseId case hget
    have hnone : Db.empty.cases.get? caseId = none := Table.get?_empty caseId
    rw [hnone] at hget
    cases hget

/-- An effect on a case that keeps its own row and trail together keeps the
whole database consistent. -/
theorem Consistent.perform {s : Session} (h : Consistent s.db) {case : CaseRow}
    (hheld : s.Holds case) {e : Effect} (hid : e.case.id = case.id)
    (hown : ∀ f ∈ e.facts, f.caseId = case.id)
    (htold : Told case (s.db.trail case.id) →
      Told e.case (s.db.trail case.id ++ e.facts.map (·.toLedgerColumns))) :
    Consistent (s.perform e).db := by
  have hself : (s.perform e).getCase case.id = some e.case := by
    have hafter := hheld.perform hid
    rwa [Session.Holds, hid] at hafter
  have hother : ∀ caseId, caseId ≠ case.id → (s.perform e).getCase caseId = s.getCase caseId := by
    intro caseId hne
    exact s.perform_getCase_of_ne e (by rwa [hid])
  refine ⟨?_, ?_⟩
  · intro row hrow
    rw [Session.perform_history] at hrow
    change ((s.perform e).getCase row.caseId).isSome
    by_cases hcase : row.caseId = case.id
    · rw [hcase, hself]
      rfl
    · rw [hother _ hcase]
      rcases List.mem_append.1 hrow with hrow | hrow
      · exact h.known row hrow
      · obtain ⟨f, hf, rfl⟩ := List.mem_map.1 hrow
        exact absurd (hown f hf) hcase
  · intro caseId stored hstored
    change (s.perform e).getCase caseId = some stored at hstored
    by_cases hcase : caseId = case.id
    · subst hcase
      rw [hself] at hstored
      rw [← Option.some.inj hstored, s.perform_trail hown]
      exact htold (h.told case.id case hheld)
    · rw [hother _ hcase] at hstored
      rw [s.perform_trail_of_ne hown hcase]
      exact h.told caseId stored hstored

/-- A paid link keeps row and trail together. -/
theorem Told.paid {case : CaseRow} {trail : List LedgerColumns} (h : Told case trail)
    (paid : PaymentLinkPaidEvent) :
    Told (paidEffect case paid).case
      (trail ++ (paidEffect case paid).facts.map (·.toLedgerColumns)) := by
  unfold paidEffect
  split
  · exact h.append_quiet (by simp [paidEventFact]) (by simp [paidEventFact])
  · exact h.append_stop [_, _] [] _ _ (Or.inr rfl) (by simp [paidEventFact, paidOutcomeFact])
      (by simp) rfl rfl

/-- A case that was just opened has a trail of one row. -/
theorem Consistent.opened {utcnow : ℕ → DateTime} {db db' : Db} (h : Consistent db)
    {newCaseId : String} {event : RiskEvent}
    (hcases : db.cases.insert? (openedCase newCaseId event) = some db'.cases)
    (hledger : db'.ledger = ((openSession utcnow db).perform ⟨openedCase newCaseId event,
      [ingestFact newCaseId event], []⟩).db.ledger) : Consistent db' := by
  have hown : ∀ f ∈ [ingestFact newCaseId event], f.caseId = newCaseId := by simp [ingestFact]
  have hself : db'.cases.get? newCaseId = some (openedCase newCaseId event) :=
    Table.get?_insert?_self hcases
  have hother : ∀ caseId, caseId ≠ newCaseId → db'.cases.get? caseId = db.cases.get? caseId :=
    fun caseId hne => Table.get?_insert?_of_ne hcases hne
  have hnew : db.cases.get? newCaseId = none := (Table.insert?_eq_some hcases).1
  have hempty : db.trail newCaseId = [] := by
    rw [Db.trail, List.filter_eq_nil_iff]
    intro row hrow hcase
    have hknown := h.known row hrow
    rw [of_decide_eq_true hcase, hnew] at hknown
    cases hknown
  have hhistory : db'.history = db.history ++ [(ingestFact newCaseId event).toLedgerColumns] := by
    have hperform := (openSession utcnow db).perform_history ⟨openedCase newCaseId event,
      [ingestFact newCaseId event], []⟩
    rw [Db.history, hledger]
    exact hperform
  refine ⟨?_, ?_⟩
  · intro row hrow
    rw [hhistory] at hrow
    by_cases hcase : row.caseId = newCaseId
    · rw [hcase, hself]
      rfl
    · rw [hother _ hcase]
      rcases List.mem_append.1 hrow with hrow | hrow
      · exact h.known row hrow
      · rw [List.mem_singleton.1 hrow] at hcase
        exact absurd rfl hcase
  · intro caseId stored hstored
    by_cases hcase : caseId = newCaseId
    · subst hcase
      rw [hself] at hstored
      rw [← Option.some.inj hstored, Db.trail_congr hledger, Session.perform_trail _ hown]
      change Told _ (db.trail caseId ++ _)
      rw [hempty]
      have htold : Told (openedCase caseId event) [] := ⟨rfl, rfl, by simp⟩
      exact htold.append_quiet (by simp [ingestFact]) (by simp [ingestFact])
    · rw [hother _ hcase] at hstored
      rw [Db.trail_congr hledger, Session.perform_trail_of_ne _ hown hcase]
      exact h.told caseId stored hstored

/-- Every request keeps the database consistent. -/
theorem serve_consistent (utcnow : ℕ → DateTime) (db : Db) (request : Request)
    (h : Consistent db) : Consistent (serve utcnow db request).1 := by
  have hserved := serve_served utcnow db request
  generalize serve utcnow db request = out at hserved ⊢
  obtain ⟨db', made⟩ := out
  cases hserved with
  | idle _ => exact h
  | opened cases ledger => exact h.opened cases ledger
  | @guarded r case e _ _ id held verdict performed calls =>
      subst performed
      exact Consistent.perform h held (verdict.id (r.conducted case))
        (verdict.own (r.conducted case)).1 fun htold =>
          htold.verdict (r.conducted case) verdict
  | @closed event case _ held cases ledger =>
      exact (Consistent.perform h held (paidEffect_id case event)
        (paidEffect_own case event) fun htold => htold.paid event).congr cases ledger

theorem after_consistent (utcnow : ℕ → DateTime) {db : Db} (h : Consistent db)
    (requests : List Request) : Consistent (after utcnow db requests) :=
  Run.final_of_step (serve utcnow) (fun db request hdb => serve_consistent utcnow db request hdb)
    h requests

theorem after_history (utcnow : ℕ → DateTime) (db : Db) (requests : List Request) :
    ∃ rows, (after utcnow db requests).history = db.history ++ rows := by
  induction requests generalizing db with
  | nil => exact ⟨[], (List.append_nil _).symm⟩
  | cons request requests ih =>
      obtain ⟨rows, hrows⟩ := serve_history utcnow db request
      obtain ⟨rows', hrows'⟩ := ih (serve utcnow db request).1
      refine ⟨rows ++ rows', ?_⟩
      rw [← List.append_assoc, ← hrows, ← hrows']
      rfl

/-- A stop in the trail of a case keeps every executor away from it. -/
theorem serve_no_call {utcnow : ℕ → DateTime} {db : Db} (h : Consistent db) (request : Request)
    {c : ExecutorCall} (hc : c ∈ (serve utcnow db request).2) :
    ∀ e ∈ db.trail c.caseId, e.kind ≠ .stop := by
  obtain ⟨r, case, -, -, hheld, hrunning, -, -, hcase, -⟩ := serve_call hc
  rw [hcase]
  exact (h.told case.id case hheld).no_stop hrunning

/-- A recovered stop in the trail of a case leaves the case recovered, whatever
is requested later. -/
theorem recovered_for_good {utcnow : ℕ → DateTime} {db : Db} (h : Consistent db)
    {caseId : String} (hstop : ∃ e ∈ db.trail caseId, isRecoveredStop e)
    (requests : List Request) :
    ∃ case, (after utcnow db requests).cases.get? caseId = some case ∧
      case.status = .recovered := by
  obtain ⟨e, he, hrecovered⟩ := hstop
  obtain ⟨rows, hrows⟩ := after_history utcnow db requests
  have hafter := after_consistent utcnow h requests
  obtain ⟨hmem, hcase⟩ := List.mem_filter.1 he
  have hmem' : e ∈ (after utcnow db requests).history := by
    rw [hrows]
    exact List.mem_append_left _ hmem
  obtain ⟨case, hget⟩ := Option.isSome_iff_exists.1 (hafter.known e hmem')
  rw [of_decide_eq_true hcase] at hget
  refine ⟨case, hget, (hafter.told caseId case hget).recovered ⟨e, ?_, hrecovered⟩⟩
  exact List.mem_filter.2 ⟨hmem', hcase⟩

/-- The status of a case is a fold of the ledger, and a stop is final for
execution: in every state that requests reach from the empty database. -/
theorem status_is_ledger_fold (utcnow : ℕ → DateTime) (requests : List Request) :
    let db := after utcnow Db.empty requests
    (∀ caseId case, db.cases.get? caseId = some case →
      (case.status = .recovered ↔
        ∃ e, lastStop (db.trail caseId) = some e ∧ e.reasonCode = "recovered") ∧
      (case.status = .stopped ↔
        ∃ e, lastStop (db.trail caseId) = some e ∧ e.reasonCode ≠ "recovered") ∧
      (case.status = .blocked ↔
        lastStop (db.trail caseId) = none ∧ hasBlock (db.trail caseId) = true) ∧
      (case.status = .opened ↔
        lastStop (db.trail caseId) = none ∧ hasBlock (db.trail caseId) = false) ∧
      case.stopReason = (lastStop (db.trail caseId)).map (·.reasonCode)) ∧
    (∀ caseId, (∃ e ∈ db.trail caseId, isRecoveredStop e) → ∀ later,
      ∃ case, (after utcnow db later).cases.get? caseId = some case ∧
        case.status = .recovered) ∧
    (∀ request, ∀ c ∈ (serve utcnow db request).2, ∀ e ∈ db.trail c.caseId, e.kind ≠ .stop) := by
  intro db
  have hdb : Consistent db := after_consistent utcnow consistent_empty requests
  refine ⟨?_, ?_, ?_⟩
  · intro caseId case hget
    obtain ⟨hstatus, hreason, -⟩ := hdb.told caseId case hget
    rw [hstatus, statusOf]
    cases hlast : lastStop (db.trail caseId) with
    | none =>
        rw [stopReasonOf, hlast] at hreason
        cases hblock : hasBlock (db.trail caseId) <;> simp [hreason]
    | some e =>
        rw [stopReasonOf, hlast] at hreason
        by_cases hcode : e.reasonCode = "recovered"
        · simp [hcode, hreason]
        · simp [hcode, hreason]
  · intro caseId hstop later
    exact recovered_for_good hdb hstop later
  · intro request c hc
    exact serve_no_call hdb request hc

/-- A case that a retry has recovered stays recovered when it is retried. -/
theorem status_is_ledger_fold_retry :
    ∃ case, (after (fun _ => daytime) (after (fun _ => daytime) Db.empty
        [.ingest "case_1" cardEvent, .guarded recoveringRequest])
        [.guarded retryRequest]).cases.get? "case_1" = some case ∧ case.status = .recovered :=
  (status_is_ledger_fold (fun _ => daytime)
    [.ingest "case_1" cardEvent, .guarded recoveringRequest]).2.1 "case_1" (by decide)
      [.guarded retryRequest]

end RecoveryAgent.Runs
