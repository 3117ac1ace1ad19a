import RecoveryAgent.Demo.LiveFlow
import RecoveryAgent.Runs.Budget

/-!
# What the flow hands to the guard

Everything up to the guard makes no executor call and commits nothing but the
opened case. `handedOver` is what the guard is given, and `Reached` says of every
event in what world the flow is left when its consumer stops there.
-/

namespace RecoveryAgent.Demo

open Library Python Policy Ledger Guard Execute Ai Memory Runs Generator

/-- The world before the flow: nothing is open and nothing was called. -/
def start (env : DemoEnv) (db : Db) : World := ⟨db, openSession env.utcnow db⟩

/-- What the guard is given. -/
structure Handover where
  session : Session
  case : CaseRow
  result : AgentRunResult

namespace Handover

def ctx (h : Handover) (input : DemoInput) : GuardContext :=
  demoGuardContext input h.result h.case

/-- The execute section on what was handed over. -/
def execute (h : Handover) (env : DemoEnv) (input : DemoInput) : Executed × Session :=
  if input.live then liveExecute env input h.case (h.ctx input) h.session
  else simulateExecute h.case (h.ctx input) h.session

end Handover

/-- What the flow prepares for the guard from an opened case. -/
def handover (result : AgentRunResult) (rag : RagMetrics) (case : CaseRow) (s : Session) :
    Handover where
  session := (prepareCase result rag case s).2
  case := (prepareCase result rag case s).1
  result

def openedWorld (env : DemoEnv) (input : DemoInput) (db : Db) : World :=
  (openCase env input (start env db)).state.reset

/-- What the guard is given in the run from this database, if the run comes to
the guard. -/
def handedOver (env : DemoEnv) (input : DemoInput) (db : Db) : Option Handover :=
  match (openCase env input (start env db)).result, env.retrieve input.rawErrorReason with
  | .ok caseId, .ok rag =>
      ((openedWorld env input db).session.getCase caseId).map fun case =>
        handover (agentResult env input caseId) rag case (openedWorld env input db).session
  | _, _ => none

def Event.isGate : Event → Bool
  | gate .. => true
  | _ => false

/-- Whether the event is one of the last three. -/
def Event.afterCommit : Event → Bool
  | step key _ status _ _ => (key = "safety" || key = "action") && status ≠ "running"
  | done _ => true
  | _ => false

/-- Nothing was called, and only events were committed. -/
structure Quiet (env : DemoEnv) (db : Db) (w : World) : Prop where
  calls : w.calls = []
  history : ∃ rows, w.committed.history = db.history ++ rows ∧ ∀ e ∈ rows, e.kind = .event

/-- In what world the flow is left at an event. -/
inductive Reached (env : DemoEnv) (input : DemoInput) (db : Db) : Event → World → Prop where
  | before {y : Event} {w : World} (gate : y.isGate = false) (after : y.afterCommit = false)
      (quiet : Quiet env db w) : Reached env input db y w
  | gate {y : Event} {w : World} {h : Handover} (gate : y.isGate = true)
      (handed : handedOver env input db = some h)
      (committed : w.committed = (openedWorld env input db).committed)
      (calls : w.calls = (h.execute env input).2.calls) : Reached env input db y w
  | after {y : Event} {w : World} {h : Handover} (gate : y.isGate = false)
      (after : y.afterCommit = true) (handed : handedOver env input db = some h)
      (committed : w.committed = (h.execute env input).2.db)
      (calls : w.calls = (h.execute env input).2.calls) : Reached env input db y w

/-- In what world the flow ends. -/
def Ended (env : DemoEnv) (input : DemoInput) (db : Db) (w : World) : Prop :=
  w.calls = [] ∨ ∃ h, handedOver env input db = some h ∧
    w.calls = (h.execute env input).2.calls

/-- The second session is committed. -/
def Completed (env : DemoEnv) (input : DemoInput) (db : Db) (w : World) : Prop :=
  ∃ h, handedOver env input db = some h ∧ w.committed = (h.execute env input).2.db ∧
    w.calls = (h.execute env input).2.calls

section

variable {env : DemoEnv} {input : DemoInput} {db : Db}

/-- The first session commits at most the event of the opened case. -/
theorem openCase_quiet : Quiet env db (openCase env input (start env db)).state := by
  have hidle : Quiet env db (start env db) := by
    constructor
    · rfl
    · exact ⟨[], (List.append_nil _).symm, by simp⟩
  unfold openCase Generator.effect
  simp only
  split
  · exact hidle
  · split
    · next ingested s hingest =>
        rcases ingestRiskEvent_eq_ok hingest with rfl | ⟨-, hledger, hcalls⟩
        · exact hidle
        · constructor
          · exact hcalls
          · refine ⟨[(ingestFact env.newCaseId (riskEvent env input)).toLedgerColumns], ?_, ?_⟩
            · have hrecord := Session.record_history (openSession env.utcnow db)
                [ingestFact env.newCaseId (riskEvent env input)]
              rw [Db.history, hledger]
              exact hrecord
            · simp [ingestFact]
    · exact hidle

theorem openedWorld_quiet : Quiet env db (openedWorld env input db) where
  calls := openCase_quiet.calls
  history := openCase_quiet.history

theorem handedOver_eq {caseId : String} {rag : RagMetrics} {case : CaseRow}
    (hopened : (openCase env input (start env db)).result = .ok caseId)
    (hrag : env.retrieve input.rawErrorReason = .ok rag)
    (hcase : (openedWorld env input db).session.getCase caseId = some case) :
    handedOver env input db = some (handover (agentResult env input caseId) rag case
      (openedWorld env input db).session) := by
  simp only [handedOver, hopened, hrag, hcase, Option.map_some]

/-- Preparing the case calls no executor. -/
theorem handover_calls (result : AgentRunResult) (rag : RagMetrics) (case : CaseRow)
    (s : Session) : (handover result rag case s).session.calls = s.calls := by
  unfold handover prepareCase persistAgentRun
  simp only [Session.add_calls]
  split
  · rw [Session.appendLedger_calls, Session.record_calls]
  · exact Session.record_calls s _

/-!
## What was written before the guard
-/

/-- What preparing the case writes. -/
def preparedFacts (result : AgentRunResult) (rag : RagMetrics) (caseId : String) :
    List LedgerFact :=
  agentFacts caseId result ++ if rag.enabled then [retrievalFact caseId rag] else []

theorem prepareCase_history (result : AgentRunResult) (rag : RagMetrics) (case : CaseRow)
    (s : Session) :
    (prepareCase result rag case s).2.db.history =
      s.db.history ++ (preparedFacts result rag case.id).map (·.toLedgerColumns) := by
  unfold prepareCase persistAgentRun preparedFacts
  simp only [Session.add_history, List.map_append]
  split
  · rw [Session.appendLedger_history, Session.record_history, List.append_assoc]
    rfl
  · rw [Session.record_history, List.map_nil, List.append_nil]

/-- Before the guard the event of the case and the rows of its preparation are
written. -/
theorem handedOver_history {h : Handover} (hhanded : handedOver env input db = some h) :
    ∃ opened rag, h.session.db.history = db.history ++ (opened ++
        (preparedFacts h.result rag h.case.id).map (·.toLedgerColumns)) ∧
      (∀ e ∈ opened, e.kind = .event) ∧ h.result = agentResult env input h.case.id := by
  have hquiet : Quiet env db (openedWorld env input db) := openedWorld_quiet
  obtain ⟨opened, hopened, hevents⟩ := hquiet.history
  unfold handedOver at hhanded
  split at hhanded
  · next caseId rag _ _ =>
      obtain ⟨case, hcase, rfl⟩ := Option.map_eq_some_iff.1 hhanded
      have hid : case.id = caseId := Table.key_of_get? hcase
      have hsession : (openedWorld env input db).session.db.history =
          (openedWorld env input db).committed.history := rfl
      refine ⟨opened, rag, ?_, hevents, by rw [← hid]; rfl⟩
      rw [← List.append_assoc, ← hopened, ← hsession]
      exact prepareCase_history ..
  · cases hhanded

theorem preparedFacts_not_gateCheck (agent : Agent) (ctx : CaseContext) (rag : RagMetrics)
    (caseId : String) :
    ∀ f ∈ preparedFacts (agent.run ctx).1 rag caseId, f.kind ≠ .gateCheck := by
  intro f hf hkind
  rcases List.mem_append.1 hf with hf | hf
  · have hmem := List.mem_map_of_mem (f := fun f : LedgerFact => f.kind) hf
    rw [agentFacts_kinds, run_kinds, hkind] at hmem
    cases hmessage : (agent.run ctx).1.message <;> simp [hmessage] at hmem
  · split at hf
    · rw [List.mem_singleton.1 hf] at hkind
      cases hkind
    · cases hf

theorem handedOver_not_gateCheck {h : Handover} (hhanded : handedOver env input db = some h) :
    ∃ earlier, h.session.db.history = db.history ++ earlier ∧
      ∀ e ∈ earlier, e.kind ≠ .gateCheck := by
  obtain ⟨opened, rag, hhistory, hevents, hresult⟩ := handedOver_history hhanded
  refine ⟨_, hhistory, ?_⟩
  intro e he
  rcases List.mem_append.1 he with he | he
  · rw [hevents e he]
    exact nofun
  · obtain ⟨f, hf, rfl⟩ := List.mem_map.1 he
    rw [hresult] at hf
    exact preparedFacts_not_gateCheck _ _ rag h.case.id f hf

/-!
## The events
-/

theorem closingEvents_after {rag : RagMetrics} {result : AgentRunResult} {done : Executed}
    {y : Event} (hy : y ∈ closingEvents env input rag result done) :
    y.isGate = false ∧ y.afterCommit = true := by
  have hstatus : (if done.blockedBy.isSome then "blocked" else "done") ≠ "running" := by
    split <;> decide
  simp only [closingEvents, List.mem_cons, List.not_mem_nil, or_false] at hy
  rcases hy with rfl | rfl | rfl
  · exact ⟨rfl, by simp [Event.afterCommit, hstatus]⟩
  · exact ⟨rfl, by simp [Event.afterCommit, hstatus]⟩
  · exact ⟨rfl, rfl⟩

theorem executeEvent_before (input : DemoInput) (verb : ActionVerb) :
    (executeEvent input verb).isGate = false ∧ (executeEvent input verb).afterCommit = false := by
  unfold executeEvent
  split
  · exact ⟨rfl, rfl⟩
  · exact ⟨rfl, rfl⟩

/-- The second session from the guard on, as it is left at each of its events. -/
theorem executeSection_meets {rag : RagMetrics} {h : Handover}
    (hhanded : handedOver env input db = some h) (hcalls : h.session.calls = []) :
    Meets (fun w => w = { openedWorld env input db with session := h.session })
      (executeSection env input rag h.result h.case)
      (fun y w => Reached env input db y w.reset) (fun _ w => Completed env input db w.reset)
      (fun w => Quiet env db w.reset) := by
  unfold executeSection
  apply Meets.bind fun _ w => w = { openedWorld env input db with session := h.session }
  · apply Meets.yield
    rintro w rfl
    obtain ⟨hgate, hafter⟩ := executeEvent_before input (h.ctx input).action.verb
    exact ⟨.before hgate hafter ⟨hcalls, openedWorld_quiet.history⟩, rfl⟩
  · intro _
    apply Meets.bind fun done w => done = (h.execute env input).1 ∧
      w = { openedWorld env input db with session := (h.execute env input).2 }
    · apply Meets.effect
      rintro w rfl
      simp only [Handover.execute]
      split
      · exact ⟨rfl, rfl⟩
      · exact ⟨rfl, rfl⟩
    · intro done
      apply Meets.of_fact
      rintro rfl
      apply Meets.bind fun _ w =>
        w = { openedWorld env input db with session := (h.execute env input).2 }
      · apply Meets.yieldAll
        rintro w rfl
        refine ⟨?_, rfl⟩
        intro y hy
        obtain ⟨c, -, rfl⟩ := List.mem_map.1 hy
        exact .gate rfl hhanded rfl rfl
      · intro _
        apply Meets.bind fun _ w =>
          w = { committed := (h.execute env input).2.db, session := (h.execute env input).2 }
        · apply Meets.effect
          rintro w rfl
          rfl
        · intro _
          apply Meets.yieldAll
          rintro w rfl
          refine ⟨?_, h, hhanded, rfl, rfl⟩
          intro y hy
          obtain ⟨hgate, hafter⟩ := closingEvents_after hy
          exact .after hgate hafter hhanded rfl rfl

/-- The second session, as it is left at each of its events. -/
theorem safetySection_meets {caseId : String} {rag : RagMetrics}
    (hopened : (openCase env input (start env db)).result = .ok caseId)
    (hrag : env.retrieve input.rawErrorReason = .ok rag) :
    Meets (fun w => w = openedWorld env input db)
      (safetySection env input rag (agentResult env input caseId) caseId)
      (fun y w => Reached env input db y w.reset) (fun _ w => Completed env input db w.reset)
      (fun w => Quiet env db w.reset) := by
  unfold safetySection
  apply Meets.bind fun loaded w =>
    loaded = (openedWorld env input db).session.getCase caseId ∧ w = openedWorld env input db
  · apply Meets.effect
    rintro w rfl
    exact ⟨rfl, rfl⟩
  · intro loaded
    apply Meets.of_fact
    intro hloaded
    cases loaded with
    | none =>
        apply Meets.effect
        rintro w rfl
        exact openedWorld_quiet
    | some case =>
        have hhanded := handedOver_eq hopened hrag hloaded.symm
        have hcalls : (handover (agentResult env input caseId) rag case
            (openedWorld env input db).session).session.calls = [] := by
          rw [handover_calls]
          exact openedWorld_quiet.calls
        generalize hh : handover (agentResult env input caseId) rag case
          (openedWorld env input db).session = h at hhanded hcalls
        apply Meets.bind fun prepared w => prepared = h.case ∧
          w = { openedWorld env input db with session := h.session }
        · apply Meets.effect
          rintro w rfl
          rw [← hh]
          exact ⟨rfl, rfl⟩
        · intro prepared
          apply Meets.of_fact
          rintro rfl
          have hresult : agentResult env input caseId = h.result := by rw [← hh, handover]
          rw [hresult]
          exact executeSection_meets hhanded hcalls

/-- An event before the guard. -/
theorem yield_before {y : Event} {w : World} (hgate : y.isGate = false)
    (hafter : y.afterCommit = false) (hquiet : Quiet env db w) :
    Meets (fun v => v = w) (.yield y : Flow Unit) (Reached env input db) (fun _ v => v = w)
      (Quiet env db) := by
  apply Meets.yield
  rintro v rfl
  exact ⟨.before hgate hafter hquiet, rfl⟩

/-- A value from outside, or the end of the flow before anything was called. -/
theorem lift_before {α : Type} {x : Except Failure α} {w : World} (hquiet : Quiet env db w) :
    Meets (fun v => v = w) (Flow.lift x) (Reached env input db)
      (fun a v => x = .ok a ∧ v = w) (Quiet env db) := by
  apply Meets.effect
  rintro v rfl
  cases x with
  | ok a => exact ⟨rfl, rfl⟩
  | error f => exact hquiet

theorem openCase_meets :
    Meets (fun w => w = start env db) (openCase env input) (Reached env input db)
      (fun caseId w => (openCase env input (start env db)).result = .ok caseId ∧
        w = (openCase env input (start env db)).state) (Quiet env db) := by
  rintro w rfl
  constructor
  · intro p hp
    cases hp
  · split
    · next hresult => exact ⟨hresult, rfl⟩
    · exact openCase_quiet

theorem ragChunks_before {episodes : List Fields} {y : Event} (hy : y ∈ ragChunks episodes) :
    y.isGate = false ∧ y.afterCommit = false := by
  obtain ⟨i, hi, rfl⟩ := List.mem_mapIdx.1 hy
  exact ⟨rfl, rfl⟩

/-- The flow, as it is left at each of its events and at its end. -/
theorem flow_meets (env : DemoEnv) (input : DemoInput) (db : Db) :
    Meets (fun w => w = start env db) (iterAiDemoCase env input) (Reached env input db)
      (fun _ => Completed env input db) (Quiet env db) := by
  have hstart : Quiet env db (start env db) :=
    ⟨rfl, [], (List.append_nil _).symm, by simp⟩
  have hopened : Quiet env db (openCase env input (start env db)).state := openCase_quiet
  unfold iterAiDemoCase
  refine Meets.bind _ (yield_before rfl rfl hstart) fun _ => ?_
  refine Meets.bind _ openCase_meets fun caseId => ?_
  apply Meets.of_fact
  intro hcaseId
  refine Meets.bind _ (yield_before rfl rfl hopened) fun _ => ?_
  refine Meets.bind _ (yield_before rfl rfl hopened) fun _ => ?_
  refine Meets.bind _ (lift_before hopened) fun rag => ?_
  apply Meets.of_fact
  intro hrag
  refine Meets.bind _ (lift_before hopened) fun detail => ?_
  apply Meets.of_fact
  intro _
  refine Meets.bind _ (yield_before rfl rfl hopened) fun _ => ?_
  refine Meets.bind _ (yield_before rfl rfl hopened) fun _ => ?_
  refine Meets.bind (fun _ w => w = (openCase env input (start env db)).state) ?_ fun _ => ?_
  · apply Meets.yieldAll
    rintro w rfl
    refine ⟨?_, rfl⟩
    intro y hy
    obtain ⟨hgate, hafter⟩ := ragChunks_before hy
    exact .before hgate hafter hopened
  refine Meets.bind _ (yield_before rfl rfl hopened) fun _ => ?_
  refine Meets.bind _ (yield_before rfl rfl hopened) fun _ => ?_
  refine Meets.bind _ (yield_before rfl rfl hopened) fun _ => ?_
  refine Meets.bind _ (yield_before rfl rfl hopened) fun _ => ?_
  refine Meets.bind (fun _ w => w = openedWorld env input db) ?_ fun _ => ?_
  · apply Meets.effect
    rintro w rfl
    rfl
  exact Meets.withCleanup (safetySection_meets hcaseId hrag)

end

end RecoveryAgent.Demo
