import RecoveryAgent.Demo.Abandoned
import RecoveryAgent.Runs.Growth

/-!
# The live flow as two transactions

Other requests may come between the two sessions of the flow, and between any two of its
events. Its first session is one transaction, and so is its second one, on a case as it is
found then; a consumer that stops before the commit leaves the calls of the second session
and nothing of what it has written.
-/

namespace RecoveryAgent.Demo

open Library Python Policy Ledger Guard Execute Ai Memory Runs Generator

/-- What the first session commits. -/
def openStep (env : DemoEnv) (input : DemoInput) (db : Db) : Db :=
  (openedWorld env input db).committed

/-- What the second session hands to the guard. -/
def safetyHandover (env : DemoEnv) (input : DemoInput) (rag : RagMetrics) (caseId : String)
    (db : Db) : Option Handover :=
  ((openSession env.utcnow db).getCase caseId).map fun case =>
    handover (agentResult env input caseId) rag case (openSession env.utcnow db)

/-- What the second session commits, if it comes to that, and the calls that it makes. -/
def safetyStep (env : DemoEnv) (input : DemoInput) (rag : RagMetrics) (caseId : String)
    (committed : Bool) (db : Db) : Db × List ExecutorCall :=
  match safetyHandover env input rag caseId db with
  | none => (db, [])
  | some h => (if committed then (h.execute env input).2.db else db, (h.execute env input).2.calls)

instance : DecidablePred NotGated :=
  fun call => inferInstanceAs (Decidable (call.action.reasonCode = _))

def guardedCalls (calls : List ExecutorCall) : List ExecutorCall :=
  calls.filter fun call => ¬NotGated call

/-!
## What the sessions do
-/

theorem openStep_written (env : DemoEnv) (input : DemoInput) (db : Db) :
    Written Honest db [] (openStep env input db) := by
  unfold openStep openedWorld openCase Generator.effect
  simp only
  split
  · exact .refl db
  · split
    · next ingested s hingest => exact (written_ingest hingest).1
    · exact .refl db

theorem preparedFacts_own (result : AgentRunResult) (rag : RagMetrics) (caseId : String) :
    ∀ f ∈ preparedFacts result rag caseId, f.caseId = caseId := by
  intro f hf
  rcases List.mem_append.1 hf with hf | hf
  · obtain ⟨event, -, rfl⟩ := List.mem_map.1 hf
    rfl
  · split at hf
    · rw [List.mem_singleton.1 hf]
      rfl
    · cases hf

/-- Preparing a case neither stops it nor writes an outcome. -/
theorem preparedFacts_quiet (agent : Agent) (ctx : CaseContext) (rag : RagMetrics)
    (caseId : String) :
    ∀ f ∈ preparedFacts (agent.run ctx).1 rag caseId, f.kind ≠ .stop ∧ f.kind ≠ .outcome := by
  intro f hf
  rcases List.mem_append.1 hf with hf | hf
  · have hmem := List.mem_map_of_mem (f := fun f : LedgerFact => f.kind) hf
    rw [agentFacts_kinds, run_kinds] at hmem
    constructor
    · intro hkind
      rw [hkind] at hmem
      cases hmessage : (agent.run ctx).1.message <;> simp [hmessage] at hmem
    · intro hkind
      rw [hkind] at hmem
      cases hmessage : (agent.run ctx).1.message <;> simp [hmessage] at hmem
  · split at hf
    · rw [List.mem_singleton.1 hf]
      exact ⟨by simp [retrievalFact], by simp [retrievalFact]⟩
    · cases hf

/-- Preparing a case is one effect on it. -/
theorem handover_session {s : Session} {case : CaseRow} (hheld : s.Holds case)
    (result : AgentRunResult) (rag : RagMetrics) :
    (handover result rag case s).session =
      s.perform ⟨(handover result rag case s).case, preparedFacts result rag case.id, []⟩ := by
  have hid : (handover result rag case s).case.id = case.id := rfl
  rw [← hheld.record_add hid]
  unfold preparedFacts handover prepareCase persistAgentRun
  cases rag.enabled with
  | true => simp only [if_true, Session.record_append, Session.record_cons, Session.record_nil]
  | false => simp only [Bool.false_eq_true, if_false, List.append_nil]

/-- The rows of an agent's run are neither stops nor gate checks. -/
theorem handover_written {s : Session} {case : CaseRow} (hheld : s.Holds case) (agent : Agent)
    (ctx : CaseContext) (rag : RagMetrics) :
    Written Honest s.db [] (handover (agent.run ctx).1 rag case s).session.db ∧
      (handover (agent.run ctx).1 rag case s).session.Holds
        (handover (agent.run ctx).1 rag case s).case := by
  refine ⟨?_, (prepareCase_holds hheld).2⟩
  rw [handover_session hheld]
  have hkinds := preparedFacts_quiet agent ctx rag case.id
  set e : Effect := ⟨(handover (agent.run ctx).1 rag case s).case,
    preparedFacts (agent.run ctx).1 rag case.id, []⟩
  have hgoesOn : GoesOn case e :=
    ⟨⟨rfl, rfl, rfl, rfl, rfl, rfl, le_rfl, le_rfl, fun h => h, fun h => h⟩,
      preparedFacts_own _ rag case.id⟩
  have hhonest : Honest case e := by
    refine ⟨fun trail htold => ?_, fun f hf hkind => absurd hkind (hkinds f hf).2⟩
    have hquiet : Told case (trail ++
        (preparedFacts (agent.run ctx).1 rag case.id).map (·.toLedgerColumns)) := by
      refine htold.append_quiet ?_ ?_
      · intro row hrow
        obtain ⟨f, hf, rfl⟩ := List.mem_map.1 hrow
        exact (hkinds f hf).1
      · intro row hrow
        obtain ⟨f, hf, rfl⟩ := List.mem_map.1 hrow
        exact preparedFacts_not_gateCheck agent ctx rag case.id f hf
    exact ⟨hquiet.status, hquiet.reason, hquiet.recovered⟩
  exact .performed hheld hgoesOn hhonest

/-- The row of a demo link is neither a stop nor a gate check, and no outcome. -/
theorem honest_demoLink (case : CaseRow) (gatedVerb : ActionVerb) (outcome : Outcome)
    (calls : List ExecutorCall) : Honest case ⟨case, [demoFact case gatedVerb outcome], calls⟩ where
  tells := fun _ htold => htold.append_quiet (by simp [demoFact]) (by simp [demoFact])
  backs := by simp [Backs, demoFact]

namespace Handover

variable (h : Handover) (env : DemoEnv) (input : DemoInput)

theorem ctx_fresh : FreshContext h.case (h.ctx input) := ⟨rfl, rfl, Or.inr rfl⟩

/-- The execute section goes on from its case too, and calls only where the case is running. -/
theorem execute_written (hheld : h.session.Holds h.case) :
    ∃ made, (h.execute env input).2.calls = h.session.calls ++ made ∧
      Written Honest h.session.db made (h.execute env input).2.db ∧
      (∀ c ∈ made, c.caseId = h.case.id ∧ isCaseStopped h.case = false) ∧
        Once h.session.db (h.execute env input).2.db (guardedCalls made) := by
  by_cases hadmitted : h.Admitted input
  · have hconducted := Conducted.some
      (exec_conducts env.razorpay.run (demoMeta input h.case) "ui-demo")
    have hverdict : Verdict h.session h.case (h.ctx input)
        (some (execConduct env.razorpay.run (demoMeta input h.case) "ui-demo")) "ui-demo" []
        (h.gatedEffect env input) := guardEffect_verdict ..
    obtain ⟨hgoesOn, hhonest⟩ := honest_verdict hconducted (by
      rintro act ⟨⟩
      exact keeps_execConduct _ _ _) hverdict
    have hwritten : Written Honest h.session.db (h.gatedEffect env input).calls
        (h.session.perform (h.gatedEffect env input)).db := .performed hheld hgoesOn hhonest
    have honce := (once_verdict hconducted hverdict (h.ctx_fresh input)).filter
      fun call => ¬NotGated call
    have hgated : (h.gatedEffect env input).calls = [h.gatedCall env input] := by
      rw [h.gatedEffect_of_admitted env input hadmitted]
    rw [hgated] at honce hwritten
    have hrunning := hadmitted.letThrough.running
    rw [h.execute_of_admitted env input hheld hadmitted]
    split
    · set s := h.session.perform (h.gatedEffect env input)
      have hcase : (h.gatedEffect env input).case = h.gatedCase env input := by
        rw [h.gatedEffect_of_admitted env input hadmitted]
      have hheld' : s.Holds (h.gatedCase env input) := by
        rw [← hcase]
        exact hheld.perform hgoesOn.continues.id
      set link := demoFact (h.gatedCase env input) (h.ctx input).action.verb
        (h.demoOutcome env input)
      have hcall : h.demoCall env input = ⟨(h.gatedCase env input).id,
          (h.demoCall env input).action, (h.demoCall env input).result⟩ := by
        rw [h.gatedCase_id env input]
        rfl
      have hlink : Written Honest s.db [h.demoCall env input]
          (s.perform ⟨h.gatedCase env input, [link], [h.demoCall env input]⟩).db :=
        .performed hheld' ⟨.refl _, by simp [demoFact]⟩ (honest_demoLink _ _ _ _)
      have hcalled := called_eq_perform hheld' (h.demoCall env input).action
        (h.demoCall env input).result link
      rw [← hcall] at hcalled
      rw [← hcalled] at hlink
      refine ⟨[h.gatedCall env input, h.demoCall env input], ?_, hwritten.trans hlink, ?_, ?_⟩
      · rw [Session.appendLedger_calls, Session.call_calls, Session.perform_calls, hgated,
          List.append_assoc]
        rfl
      · intro c hc
        simp only [List.mem_cons, List.not_mem_nil, or_false] at hc
        rcases hc with rfl | rfl
        · exact ⟨rfl, hrunning⟩
        · exact ⟨rfl, hrunning⟩
      · have hdemo : guardedCalls [h.gatedCall env input, h.demoCall env input] =
            guardedCalls [h.gatedCall env input] := by
          have hmark : NotGated (h.demoCall env input) := rfl
          have hnone : guardedCalls [h.demoCall env input] = [] :=
            List.filter_cons_of_neg (by simpa using hmark)
          have hboth : guardedCalls ([h.gatedCall env input] ++ [h.demoCall env input]) =
              guardedCalls [h.gatedCall env input] ++ guardedCalls [h.demoCall env input] :=
            List.filter_append ..
          rwa [hnone, List.append_nil] at hboth
        rw [hdemo]
        exact honce.extends hlink.extended
    · refine ⟨[h.gatedCall env input], ?_, hwritten, ?_, honce⟩
      · rw [Session.perform_calls, hgated]
      · intro c hc
        rw [List.mem_singleton.1 hc]
        exact ⟨rfl, hrunning⟩
  · obtain ⟨e, executeFn, conduct, hconducted, hverdict, hnone, hsession⟩ :=
      h.execute_of_not_admitted env input hheld hadmitted
    obtain ⟨hcontinues, hquiet⟩ := uncalled_verdict hverdict hnone
    have hhonest : Honest h.case e :=
      ⟨fun trail htold => htold.verdict hconducted hverdict,
        fun f hf hkind => absurd hkind (hquiet f hf)⟩
    have hwritten : Written Honest h.session.db e.calls (h.session.perform e).db :=
      .performed hheld ⟨hcontinues, (hverdict.own hconducted).1⟩ hhonest
    rw [hsession]
    rw [hnone] at hwritten
    refine ⟨[], ?_, hwritten, fun _ hc => absurd hc List.not_mem_nil, once_nil _ _⟩
    rw [Session.perform_calls, hnone]

end Handover

theorem safetyStep_written (env : DemoEnv) (input : DemoInput) (rag : RagMetrics)
    (caseId : String) (committed : Bool) (db : Db) :
    Written Honest db (if committed then (safetyStep env input rag caseId committed db).2 else [])
        (safetyStep env input rag caseId committed db).1 ∧
      Respects db (safetyStep env input rag caseId committed db).2 ∧
      (committed = true → Once db (safetyStep env input rag caseId committed db).1
        (guardedCalls (safetyStep env input rag caseId committed db).2)) := by
  unfold safetyStep
  cases hhanded : safetyHandover env input rag caseId db with
  | none =>
      refine ⟨?_, respects_nil db, fun _ => once_nil db db⟩
      simp only [ite_self]
      exact .refl db
  | some h =>
      obtain ⟨case, hcase, rfl⟩ := Option.map_eq_some_iff.1 hhanded
      obtain ⟨-, hheld⟩ := holds_of_get? env.utcnow hcase
      obtain ⟨hprepared, hheld'⟩ := handover_written hheld (demoAgent env input)
        (caseContext env input caseId) rag
      obtain ⟨made, hmade, hexecuted, hrunning, honce⟩ := (handover
        (agentResult env input caseId) rag case (openSession env.utcnow db)).execute_written env
          input hheld'
      rw [handover_calls] at hmade
      simp only [hmade]
      refine ⟨?_, (respects_guarded hheld' hrunning).of_extends hprepared.extended, ?_⟩
      · cases committed with
        | true => exact hprepared.after hexecuted
        | false => exact .refl db
      · rintro rfl
        exact honce.of_extends hprepared.extended

/-!
## The flow is made of them
-/

/-- Nothing was done, or the first session, or the second one after it with or without its
commit. -/
inductive Serial (env : DemoEnv) (input : DemoInput) (db : Db) (w : World) : Prop where
  | untouched (committed : w.committed = db) (calls : w.calls = [])
  | opened (committed : w.committed = openStep env input db) (calls : w.calls = [])
  | analysed {caseId : String} {rag : RagMetrics} {kept : Bool}
      (opened : (openCase env input (start env db)).result = .ok caseId)
      (retrieved : env.retrieve input.rawErrorReason = .ok rag)
      (done : (w.committed, w.calls) =
        safetyStep env input rag caseId kept (openStep env input db))

section

variable {env : DemoEnv} {input : DemoInput} {db : Db}

theorem openedWorld_session :
    (openedWorld env input db).session = openSession env.utcnow (openStep env input db) := by
  unfold openStep openedWorld openCase Generator.effect
  simp only
  split
  · rfl
  · split
    · next ingested s hingest =>
        have hingested := ingestRiskEvent_ingested
          (start env db).reset.session env.newCaseId (riskEvent env input)
        rw [hingest] at hingested
        cases hingested with
        | duplicate _ => rfl
        | opened _ _ _ => rfl
    · rfl

/-- The second session from the guard on. -/
theorem executeSection_serial {caseId : String} {rag : RagMetrics} {h : Handover}
    (hopened : (openCase env input (start env db)).result = .ok caseId)
    (hrag : env.retrieve input.rawErrorReason = .ok rag)
    (hhanded : safetyHandover env input rag caseId (openStep env input db) = some h)
    (hcalls : h.session.calls = []) :
    Meets (fun w => w = { openedWorld env input db with session := h.session })
      (executeSection env input rag h.result h.case)
      (fun _ w => Serial env input db w.reset) (fun _ w => Serial env input db w.reset)
      (fun w => Serial env input db w.reset) := by
  have hstep : ∀ kept, safetyStep env input rag caseId kept
      (openStep env input db) = (if kept then (h.execute env input).2.db
        else openStep env input db, (h.execute env input).2.calls) := by
    intro kept
    rw [safetyStep, hhanded]
  unfold executeSection
  apply Meets.bind fun _ w => w = { openedWorld env input db with session := h.session }
  · apply Meets.yield
    rintro w rfl
    exact ⟨.opened rfl hcalls, rfl⟩
  · intro _
    apply Meets.bind fun done w => done = (h.execute env input).1 ∧
      w = { openedWorld env input db with session := (h.execute env input).2 }
    · apply Meets.effect
      rintro w rfl
      simp only [Handover.execute]
      split
      · exact ⟨rfl, rfl⟩
      · exact ⟨rfl, rfl⟩
    · intro done
      apply Meets.of_fact
      rintro rfl
      apply Meets.bind fun _ w =>
        w = { openedWorld env input db with session := (h.execute env input).2 }
      · apply Meets.yieldAll
        rintro w rfl
        exact ⟨fun y hy => .analysed hopened hrag (hstep false).symm, rfl⟩
      · intro _
        apply Meets.bind fun _ w =>
          w = { committed := (h.execute env input).2.db, session := (h.execute env input).2 }
        · apply Meets.effect
          rintro w rfl
          rfl
        · intro _
          apply Meets.yieldAll
          rintro w rfl
          exact ⟨fun y hy => .analysed hopened hrag (hstep true).symm,
            .analysed hopened hrag (hstep true).symm⟩

/-- The second session. -/
theorem safetySection_serial {caseId : String} {rag : RagMetrics}
    (hopened : (openCase env input (start env db)).result = .ok caseId)
    (hrag : env.retrieve input.rawErrorReason = .ok rag) :
    Meets (fun w => w = openedWorld env input db)
      (safetySection env input rag (agentResult env input caseId) caseId)
      (fun _ w => Serial env input db w.reset) (fun _ w => Serial env input db w.reset)
      (fun w => Serial env input db w.reset) := by
  unfold safetySection
  apply Meets.bind fun loaded w =>
    loaded = (openedWorld env input db).session.getCase caseId ∧ w = openedWorld env input db
  · apply Meets.effect
    rintro w rfl
    exact ⟨rfl, rfl⟩
  · intro loaded
    apply Meets.of_fact
    intro hloaded
    cases loaded with
    | none =>
        apply Meets.effect
        rintro w rfl
        exact .opened rfl openedWorld_quiet.calls
    | some case =>
        have hhanded : safetyHandover env input rag caseId
            (openStep env input db) = some (handover (agentResult env input caseId) rag case
              (openedWorld env input db).session) := by
          rw [openedWorld_session] at hloaded ⊢
          rw [safetyHandover, ← hloaded, Option.map_some]
        have hcalls : (handover (agentResult env input caseId) rag case
            (openedWorld env input db).session).session.calls = [] := by
          rw [handover_calls]
          exact openedWorld_quiet.calls
        generalize hh : handover (agentResult env input caseId) rag case
          (openedWorld env input db).session = h at hhanded hcalls
        apply Meets.bind fun prepared w => prepared = h.case ∧
          w = { openedWorld env input db with session := h.session }
        · apply Meets.effect
          rintro w rfl
          rw [← hh]
          exact ⟨rfl, rfl⟩
        · intro prepared
          apply Meets.of_fact
          rintro rfl
          have hresult : agentResult env input caseId = h.result := by rw [← hh, handover]
          have hsection := executeSection_serial hopened hrag hhanded hcalls
          rwa [hresult]

/-- An event that leaves the world as it is. -/
theorem yield_serial {y : Event} {w : World} (hw : Serial env input db w) :
    Meets (fun v => v = w) (.yield y : Flow Unit) (fun _ => Serial env input db)
      (fun _ v => v = w) (Serial env input db) := by
  apply Meets.yield
  rintro v rfl
  exact ⟨hw, rfl⟩

theorem lift_serial {α : Type} {x : Except Failure α} {w : World}
    (hw : Serial env input db w) :
    Meets (fun v => v = w) (Flow.lift x) (fun _ => Serial env input db)
      (fun a v => x = .ok a ∧ v = w) (Serial env input db) := by
  apply Meets.effect
  rintro v rfl
  cases x with
  | ok a => exact ⟨rfl, rfl⟩
  | error f => exact hw

theorem openCase_serial :
    Meets (fun w => w = start env db) (openCase env input) (fun _ => Serial env input db)
      (fun caseId w => (openCase env input (start env db)).result = .ok caseId ∧
        w = (openCase env input (start env db)).state) (Serial env input db) := by
  rintro w rfl
  constructor
  · intro p hp
    cases hp
  · split
    · next hresult => exact ⟨hresult, rfl⟩
    · exact .opened rfl openCase_quiet.calls

/-- Wherever the flow is left, it has done what its two sessions do as transactions of their
own. -/
theorem flow_serial (env : DemoEnv) (input : DemoInput) (db : Db) :
    Meets (fun w => w = start env db) (iterAiDemoCase env input)
      (fun _ => Serial env input db) (fun _ => Serial env input db) (Serial env input db) := by
  have hstart : Serial env input db (start env db) := .untouched rfl rfl
  have hopened : Serial env input db (openCase env input (start env db)).state :=
    .opened rfl openCase_quiet.calls
  unfold iterAiDemoCase
  refine Meets.bind _ (yield_serial hstart) fun _ => ?_
  refine Meets.bind _ openCase_serial fun caseId => ?_
  apply Meets.of_fact
  intro hcaseId
  refine Meets.bind _ (yield_serial hopened) fun _ => ?_
  refine Meets.bind _ (yield_serial hopened) fun _ => ?_
  refine Meets.bind _ (lift_serial hopened) fun rag => ?_
  apply Meets.of_fact
  intro hrag
  refine Meets.bind _ (lift_serial hopened) fun detail => ?_
  apply Meets.of_fact
  intro _
  refine Meets.bind _ (yield_serial hopened) fun _ => ?_
  refine Meets.bind _ (yield_serial hopened) fun _ => ?_
  refine Meets.bind (fun _ w => w = (openCase env input (start env db)).state) ?_ fun _ => ?_
  · apply Meets.yieldAll
    rintro w rfl
    exact ⟨fun y hy => hopened, rfl⟩
  refine Meets.bind _ (yield_serial hopened) fun _ => ?_
  refine Meets.bind _ (yield_serial hopened) fun _ => ?_
  refine Meets.bind _ (yield_serial hopened) fun _ => ?_
  refine Meets.bind _ (yield_serial hopened) fun _ => ?_
  refine Meets.bind (fun _ w => w = openedWorld env input db) ?_ fun _ => ?_
  · apply Meets.effect
    rintro w rfl
    rfl
  exact Meets.withCleanup (safetySection_serial hcaseId hrag)

theorem left_serial {w : World} (hw : Left env input db w) : Serial env input db w := by
  obtain ⟨hclosed, hend⟩ := flow_serial env input db (start env db) rfl
  rcases hw with rfl | ⟨y, hy⟩
  · split at hend
    · exact hend
    · exact hend
  · exact hclosed (y, w) hy

end

end RecoveryAgent.Demo
