import RecoveryAgent.Demo.Handover

/-!
# The executor calls of the live flow

The executor is reached on two ways: for the agent's action, which has gone
through the guard, and for the demo link after it. No run of the flow makes any
other call.
-/

namespace RecoveryAgent.Demo

open Library Python Policy Ledger Guard Execute Ai Memory Runs Generator

/-!
## The handed-over case
-/

theorem prepareCase_holds {result : AgentRunResult} {rag : RagMetrics} {case : CaseRow}
    {s : Session} (h : s.Holds case) :
    (prepareCase result rag case s).1.id = case.id ∧
      (prepareCase result rag case s).2.Holds (prepareCase result rag case s).1 := by
  refine ⟨rfl, ?_⟩
  have hcases : ∀ t : Session, t.db.cases = s.db.cases →
      (t.add (prepareCase result rag case s).1).Holds (prepareCase result rag case s).1 := by
    intro t ht
    have hheld : t.Holds case := by
      rw [Session.Holds, Session.getCase, ht]
      exact h
    rw [Session.add_eq_perform]
    exact hheld.perform rfl
  unfold prepareCase persistAgentRun
  simp only
  apply hcases
  split
  · rw [Session.appendLedger_cases, Session.record_cases]
  · rw [Session.record_cases]

/-- What the guard is given is a case that its session holds, and a result of the
agent. Nothing was called before. -/
theorem handedOver_holds {env : DemoEnv} {input : DemoInput} {db : Db} {h : Handover}
    (hhanded : handedOver env input db = some h) :
    h.session.Holds h.case ∧ h.session.calls = [] ∧
      ∃ caseId, h.result = agentResult env input caseId := by
  unfold handedOver at hhanded
  split at hhanded
  · next caseId rag hopened hrag =>
      obtain ⟨case, hcase, rfl⟩ := Option.map_eq_some_iff.1 hhanded
      have hid : case.id = caseId := Table.key_of_get? hcase
      have hheld : (openedWorld env input db).session.Holds case := by
        rw [Session.Holds, hid]
        exact hcase
      refine ⟨(prepareCase_holds hheld).2, ?_, caseId, rfl⟩
      rw [handover_calls]
      exact openedWorld_quiet.calls
  · cases hhanded

/-!
## The calls
-/

namespace Handover

variable (h : Handover) (env : DemoEnv) (input : DemoInput)

/-- The guarded action is executed. -/
structure Admitted : Prop where
  live : input.live = true
  letThrough : LetThrough h.session h.case (h.ctx input)

def gatedOutcome : Outcome :=
  env.razorpay.run (h.ctx input).action (reopened h.case) (demoMeta input h.case)

def gatedCall : ExecutorCall :=
  ⟨h.case.id, (h.ctx input).action, (h.gatedOutcome env input).modelDump⟩

/-- The case after the guarded action. -/
def gatedCase : CaseRow :=
  (execConduct env.razorpay.run (demoMeta input h.case) "ui-demo" (h.ctx input).action
    (reopened h.case)).case

/-- The demo link is made after the guarded action. -/
def DemoLinked : Prop :=
  externalId (some (h.gatedOutcome env input)) = none ∧
    (h.ctx input).action.verb ≠ .sendPaymentLink

instance : Decidable (h.DemoLinked env input) := inferInstanceAs (Decidable (_ ∧ _))

def demoOutcome : Outcome :=
  env.demoRazorpay.run (demoAction (h.gatedCase env input) (h.ctx input).action.verb)
    (h.gatedCase env input) (demoMeta input (h.gatedCase env input))

def demoCall : ExecutorCall :=
  ⟨h.case.id, demoAction (h.gatedCase env input) (h.ctx input).action.verb,
    (h.demoOutcome env input).modelDump⟩

/-- What the guarded action writes. -/
def gatedEffect : Effect :=
  guardEffect h.session h.case (h.ctx input)
    (some (execConduct env.razorpay.run (demoMeta input h.case) "ui-demo")) "ui-demo" []

theorem gatedCase_id : (h.gatedCase env input).id = h.case.id :=
  ((execConduct_lawful _ _ _ _ _).id).trans (reopened_id h.case)

theorem gatedEffect_of_admitted (hadmitted : h.Admitted input) :
    h.gatedEffect env input =
      { case := h.gatedCase env input
        facts := gateFacts h.session h.case.id (h.ctx input) "ui-demo" [] ++
          ((execConduct env.razorpay.run (demoMeta input h.case) "ui-demo" (h.ctx input).action
            (reopened h.case)).facts ++
              [actionFact h.case.id "ui-demo" ((h.ctx input).gated h.session h.case.id)
                (h.gatedOutcome env input).modelDump])
        calls := [h.gatedCall env input] } := by
  have heffect : h.gatedEffect env input = _ :=
    hadmitted.letThrough.effect (execConduct env.razorpay.run (demoMeta input h.case) "ui-demo")
  rw [execConduct_result] at heffect
  exact heffect

/-- What an admitted run leaves: the guarded action, and then the demo link where
one is made. -/
theorem execute_of_admitted (hheld : h.session.Holds h.case) (hadmitted : h.Admitted input) :
    (h.execute env input).2 =
      if h.DemoLinked env input then
        ((h.session.perform (h.gatedEffect env input)).call h.case.id
          (demoAction (h.gatedCase env input) (h.ctx input).action.verb)
          (h.demoOutcome env input).modelDump).appendLedger
            (demoFact (h.gatedCase env input) (h.ctx input).action.verb (h.demoOutcome env input))
      else h.session.perform (h.gatedEffect env input) := by
  have hconducts := exec_conducts env.razorpay.run (demoMeta input h.case) "ui-demo"
  obtain ⟨hsession, hcase⟩ : (guardRun h.session h.case (h.ctx input)
      (some (exec env.razorpay.run (demoMeta input h.case) "ui-demo")) "ui-demo" []).session =
        h.session.perform (h.gatedEffect env input) ∧
      (guardRun h.session h.case (h.ctx input)
        (some (exec env.razorpay.run (demoMeta input h.case) "ui-demo")) "ui-demo" []).case =
          (h.gatedEffect env input).case :=
    guardRun_eq (.some hconducts) hheld
  obtain ⟨hallowed, hexecuted⟩ : (guardRun h.session h.case (h.ctx input)
      (some (exec env.razorpay.run (demoMeta input h.case) "ui-demo")) "ui-demo"
        []).result.allowed = true ∧
      (guardRun h.session h.case (h.ctx input)
        (some (exec env.razorpay.run (demoMeta input h.case) "ui-demo")) "ui-demo"
          []).result.executed = true :=
    hadmitted.letThrough.result _
  rw [h.gatedEffect_of_admitted env input hadmitted] at hcase
  have hid := h.gatedCase_id env input
  rw [execute, if_pos hadmitted.live]
  unfold liveExecute serviceRun createDemoPaymentLink
  simp only [Option.getD_some, hsession, hcase, hallowed, hexecuted, if_true, true_and, hid]
  by_cases hlinked : h.DemoLinked env input
  · rw [if_pos hlinked]
    exact congrArg Prod.snd (if_pos hlinked)
  · rw [if_neg hlinked]
    exact congrArg Prod.snd (if_neg hlinked)

theorem calls_of_admitted (hheld : h.session.Holds h.case) (hcalls : h.session.calls = [])
    (hadmitted : h.Admitted input) :
    (h.execute env input).2.calls =
      h.gatedCall env input :: if h.DemoLinked env input then [h.demoCall env input] else [] := by
  have hgated : (h.session.perform (h.gatedEffect env input)).calls = [h.gatedCall env input] := by
    rw [Session.perform_calls, hcalls, h.gatedEffect_of_admitted env input hadmitted]
    rfl
  rw [h.execute_of_admitted env input hheld hadmitted]
  by_cases hlinked : h.DemoLinked env input
  · rw [if_pos hlinked, if_pos hlinked, Session.appendLedger_calls, Session.call_calls, hgated]
    rfl
  · rw [if_neg hlinked, if_neg hlinked, hgated]

/-- What a run that is not admitted leaves: a write of the guard without a call. -/
theorem execute_of_not_admitted (hheld : h.session.Holds h.case)
    (hrefused : ¬h.Admitted input) :
    ∃ e executeFn conduct, Conducted executeFn conduct ∧
      Verdict h.session h.case (h.ctx input) conduct "ui-demo" [] e ∧ e.calls = [] ∧
        (h.execute env input).2 = h.session.perform e := by
  unfold execute
  split
  · next hlive =>
      have hnot : ¬LetThrough h.session h.case (h.ctx input) := fun hthrough =>
        hrefused ⟨hlive, hthrough⟩
      have hconducts := exec_conducts env.razorpay.run (demoMeta input h.case) "ui-demo"
      have hsession : (guardRun h.session h.case (h.ctx input)
          (some (exec env.razorpay.run (demoMeta input h.case) "ui-demo")) "ui-demo" []).session =
            h.session.perform (h.gatedEffect env input) :=
        (guardRun_eq (.some hconducts) hheld).1
      have hallowed : (guardRun h.session h.case (h.ctx input)
          (some (exec env.razorpay.run (demoMeta input h.case) "ui-demo")) "ui-demo"
            []).result.allowed = false :=
        (result_of_not_letThrough hnot _).1
      refine ⟨_, _, _, .some hconducts, guardEffect_verdict .., calls_of_not_letThrough hnot _, ?_⟩
      unfold liveExecute serviceRun
      simp only [Option.getD_some, hallowed, Bool.false_eq_true, false_and, if_false, hsession]
      rfl
  · refine ⟨_, _, _, .none, guardEffect_verdict .., calls_of_nothing, ?_⟩
    unfold simulateExecute
    simp only [(guardRun_eq .none hheld).1]

theorem calls_of_not_admitted (hheld : h.session.Holds h.case) (hcalls : h.session.calls = [])
    (hrefused : ¬h.Admitted input) : (h.execute env input).2.calls = [] := by
  obtain ⟨e, -, -, -, -, hnone, hsession⟩ := h.execute_of_not_admitted env input hheld hrefused
  rw [hsession, Session.perform_calls, hcalls, hnone, List.append_nil]

end Handover

/-- A world that the flow leaves behind: at its end, or at an event where its
consumer stops. -/
def Left (env : DemoEnv) (input : DemoInput) (db : Db) (w : World) : Prop :=
  w = (iterAiDemoCase env input (start env db)).state ∨
    ∃ y, (y, w) ∈ (iterAiDemoCase env input (start env db)).closed

theorem ended_of_reached {env : DemoEnv} {input : DemoInput} {db : Db} {y : Event} {w : World}
    (h : Reached env input db y w) : Ended env input db w := by
  cases h with
  | before _ _ quiet => exact Or.inl quiet.calls
  | gate _ handed _ calls => exact Or.inr ⟨_, handed, calls⟩
  | after _ _ handed _ calls => exact Or.inr ⟨_, handed, calls⟩

/-- Whatever the flow leaves, the calls are those of its execute section. -/
theorem left_ended {env : DemoEnv} {input : DemoInput} {db : Db} {w : World}
    (hw : Left env input db w) : Ended env input db w := by
  obtain ⟨hclosed, hend⟩ := flow_meets env input db (start env db) rfl
  rcases hw with rfl | ⟨y, hy⟩
  · split at hend
    · obtain ⟨h, hhanded, -, hcalls⟩ := hend
      exact Or.inr ⟨h, hhanded, hcalls⟩
    · exact Or.inl hend.calls
  · exact ended_of_reached (hclosed (y, w) hy)

/-- The calls of the flow: none, or the guarded one, or the guarded one and the
demo link. -/
theorem left_calls {env : DemoEnv} {input : DemoInput} {db : Db} {w : World}
    (hw : Left env input db w) :
    w.calls = [] ∨ ∃ h, handedOver env input db = some h ∧ h.session.Holds h.case ∧
      h.Admitted input ∧ w.calls = h.gatedCall env input ::
        if h.DemoLinked env input then [h.demoCall env input] else [] := by
  rcases left_ended hw with hnone | ⟨h, hhanded, hcalls⟩
  · exact Or.inl hnone
  · obtain ⟨hheld, hfresh, -⟩ := handedOver_holds hhanded
    by_cases hadmitted : h.Admitted input
    · rw [h.calls_of_admitted env input hheld hfresh hadmitted] at hcalls
      exact Or.inr ⟨h, hhanded, hheld, hadmitted, hcalls⟩
    · rw [h.calls_of_not_admitted env input hheld hfresh hadmitted] at hcalls
      exact Or.inl hcalls

/-!
## Links
-/

/-- Every link of the flow is for the action that was handed to the guard, with
all gates passed. -/
def LinksGated (env : DemoEnv) (input : DemoInput) (db : Db) (w : World) : Prop :=
  ∀ call ∈ w.calls, call.action.verb.isLink = true →
    ∃ h, handedOver env input db = some h ∧ call.action = (h.ctx input).action ∧
      allPassed ((h.ctx input).checks h.session h.case.id) = true

/-- What the guard lets through on a fraud class is a hand-over to a human. -/
theorem verb_of_admitted_fraud {h : Handover} {input : DemoInput} (hadmitted : h.Admitted input)
    (hclass : (h.ctx input).failureClass = some "risk_fraud") :
    (h.ctx input).action.verb = .escalateHuman := by
  have hfraud : strip (((h.ctx input).failureClass).getD "") = "risk_fraud" := by
    rw [hclass]
    decide
  exact (checks_allPassed_iff.1 hadmitted.letThrough.passed).1 hfraud

/-- A link that the guard lets through is not for a fraud class. -/
theorem class_of_admitted_link {h : Handover} {input : DemoInput} (hadmitted : h.Admitted input)
    (hlink : (h.ctx input).action.verb.isLink = true) :
    (h.ctx input).failureClass ≠ some "risk_fraud" := by
  intro hclass
  rw [verb_of_admitted_fraud hadmitted hclass] at hlink
  cases hlink

/-- Every link of the flow is for the agent's action, with the six gates passed
and no fraud class, or it is the one demo link, which follows the agent's action
when that has passed the six gates, is no `send_payment_link` and gave no external
id. -/
theorem links_gated_or_demo (env : DemoEnv) (input : DemoInput) (db : Db) (w : World)
    (hw : Left env input db w) :
    ∀ call ∈ w.calls, call.action.verb.isLink = true →
      ∃ h, handedOver env input db = some h ∧
        (h.ctx input).action = h.result.actionValidated ∧
        ((h.ctx input).checks h.session h.case.id).map (·.name) = gateNames ∧
        allPassed ((h.ctx input).checks h.session h.case.id) = true ∧
        ((call = h.gatedCall env input ∧ (h.ctx input).failureClass ≠ some "risk_fraud") ∨
          (call = h.demoCall env input ∧ h.DemoLinked env input ∧
            w.calls = [h.gatedCall env input, call])) := by
  intro call hcall hlink
  rcases left_calls hw with hnone | ⟨h, hhanded, -, hadmitted, hcalls⟩
  · rw [hnone] at hcall
    cases hcall
  · refine ⟨h, hhanded, rfl, gateVerdicts_names _, hadmitted.letThrough.passed, ?_⟩
    rw [hcalls] at hcall
    rcases List.mem_cons.1 hcall with rfl | hdemo
    · exact Or.inl ⟨rfl, class_of_admitted_link hadmitted hlink⟩
    · right
      by_cases hlinked : h.DemoLinked env input
      · rw [if_pos hlinked] at hdemo hcalls
        rw [List.mem_singleton.1 hdemo]
        exact ⟨rfl, hlinked, hcalls⟩
      · rw [if_neg hlinked] at hdemo
        cases hdemo

def linkRazorpay (plinkId : String) : RazorpayExecutor where
  keyId := "rzp_test_key"
  keySecret := "secret"
  newHex := "0123456789"
  getPayment := fun _ => .error "unreachable"
  postPaymentLink := fun _ => .created (some plinkId) []

/-- The flow without a model and without a memory service. -/
def offlineEnv : DemoEnv where
  utcnow := fun _ => daytime
  now := daytime
  eventHex := "0123456789ab"
  newCaseId := "case_1"
  retrieve := fun _ => .ok {}
  agent :=
    { client := { model := "qwen3:8b", available := false, chatJson := fun _ => .llmError "down" }
      engine := .shipped
      pydantic := ⟨fun _ => none, fun _ => none, fun _ _ => ""⟩
      prompts := plainPrompts .scalar }
  razorpay := linkRazorpay "plink_1"
  demoRazorpay := linkRazorpay "plink_2"

def liveInput (rawErrorReason : String) : DemoInput where
  rawErrorReason
  createPaymentLink := true

/-- The world that a live run leaves at its end. -/
def liveEnd (rawErrorReason : String) : World :=
  (iterAiDemoCase offlineEnv (liveInput rawErrorReason) (start offlineEnv Db.empty)).state

/-- A run on an expired card makes a link for the agent's own action. -/
theorem links_gated_or_demo_card_expired :
    ∃ call ∈ (liveEnd "card_expired").calls, call.action.verb = .sendPaymentLink ∧
      ∃ h, handedOver offlineEnv (liveInput "card_expired") Db.empty = some h ∧
        allPassed ((h.ctx (liveInput "card_expired")).checks h.session h.case.id) = true ∧
        call = h.gatedCall offlineEnv (liveInput "card_expired") := by
  have hverbs : (liveEnd "card_expired").calls.map (·.action.verb) = [.sendPaymentLink] := by
    decide
  have hlink : .sendPaymentLink ∈ (liveEnd "card_expired").calls.map (·.action.verb) := by
    rw [hverbs]
    exact List.mem_singleton_self _
  obtain ⟨call, hcall, hverb⟩ := List.mem_map.1 hlink
  obtain ⟨h, hhanded, -, -, hpassed, hmade⟩ := links_gated_or_demo offlineEnv
    (liveInput "card_expired") Db.empty (liveEnd "card_expired") (Or.inl rfl) call hcall
    (by rw [hverb]; rfl)
  refine ⟨call, hcall, hverb, h, hhanded, hpassed, ?_⟩
  rcases hmade with ⟨hgated, -⟩ | ⟨-, -, hcalls⟩
  · exact hgated
  · rw [hcalls] at hverbs
    have hlength := congrArg List.length hverbs
    cases hlength

/-- A fraud decline is handed over to a human, and a link is made nevertheless. -/
theorem fraud_flow_gets_link :
    (∃ h, handedOver offlineEnv (liveInput "fraud") Db.empty = some h ∧
      (h.ctx (liveInput "fraud")).failureClass = some "risk_fraud" ∧
        (h.ctx (liveInput "fraud")).action.verb = .escalateHuman) ∧
    ¬LinksGated offlineEnv (liveInput "fraud") Db.empty (liveEnd "fraud") := by
  have hview : (handedOver offlineEnv (liveInput "fraud") Db.empty).map (fun h =>
      ((h.ctx (liveInput "fraud")).failureClass, (h.ctx (liveInput "fraud")).action.verb)) =
        some (some "risk_fraud", .escalateHuman) := by decide
  obtain ⟨h, hhanded, hboth⟩ := Option.map_eq_some_iff.1 hview
  obtain ⟨hclass, hverb⟩ := Prod.mk.inj hboth
  refine ⟨⟨h, hhanded, hclass, hverb⟩, ?_⟩
  intro hgated
  have hverbs : (liveEnd "fraud").calls.map (·.action.verb) =
      [.escalateHuman, .sendPaymentLink] := by decide
  have hlink : .sendPaymentLink ∈ (liveEnd "fraud").calls.map (·.action.verb) := by
    rw [hverbs]
    decide
  obtain ⟨call, hcall, hsent⟩ := List.mem_map.1 hlink
  obtain ⟨h', hhanded', haction, -⟩ := hgated call hcall (by rw [hsent]; rfl)
  cases hhanded.symm.trans hhanded'
  rw [haction, hverb] at hsent
  cases hsent

end RecoveryAgent.Demo
