import RecoveryAgent.Ai.Decision
import RecoveryAgent.Demo.Links

/-!
# Fraud declines and the model

A decline that the rules classify as fraud can only be escalated by the rules.
The agent prefers the model's class when the taxonomy knows it, and then it is
that class which the validator and the gates see.
-/

namespace RecoveryAgent.Demo

open Library Python Policy Ledger Guard Execute Ai Memory Runs Generator

/-- The rules put the failure in a class that stops. -/
def RulesStop (ctx : CaseContext) : Prop :=
  (PolicyEngine.shipped.classConfig
    (Diagnose.Classifier.shipped.classify ctx.rawErrorReason ctx.rawErrorCode).failureClass).category'
      = "stop"

/-- The model is there, names a class of the taxonomy other than fraud, and
proposes a verb that this class does not turn into an escalation. -/
def Rediagnosed (agent : Agent) : Prop :=
  agent.client.available = true ∧ ∃ d p,
    agent.rawDiagnosis.1 = .ok d ∧ Policy.shipped.hasClass d.likelyClass = true ∧
    d.likelyClass ≠ "risk_fraud" ∧ (agent.propose agent.rawDiagnosis.2).1 = .ok p ∧
    p.verb ≠ .escalateHuman ∧ ¬(d.likelyClass = "ambiguous" ∧ p.verb.isLink = true)

section

variable {agent : Agent} {ctx : CaseContext}

theorem rules_failureClass_of_stop (hengine : agent.engine = .shipped) (hstop : RulesStop ctx) :
    (agent.rules ctx).failureClass = "risk_fraud" := by
  have hclassifier : PolicyEngine.shipped.classifier = Diagnose.Classifier.shipped := rfl
  rw [Agent.rules, PolicyEngine.decide_failureClass, hengine, hclassifier]
  exact (category_stop_iff (Diagnose.Classifier.hasClass_classify_shipped _ _)).1 hstop

/-- The rules have nothing but an escalation for a fraud. -/
theorem fallback_verb_of_stop (hengine : agent.engine = .shipped) (hstop : RulesStop ctx)
    (reason detail : String) :
    (Agent.fallbackAction (agent.rules ctx) reason detail).verb = .escalateHuman := by
  have hclass := rules_failureClass_of_stop hengine hstop
  rw [Agent.rules, PolicyEngine.decide_failureClass] at hclass
  obtain ⟨score, hactions⟩ := PolicyEngine.decide_actions agent.engine ctx.rawErrorReason
    ctx.rawErrorCode ctx.amountPaise ctx.contactsUsed ctx.tenureDays ctx.failureDom
    ctx.observedCreditDay
  have hverb : (agent.engine.classConfig "risk_fraud").defaultVerb.getD .escalateHuman =
      .escalateHuman := by
    rw [hengine]
    decide
  obtain ⟨action, hsingle, hescalate⟩ := agent.engine.actionsFromClassCfg_of_escalate hverb
    ctx.amountPaise score ctx.failureDom ctx.observedCreditDay .rulesFallback
  rw [hclass, hsingle] at hactions
  rw [Agent.fallbackAction, Agent.rules, hactions]
  exact hescalate

theorem clamp_likelyClass (hengine : agent.engine = .shipped) (hstop : RulesStop ctx)
    (d : Diagnosis) :
    (agent.clamp (agent.rules ctx) d).likelyClass =
      if Policy.shipped.hasClass d.likelyClass then d.likelyClass else "risk_fraud" := by
  have hshipped : PolicyEngine.shipped.taxonomy = Policy.shipped := rfl
  have htaxonomy : agent.engine.taxonomy = Policy.shipped := by rw [hengine, hshipped]
  unfold Agent.clamp
  rw [htaxonomy, rules_failureClass_of_stop hengine hstop]
  split
  · rfl
  · rfl

/-- The verb of a proposal that went through, by the class of the diagnosis. -/
theorem validated_verb {d : Diagnosis} (hengine : agent.engine = .shipped)
    (hclass : Policy.shipped.hasClass d.likelyClass = true) (p : ProposalPayload) :
    (agent.validated ctx d p).verb = .escalateHuman ↔
      d.likelyClass = "risk_fraud" ∨ p.verb = .escalateHuman ∨
        (d.likelyClass = "ambiguous" ∧ p.verb.isLink = true) := by
  have hnonempty : d.likelyClass ≠ "" := by
    intro hempty
    rw [hempty] at hclass
    cases hclass
  have hfailureClass : agent.failureClass ctx d = d.likelyClass := if_neg hnonempty
  rw [Agent.validated, validateProposal_verb, hfailureClass, hengine]
  exact boundedVerb_shipped hclass p.verb

/-- The first stage clamps what the model has diagnosed. -/
theorem diagnose_eq_ok_iff {d : Diagnosis} :
    (agent.diagnose ctx).1 = .ok d ↔
      ∃ d₀, agent.rawDiagnosis.1 = .ok d₀ ∧ agent.clamp (agent.rules ctx) d₀ = d := by
  have hmap : (agent.diagnose ctx).1 =
      agent.rawDiagnosis.1.map (agent.clamp (agent.rules ctx)) := rfl
  rw [hmap]
  cases agent.rawDiagnosis.1 with
  | error f => simp [Except.map]
  | ok d₀ => simp [Except.map]

theorem shipped_hasClass_clamp (hengine : agent.engine = .shipped) (d : Diagnosis) :
    Policy.shipped.hasClass (agent.clamp (agent.rules ctx) d).likelyClass = true := by
  have hknown := hasClass_clamp (hasClass_rules hengine ctx) d
  rwa [hengine] at hknown

/-- On a fraud the agent's verb is an escalation unless the model has named
another class. -/
theorem run_verb_of_stop (hengine : agent.engine = .shipped) (hstop : RulesStop ctx) :
    (agent.run ctx).1.actionValidated.verb ≠ .escalateHuman ↔ Rediagnosed agent := by
  constructor
  · intro hverb
    by_cases hproposed : ∃ d p, Proposed agent ctx d p
    · obtain ⟨d, p, hdp⟩ := hproposed
      obtain ⟨d₀, hdiagnosed, rfl⟩ := diagnose_eq_ok_iff.1 hdp.diagnosed
      rw [(run_of_proposed hdp).2.1, Ne,
        validated_verb hengine (shipped_hasClass_clamp hengine d₀)] at hverb
      push Not at hverb
      obtain ⟨hother, hproposal, hambiguous⟩ := hverb
      have hclass := clamp_likelyClass hengine hstop d₀
      by_cases hknown : Policy.shipped.hasClass d₀.likelyClass = true
      · rw [if_pos hknown] at hclass
        rw [hclass] at hother hambiguous
        exact ⟨hdp.available, d₀, p, hdiagnosed, hknown, hother, hdp.proposed, hproposal,
          fun h => hambiguous h.1 h.2⟩
      · rw [if_neg hknown] at hclass
        exact absurd hclass hother
    · push Not at hproposed
      obtain ⟨⟨reason, detail, haction⟩, -⟩ := run_of_not_proposed hproposed
      rw [haction, fallback_verb_of_stop hengine hstop] at hverb
      exact absurd rfl hverb
  · rintro ⟨havailable, d, p, hdiagnosed, hknown, hother, hproposed, hproposal, hambiguous⟩
    have hclass := clamp_likelyClass hengine hstop d
    rw [if_pos hknown] at hclass
    have hdp : Proposed agent ctx (agent.clamp (agent.rules ctx) d) p :=
      ⟨havailable, diagnose_eq_ok_iff.2 ⟨d, hdiagnosed, rfl⟩, hproposed⟩
    rw [(run_of_proposed hdp).2.1, Ne, validated_verb hengine (shipped_hasClass_clamp hengine d),
      hclass]
    rintro (hfraud | hescalate | hlink)
    · exact hother hfraud
    · exact hproposal hescalate
    · exact hambiguous hlink

end

/-- On a decline that the rules put in a class that stops, `execute_with_guards`
on the agent's action calls the executor with another verb than an escalation
exactly when the model has named another class of the taxonomy and the guard lets
its action through. -/
theorem fraud_escalates_unless_rediagnosed (agent : Agent) (ctx : CaseContext)
    (hengine : agent.engine = .shipped) (hstop : RulesStop ctx) (s : Session) (case : CaseRow)
    (hheld : s.Holds case) (input : DemoInput) (executor : Executor) (execMeta : ExecuteMeta)
    (policyVersion : String) :
    ∃ made, (serviceRun s case (demoGuardContext input (agent.run ctx).1 case) executor
        (some execMeta) policyVersion).1.session.calls = s.calls ++ made ∧
      ((∃ call ∈ made, call.action.verb ≠ .escalateHuman) ↔
        Rediagnosed agent ∧
          LetThrough s case (demoGuardContext input (agent.run ctx).1 case)) := by
  have hconducts := exec_conducts executor execMeta policyVersion
  have hsession : (serviceRun s case (demoGuardContext input (agent.run ctx).1 case)
      executor (some execMeta) policyVersion).1.session = _ :=
    (guardRun_eq (.some hconducts) hheld).1
  rw [hsession]
  refine ⟨_, Session.perform_calls _ _, ?_⟩
  by_cases hthrough : LetThrough s case (demoGuardContext input (agent.run ctx).1 case)
  · have haction : (demoGuardContext input (agent.run ctx).1 case).action =
        (agent.run ctx).1.actionValidated := rfl
    rw [hthrough.effect, and_iff_left hthrough, ← run_verb_of_stop hengine hstop]
    simp only [List.mem_singleton, exists_eq_left, haction]
  · rw [calls_of_not_letThrough hthrough]
    simp [hthrough]

def fraudContext : CaseContext := caseContext offlineEnv (liveInput "fraud") "case_1"

theorem fraudContext_stops : RulesStop fraudContext := by
  unfold RulesStop
  decide

/-- Without a model the fraud is escalated. -/
theorem fraud_escalates_unless_rediagnosed_offline :
    ((serviceRun (openSession offlineEnv.utcnow freshDb) freshCase
      (demoGuardContext (liveInput "fraud") (offlineEnv.agent.run fraudContext).1 freshCase)
      offlineEnv.razorpay.run (some (demoMeta (liveInput "fraud") freshCase))
      "ui-demo").1.session.calls.all fun call => call.action.verb = .escalateHuman) = true := by
  obtain ⟨made, hmade, hiff⟩ := fraud_escalates_unless_rediagnosed offlineEnv.agent fraudContext
    rfl fraudContext_stops (openSession offlineEnv.utcnow freshDb) freshCase rfl
    (liveInput "fraud") offlineEnv.razorpay.run (demoMeta (liveInput "fraud") freshCase) "ui-demo"
  rw [hmade, List.all_eq_true]
  intro call hcall
  rw [decide_eq_true_iff]
  by_contra hverb
  obtain ⟨⟨havailable, -⟩, -⟩ := hiff.1 ⟨call, hcall, hverb⟩
  cases havailable

/-- A model that calls a fraud a lack of funds and proposes a retry. -/
def retryingReply : ℕ → Reply
  | 0 => .value (.obj
      [("summary", .str "not enough money"), ("likely_class", .str "insufficient_funds"),
        ("confidence", .int 1), ("rationale", .str "")])
  | _ => .value (.obj [("verb", .str "schedule_retry"), ("day_offset", .int 3)])

def onlineEnv : DemoEnv :=
  { offlineEnv with
    agent :=
      { offlineEnv.agent with
        client := { model := "qwen3:8b", available := true, chatJson := retryingReply } } }

/-- The model has a fraud retried. -/
theorem model_retries_fraud :
    RulesStop (caseContext onlineEnv (liveInput "fraud") "case_1") ∧
      ∃ w, Left onlineEnv (liveInput "fraud") Db.empty w ∧
        ∃ call ∈ w.calls, call.caseId = "case_1" ∧ call.action.verb = .scheduleRetry := by
  have hverbs : (iterAiDemoCase onlineEnv (liveInput "fraud")
      (start onlineEnv Db.empty)).state.calls.map (fun call => (call.caseId, call.action.verb)) =
        [("case_1", .scheduleRetry)] := by decide
  refine ⟨fraudContext_stops, _, Or.inl rfl, ?_⟩
  have hmem := List.mem_singleton_self (("case_1", .scheduleRetry) : String × ActionVerb)
  rw [← hverbs] at hmem
  obtain ⟨call, hcall, hboth⟩ := List.mem_map.1 hmem
  obtain ⟨hcase, hverb⟩ := Prod.mk.inj hboth
  exact ⟨call, hcall, hcase, hverb⟩

end RecoveryAgent.Demo
