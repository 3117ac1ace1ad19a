import RecoveryAgent.Ai.Agent

/-!
# Which action the agent ends up with

A run either carries the model's proposal through to the validator, or falls
back on the rules. Which verb comes out is then a matter of two classes: the one
the model names, when the taxonomy knows it, and the one of the rules.
-/

namespace RecoveryAgent.Ai

open Python Policy Ledger

/-!
## The validator's verb
-/

/-- The verb that the validator makes of a proposed one. -/
def boundedVerb (cfg : TaxonomyRow) (verb : ActionVerb) : ActionVerb :=
  if cfg.category' = "stop" then .escalateHuman
  else if cfg.category' = "dead" ∧ verb = .scheduleRetry then
    cfg.defaultVerb.getD .sendPaymentLink
  else if cfg.allowContact' = false ∧ verb.isLink = true then
    if 0 < cfg.maxRetries' then .scheduleRetry else .escalateHuman
  else verb

theorem validateProposal_verb (engine : PolicyEngine) (proposal : Action)
    (failureClass : String) (amountPaise : ℕ) (score : ℚ) :
    (engine.validateProposal proposal failureClass amountPaise score).verb =
      boundedVerb (engine.classConfig failureClass) proposal.verb := by
  unfold PolicyEngine.validateProposal boundedVerb
  simp only [apply_ite Action.verb, ite_self]

/-- The classes of the shipped taxonomy, by what they do to a proposed verb. -/
theorem boundedVerb_shipped {c : String} (hc : Policy.shipped.hasClass c = true)
    (verb : ActionVerb) :
    boundedVerb (PolicyEngine.shipped.classConfig c) verb = .escalateHuman ↔
      c = "risk_fraud" ∨ verb = .escalateHuman ∨ (c = "ambiguous" ∧ verb.isLink = true) := by
  have hmem := mem_of_hasClass_shipped hc
  have hall : ∀ verb ∈ [ActionVerb.scheduleRetry, .sendPaymentLink, .requestMandateUpdate,
      .escalateHuman], ∀ c ∈ ["insufficient_funds", "issuer_transient", "gateway_timeout",
        "card_expired", "token_invalid", "mandate_revoked", "risk_fraud", "do_not_honour",
        "ambiguous"],
      boundedVerb (PolicyEngine.shipped.classConfig c) verb = .escalateHuman ↔
        c = "risk_fraud" ∨ verb = .escalateHuman ∨ (c = "ambiguous" ∧ verb.isLink = true) := by
    decide
  have hverb : verb ∈ [ActionVerb.scheduleRetry, .sendPaymentLink, .requestMandateUpdate,
      .escalateHuman] := by
    cases verb <;> decide
  exact hall verb hverb c hmem

/-- Of the shipped classes only fraud stops. -/
theorem category_stop_iff {c : String} (hc : Policy.shipped.hasClass c = true) :
    (PolicyEngine.shipped.classConfig c).category' = "stop" ↔ c = "risk_fraud" := by
  have hall : ∀ c ∈ ["insufficient_funds", "issuer_transient", "gateway_timeout",
      "card_expired", "token_invalid", "mandate_revoked", "risk_fraud", "do_not_honour",
      "ambiguous"],
      (PolicyEngine.shipped.classConfig c).category' = "stop" ↔ c = "risk_fraud" := by
    decide
  exact hall c (mem_of_hasClass_shipped hc)

/-!
## The class of a diagnosis
-/

theorem hasClass_clamp {agent : Agent} {rules : DecisionBundle}
    (hrules : agent.engine.taxonomy.hasClass rules.failureClass = true) (d : Diagnosis) :
    agent.engine.taxonomy.hasClass (agent.clamp rules d).likelyClass = true := by
  unfold Agent.clamp
  split
  · next h => exact h
  · exact hrules

theorem hasClass_rules {agent : Agent} (hengine : agent.engine = .shipped) (ctx : CaseContext) :
    agent.engine.taxonomy.hasClass (agent.rules ctx).failureClass = true := by
  rw [Agent.rules, PolicyEngine.decide_failureClass, hengine]
  exact Diagnose.Classifier.hasClass_classify_shipped _ _

/-!
## The two ends of a run
-/

/-- The model has given a usable diagnosis and a usable proposal. -/
structure Proposed (agent : Agent) (ctx : CaseContext) (d : Diagnosis) (p : ProposalPayload) :
    Prop where
  available : agent.client.available = true
  diagnosed : (agent.diagnose ctx).1 = .ok d
  proposed : (agent.propose (agent.diagnose ctx).2).1 = .ok p

section

variable {agent : Agent} {ctx : CaseContext} {d : Diagnosis} {p : ProposalPayload}

theorem run_of_proposed (h : Proposed agent ctx d p) :
    (agent.run ctx).1.diagnosis = d ∧
      (agent.run ctx).1.actionValidated = agent.validated ctx d p ∧
        (agent.run ctx).1.source = .llm := by
  obtain ⟨havailable, hdiagnosed, hproposed⟩ := h
  have hdiagnose : agent.diagnose ctx = (.ok d, (agent.diagnose ctx).2) := by rw [← hdiagnosed]
  have hpropose : agent.propose (agent.diagnose ctx).2 =
      (.ok p, (agent.propose (agent.diagnose ctx).2).2) := by rw [← hproposed]
  unfold Agent.run
  rw [if_neg (by simp [havailable]), hdiagnose]
  simp only
  rw [hpropose]
  exact ⟨rfl, rfl, rfl⟩

/-- Without a usable diagnosis and proposal the rules decide. -/
theorem run_of_not_proposed (h : ∀ d p, ¬Proposed agent ctx d p) :
    (∃ reason detail, (agent.run ctx).1.actionValidated =
      Agent.fallbackAction (agent.rules ctx) reason detail) ∧
        (agent.run ctx).1.source = .rulesFallback := by
  unfold Agent.run
  by_cases havailable : agent.client.available = false
  · rw [if_pos havailable]
    exact ⟨⟨_, _, rfl⟩, rfl⟩
  · rw [if_neg havailable]
    rcases hdiagnose : agent.diagnose ctx with ⟨f | d, n⟩
    · exact ⟨⟨_, _, rfl⟩, rfl⟩
    · simp only
      rcases hpropose : agent.propose n with ⟨f | p, m⟩
      · exact ⟨⟨_, _, rfl⟩, rfl⟩
      · refine absurd ⟨by simpa using havailable, ?_, ?_⟩ (h d p)
        · rw [hdiagnose]
        · rw [hdiagnose, hpropose]

/-- A message will be drafted: the model's proposal, bounded by the class, is of a
verb that reaches the payer, or the model has no usable proposal and the rules
open with such a verb. -/
def Drafts (agent : Agent) (ctx : CaseContext) : Prop :=
  (∃ d p, Proposed agent ctx d p ∧
      (boundedVerb (agent.engine.classConfig (agent.failureClass ctx d)) p.verb).isLink = true) ∨
    (∀ d p, ¬Proposed agent ctx d p) ∧
      PolicyEngine.opensWithLink (agent.engine.classConfig
        (agent.engine.classifier.classify ctx.rawErrorReason ctx.rawErrorCode).failureClass) = true

theorem fallbackAction_isLink (reason detail : String) :
    (Agent.fallbackAction (agent.rules ctx) reason detail).verb.isLink =
      PolicyEngine.opensWithLink (agent.engine.classConfig
        (agent.engine.classifier.classify ctx.rawErrorReason ctx.rawErrorCode).failureClass) := by
  obtain ⟨score, hactions⟩ := PolicyEngine.decide_actions agent.engine ctx.rawErrorReason
    ctx.rawErrorCode ctx.amountPaise ctx.contactsUsed ctx.tenureDays ctx.failureDom
    ctx.observedCreditDay
  unfold Agent.fallbackAction Agent.rules
  simp only
  rw [hactions]
  exact PolicyEngine.head_actionsFromClassCfg _ _ _ _ _ _ _ _ rfl

theorem run_isLink_iff :
    (agent.run ctx).1.actionValidated.verb.isLink = true ↔ Drafts agent ctx := by
  by_cases hproposed : ∃ d p, Proposed agent ctx d p
  · obtain ⟨d, p, hdp⟩ := hproposed
    have hverb : (agent.run ctx).1.actionValidated.verb =
        boundedVerb (agent.engine.classConfig (agent.failureClass ctx d)) p.verb := by
      rw [(run_of_proposed hdp).2.1]
      exact validateProposal_verb ..
    constructor
    · intro hlink
      rw [hverb] at hlink
      exact Or.inl ⟨d, p, hdp, hlink⟩
    · rintro (⟨d', p', hdp', hlink⟩ | ⟨hnone, -⟩)
      · rw [(run_of_proposed hdp').2.1, Agent.validated, validateProposal_verb]
        exact hlink
      · exact absurd hdp (hnone d p)
  · push Not at hproposed
    obtain ⟨⟨reason, detail, haction⟩, -⟩ := run_of_not_proposed hproposed
    rw [haction, fallbackAction_isLink]
    constructor
    · intro hopens
      exact Or.inr ⟨hproposed, hopens⟩
    · rintro (⟨d, p, hdp, -⟩ | ⟨-, hopens⟩)
      · exact absurd hdp (hproposed d p)
      · exact hopens

end

end RecoveryAgent.Ai
