import RecoveryAgent.Ai.Decision
import RecoveryAgent.Policy.FixedPoints
import RecoveryAgent.Python.Errors

/-!
# What a run says about its origin

A run of the agent has four exits, and each of them fills the fields that tell the model
from the rules. The class of a run comes from the diagnosis, and everything else follows
the proposal: a class that is clamped is still recorded as the model's when its proposal
is used, and a class of the model's is recorded as the policy's, next to an action of the
rules, when its proposal fails. A prompt that cannot be rendered counts as a call that
raises.
-/

namespace RecoveryAgent.Ai

open Library Python Policy Ledger

/-!
## What is left outside of every try
-/

/-- The integers of the case that `recoverability_score` computes with. -/
def scoredAs (ctx : CaseContext) : Except PyError Unit := do
  let _ ← toFloat ctx.amountPaise
  let _ ← toFloat ctx.tenureDays
  let _ ← toFloat (max 0 ctx.contactsUsed)

/-- The prompts of a run that used the model are hashed for its rows. -/
def Agent.hashedAs (agent : Agent) (ctx : CaseContext) (result : AgentRunResult) :
    Except PyError Unit := do
  if result.usedLlm then
    let _ ← agent.prompts.proposePromptHash ctx result.diagnosis.modelDump
    let _ ← agent.prompts.diagnosePromptHash ctx

/-- `RecoveryAgent.run`. The rules score the case first and the rows hash the prompts last,
both outside of every `try`. -/
def Agent.tryRun (agent : Agent) (ctx : CaseContext) : Except PyError (AgentRunResult × ℕ) := do
  scoredAs ctx
  agent.hashedAs ctx (agent.run ctx).1
  return agent.run ctx

/-- The integers of the case fit into floats. -/
def Scorable (ctx : CaseContext) : Prop :=
  ctx.amountPaise < floatOverflow ∧ ctx.tenureDays.natAbs < floatOverflow ∧
    ctx.contactsUsed.toNat < floatOverflow

theorem scoredAs_eq_ok_iff (ctx : CaseContext) : scoredAs ctx = .ok () ↔ Scorable ctx := by
  have hcontacts : (max 0 ctx.contactsUsed).natAbs = ctx.contactsUsed.toNat := by omega
  have hall : scoredAs ctx = .ok () ↔ (∃ q, toFloat ctx.amountPaise = .ok q) ∧
      (∃ q, toFloat ctx.tenureDays = .ok q) ∧ ∃ q, toFloat (max 0 ctx.contactsUsed) = .ok q := by
    constructor
    · intro h
      obtain ⟨amount, hamount, h⟩ := bind_eq_ok h
      obtain ⟨tenure, htenure, h⟩ := bind_eq_ok h
      obtain ⟨contacts, hcontacts, -⟩ := bind_eq_ok h
      exact ⟨⟨amount, hamount⟩, ⟨tenure, htenure⟩, contacts, hcontacts⟩
    · rintro ⟨⟨amount, hamount⟩, ⟨tenure, htenure⟩, contacts, hcontacts⟩
      simp only [scoredAs, hamount, htenure, hcontacts]
      rfl
  rw [hall, toFloat_eq_ok_iff, toFloat_eq_ok_iff, toFloat_eq_ok_iff, hcontacts]
  rfl

theorem Agent.hashedAs_eq_ok_iff (agent : Agent) (ctx : CaseContext) (result : AgentRunResult) :
    agent.hashedAs ctx result = .ok () ↔
      (result.usedLlm = true → ctx.encodable agent.prompts.utf8 = true) := by
  rw [← agent.prompts.hashes_iff ctx result.diagnosis.modelDump]
  unfold hashedAs
  cases result.usedLlm with
  | false => exact iff_of_true rfl fun h => absurd h Bool.false_ne_true
  | true =>
      constructor
      · intro h _
        obtain ⟨hash', hpropose, h⟩ := bind_eq_ok h
        obtain ⟨hash, hdiagnose, -⟩ := bind_eq_ok h
        exact ⟨hash, hash', hdiagnose, hpropose⟩
      · intro h
        obtain ⟨hash, hash', hdiagnose, hpropose⟩ := h rfl
        simp only [hdiagnose, hpropose]
        rfl

/-!
## The calls of a run
-/

section

variable (agent : Agent) (ctx : CaseContext)

theorem Agent.jsonWithRepair_calls (n : ℕ) : (agent.jsonWithRepair n).2 ≤ n + 2 := by
  unfold jsonWithRepair
  split
  · exact Nat.le_succ _
  · exact Nat.le_succ _
  · split
    all_goals exact Nat.le_refl _

theorem Agent.draftMessage_calls (verb : ActionVerb) (n : ℕ) :
    (agent.draftMessage verb n).2.2 ≤ n + 2 := by
  have hasked : (agent.ask "MessageDraft" MessageDraft.ofFields? n).2 ≤ n + 2 :=
    agent.jsonWithRepair_calls n
  unfold draftMessage
  cases verb.isLink with
  | false => exact Nat.le_add_right n 2
  | true =>
      rw [if_pos rfl]
      split
      · next h =>
          rw [h] at hasked
          exact hasked
      · next h =>
          rw [h] at hasked
          exact hasked

/-!
## The exits of a run
-/

/-- The model is there and gives this diagnosis. -/
def Agent.Diagnoses (d : Diagnosis) : Prop :=
  agent.client.available = true ∧ agent.rawDiagnosis.1 = .ok d

/-- The model gives this proposal after its diagnosis. -/
def Agent.Proposes (p : ProposalPayload) : Prop :=
  (agent.propose agent.rawDiagnosis.2).1 = .ok p

/-- The class comes from the reply of the model. -/
def Agent.FromModel (failureClass : String) : Prop :=
  ∃ d, agent.Diagnoses d ∧ d.likelyClass = failureClass

/-- How a run ends, and after how many calls: without a diagnosis, without a proposal, or
with both. -/
inductive Exit : AgentRunResult × ℕ → Prop where
  | undiagnosed {reason detail : String} {diagnosis : Diagnosis} {n : ℕ}
      (silent : ∀ d, ¬agent.Diagnoses d)
      (class_eq : diagnosis.likelyClass = (agent.rules ctx).failureClass) (calls : n ≤ 2) :
      Exit (agent.fallback ctx (agent.rules ctx) reason diagnosis detail, n)
  | unproposed {d : Diagnosis} {reason detail : String} {diagnosis : Diagnosis} {n : ℕ}
      (diagnosed : agent.Diagnoses d) (silent : ∀ p, ¬agent.Proposes p)
      (class_eq : diagnosis.likelyClass = (agent.clamp (agent.rules ctx) d).likelyClass)
      (calls : n ≤ 4) :
      Exit (agent.fallback ctx (agent.rules ctx) reason diagnosis detail, n)
  | proposed {d : Diagnosis} {p : ProposalPayload} {message : Option MessageDraft}
      {note : String} {n : ℕ} (diagnosed : agent.Diagnoses d) (proposed : agent.Proposes p)
      (calls : n ≤ 6) :
      Exit
        ({ context := ctx
           diagnosis := agent.clamp (agent.rules ctx) d
           proposalRaw := some p
           actionValidated := agent.validated ctx (agent.clamp (agent.rules ctx) d) p
           message
           source := .llm
           usedLlm := true
           decisionRules := agent.rules ctx
           ledgerEvents := agent.ledgerEvents ctx (agent.clamp (agent.rules ctx) d) (some p)
             (agent.validated ctx (agent.clamp (agent.rules ctx) d) p) message true note }, n)

variable {agent ctx} in
theorem Agent.diagnose_of_error {f : Failure} (h : agent.rawDiagnosis.1 = .error f) :
    agent.diagnose ctx = (.error f, agent.rawDiagnosis.2) := by
  simp only [diagnose, h]
  rfl

variable {agent ctx} in
/-- The first stage ends with the model's diagnosis, clamped. -/
theorem Agent.diagnose_of_ok {d : Diagnosis} (h : agent.rawDiagnosis.1 = .ok d) :
    agent.diagnose ctx = (.ok (agent.clamp (agent.rules ctx) d), agent.rawDiagnosis.2) := by
  simp only [diagnose, h]
  rfl

theorem run_exit : Exit agent ctx (agent.run ctx) := by
  have hdiagnosed : agent.rawDiagnosis.2 ≤ 2 := agent.jsonWithRepair_calls 0
  have hproposed : (agent.propose agent.rawDiagnosis.2).2 ≤ agent.rawDiagnosis.2 + 2 :=
    agent.jsonWithRepair_calls _
  unfold Agent.run
  by_cases havailable : agent.client.available = false
  · have hsilent : ∀ d, ¬agent.Diagnoses d := by
      rintro d ⟨h, -⟩
      rw [havailable] at h
      cases h
    rw [if_pos havailable]
    apply Exit.undiagnosed hsilent
    · simp only
    · exact Nat.zero_le 2
  · rw [if_neg havailable]
    rw [Bool.not_eq_false] at havailable
    cases hraw : agent.rawDiagnosis.1 with
    | error f =>
        have hsilent : ∀ d, ¬agent.Diagnoses d := by
          rintro d ⟨-, h⟩
          rw [hraw] at h
          cases h
        rw [Agent.diagnose_of_error hraw]
        apply Exit.undiagnosed hsilent
        · simp only
        · exact hdiagnosed
    | ok d =>
        rw [Agent.diagnose_of_ok hraw]
        simp only
        rcases hpropose : agent.propose agent.rawDiagnosis.2 with ⟨f | p, n⟩
        · have hsilent : ∀ p, ¬agent.Proposes p := by
            intro p h
            rw [Agent.Proposes, hpropose] at h
            cases h
          rw [hpropose] at hproposed
          apply Exit.unproposed ⟨havailable, hraw⟩ hsilent
          · simp only
          · exact hproposed.trans (Nat.add_le_add_right hdiagnosed 2)
        · have hgiven : agent.Proposes p := by rw [Agent.Proposes, hpropose]
          have hdrafted := agent.draftMessage_calls
            (agent.validated ctx (agent.clamp (agent.rules ctx) d) p).verb n
          rw [hpropose] at hproposed
          have hcalls : n + 2 ≤ 6 :=
            Nat.add_le_add_right (hproposed.trans (Nat.add_le_add_right hdiagnosed 2)) 2
          exact .proposed ⟨havailable, hraw⟩ hgiven (hdrafted.trans hcalls)

theorem run_calls : (agent.run ctx).2 ≤ 6 := by
  have hexit := run_exit agent ctx
  generalize agent.run ctx = x at hexit
  cases hexit with
  | undiagnosed _ _ calls => exact calls.trans (by decide)
  | unproposed _ _ _ calls => exact calls.trans (by decide)
  | proposed _ _ calls => exact calls

/-- A run has used the model exactly when the model has given both answers. -/
theorem run_usedLlm_iff : (agent.run ctx).1.usedLlm = true ↔
    ∃ d p, agent.Diagnoses d ∧ agent.Proposes p := by
  have hexit := run_exit agent ctx
  generalize agent.run ctx = x at hexit
  cases hexit with
  | undiagnosed silent _ _ =>
      refine iff_of_false Bool.false_ne_true ?_
      rintro ⟨d, p, h, -⟩
      exact silent d h
  | unproposed _ silent _ _ =>
      refine iff_of_false Bool.false_ne_true ?_
      rintro ⟨d, p, -, h⟩
      exact silent p h
  | @proposed d p _ _ _ diagnosed proposed _ => exact iff_of_true rfl ⟨d, p, diagnosed, proposed⟩

/-- When the model gives both answers, the texts that its prompts quote have an encoding. -/
def Agent.Hashable : Prop :=
  ∀ d p, agent.Diagnoses d → agent.Proposes p → ctx.encodable agent.prompts.utf8 = true

/-- A run returns exactly for a case that can be scored, and hashed where it has to be. -/
theorem Agent.tryRun_eq_ok_iff {x : AgentRunResult × ℕ} :
    agent.tryRun ctx = .ok x ↔ (Scorable ctx ∧ agent.Hashable ctx) ∧ x = agent.run ctx := by
  have hhashed : agent.hashedAs ctx (agent.run ctx).1 = .ok () ↔ agent.Hashable ctx := by
    rw [hashedAs_eq_ok_iff, run_usedLlm_iff]
    constructor
    · exact fun h d p hd hp => h ⟨d, p, hd, hp⟩
    · rintro h ⟨d, p, hd, hp⟩
      exact h d p hd hp
  rw [← scoredAs_eq_ok_iff, ← hhashed]
  constructor
  · intro h
    obtain ⟨_, hscored, h⟩ := bind_eq_ok h
    obtain ⟨_, hhashed, h⟩ := bind_eq_ok h
    cases h
    exact ⟨⟨hscored, hhashed⟩, rfl⟩
  · rintro ⟨⟨hscored, hhashed⟩, rfl⟩
    simp only [tryRun, hscored, hhashed]
    rfl

/-!
## The rows of a run
-/

def AgentRunResult.rowsOf (result : AgentRunResult) (kind : LedgerKind) : List LedgerEvent :=
  result.ledgerEvents.filter fun row => row.kind = kind

/-- The origin of a run is told alike by its source, its action and its rows. -/
structure Provenance (result : AgentRunResult) : Prop where
  source : result.source = .llm ↔ result.usedLlm = true
  proposedBy : result.actionValidated.proposedBy = .llm ↔ result.usedLlm = true
  failureClass : result.actionValidated.failureClass = result.diagnosis.likelyClass
  known : agent.engine.taxonomy.hasClass result.diagnosis.likelyClass = true
  decision : ∃ row, result.rowsOf .decision = [row] ∧
    (row.payload.get? "source" = some (.str "llm") ↔ result.usedLlm = true) ∧
      (row.actor = .llm ↔ result.usedLlm = true)
  classification : ∃ row failureClass, result.rowsOf .classification = [row] ∧
    row.payload.get? "likely_class" = some (.str failureClass) ∧
      (row.actor = .llm ↔ agent.FromModel failureClass)

variable {agent ctx}

/-- The two rows that every run writes. -/
theorem rowsOf_ledgerEvents {result : AgentRunResult} {diagnosis : Diagnosis}
    {proposal : Option ProposalPayload} {validated : Action} {message : Option MessageDraft}
    {usedLlm : Bool} {extraNote : String}
    (h : result.ledgerEvents =
      agent.ledgerEvents ctx diagnosis proposal validated message usedLlm extraNote) :
    ∃ classification decision, result.rowsOf .classification = [classification] ∧
      result.rowsOf .decision = [decision] ∧
        classification.payload.get? "likely_class" = some (.str diagnosis.likelyClass) ∧
        classification.actor = (if usedLlm then .llm else .policy) ∧
        decision.payload.get? "source" = some (.str (if usedLlm then "llm" else "rules_fallback")) ∧
        decision.actor = (if usedLlm && proposal.isSome then .llm else .policy) := by
  have hmessage : ∀ kind ≠ LedgerKind.action,
      (message.map (messageEvent usedLlm)).toList.filter (fun row => row.kind = kind) = [] := by
    intro kind hkind
    rw [List.filter_eq_nil_iff]
    intro row hrow
    obtain ⟨m, -, rfl⟩ := Option.map_eq_some_iff.1 (Option.mem_toList.1 hrow)
    simpa [messageEvent] using hkind.symm
  obtain ⟨classification, decision, hrows, hkind, hkind', hclass, hactor, hsource, hactor'⟩ :
      ∃ classification decision, result.ledgerEvents =
        [classification, decision] ++ (message.map (messageEvent usedLlm)).toList ∧
          classification.kind = .classification ∧ decision.kind = .decision ∧
          classification.payload.get? "likely_class" = some (.str diagnosis.likelyClass) ∧
          classification.actor = (if usedLlm then .llm else .policy) ∧
          decision.payload.get? "source" =
            some (.str (if usedLlm then "llm" else "rules_fallback")) ∧
          decision.actor = (if usedLlm && proposal.isSome then .llm else .policy) :=
    ⟨_, _, h, rfl, rfl, rfl, rfl, rfl, rfl⟩
  refine ⟨classification, decision, ?_, ?_, hclass, hactor, hsource, hactor'⟩
  · rw [AgentRunResult.rowsOf, hrows, List.filter_append, hmessage _ (by decide)]
    simp [hkind, hkind']
  · rw [AgentRunResult.rowsOf, hrows, List.filter_append, hmessage _ (by decide)]
    simp [hkind, hkind']

/-- The rows of a run tell whether the model was used, and the run is consistent when its
other fields do. -/
theorem provenance_iff {result : AgentRunResult} (proposal : Option ProposalPayload)
    {extraNote : String} (hproposal : proposal.isSome = result.usedLlm)
    (h : result.ledgerEvents = agent.ledgerEvents ctx result.diagnosis proposal
      result.actionValidated result.message result.usedLlm extraNote)
    (hsource : result.source = .llm ↔ result.usedLlm = true)
    (hproposedBy : result.actionValidated.proposedBy = .llm ↔ result.usedLlm = true) :
    Provenance agent result ↔
      result.actionValidated.failureClass = result.diagnosis.likelyClass ∧
        agent.engine.taxonomy.hasClass result.diagnosis.likelyClass = true ∧
          (result.usedLlm = true ↔ agent.FromModel result.diagnosis.likelyClass) := by
  obtain ⟨classification, decision, hclassification, hdecision, hclass, hactor, hpayload,
    hactor'⟩ := rowsOf_ledgerEvents h
  have htold : classification.actor = .llm ↔ result.usedLlm = true := by
    rw [hactor]
    cases result.usedLlm <;> decide
  constructor
  · intro hprovenance
    refine ⟨hprovenance.failureClass, hprovenance.known, ?_⟩
    obtain ⟨row, failureClass, hrow, hlikely, hfrom⟩ := hprovenance.classification
    rw [hclassification] at hrow
    cases hrow
    rw [hclass] at hlikely
    cases hlikely
    exact htold.symm.trans hfrom
  · rintro ⟨hfailureClass, hknown, hfrom⟩
    refine ⟨hsource, hproposedBy, hfailureClass, hknown, ⟨decision, hdecision, ?_, ?_⟩,
      ⟨classification, _, hclassification, hclass, htold.trans hfrom⟩⟩
    · rw [hpayload]
      cases result.usedLlm <;> simp
    · rw [hactor', hproposal, Bool.and_self]
      cases result.usedLlm <;> decide

/-!
## The classes of a run
-/

variable (agent ctx) in
/-- The validator writes the class it is given, and the model as the origin. -/
theorem validated_stamped (d : Diagnosis) (p : ProposalPayload) :
    (agent.validated ctx d p).failureClass = agent.failureClass ctx d ∧
      (agent.validated ctx d p).proposedBy = .llm := by
  unfold Agent.validated
  simp only
  rw [← PolicyEngine.stamp_validateProposal]
  exact ⟨rfl, rfl⟩

theorem fallbackAction_failureClass {rules : DecisionBundle}
    (h : ∀ action ∈ rules.actions, action.failureClass = rules.failureClass)
    (reason detail : String) :
    (Agent.fallbackAction rules reason detail).failureClass = rules.failureClass := by
  unfold Agent.fallbackAction
  cases hhead : rules.actions.head? with
  | none => rfl
  | some action => exact h action (List.mem_of_mem_head? hhead)

variable (agent ctx) in
theorem rules_failureClass : ∀ action ∈ (agent.rules ctx).actions,
    action.failureClass = (agent.rules ctx).failureClass := by
  intro action haction
  unfold Agent.rules at haction ⊢
  obtain ⟨score, hactions⟩ := PolicyEngine.decide_actions agent.engine ctx.rawErrorReason
    ctx.rawErrorCode ctx.amountPaise ctx.contactsUsed ctx.tenureDays ctx.failureDom
    ctx.observedCreditDay
  rw [hactions] at haction
  rw [PolicyEngine.decide_failureClass]
  exact PolicyEngine.failureClass_of_mem_actionsFromClassCfg _ _ _ _ haction

theorem Agent.Diagnoses.unique {d d' : Diagnosis} (h : agent.Diagnoses d)
    (h' : agent.Diagnoses d') : d = d' :=
  Except.ok.inj (h.2.symm.trans h'.2)

/-- The class of a clamped diagnosis is the model's when the taxonomy knows it. -/
theorem fromModel_clamp_iff {rules : DecisionBundle}
    (hrules : agent.engine.taxonomy.hasClass rules.failureClass = true) {d : Diagnosis}
    (h : agent.Diagnoses d) :
    agent.FromModel (agent.clamp rules d).likelyClass ↔
      agent.engine.taxonomy.hasClass d.likelyClass = true := by
  constructor
  · rintro ⟨d', h', hclass⟩
    have hknown := hasClass_clamp hrules d
    rwa [← hclass, h'.unique h] at hknown
  · intro hknown
    rw [Agent.clamp, if_pos hknown]
    exact ⟨d, h, rfl⟩

/-!
## The origin of a run
-/

def shippedAgent (client : LLMClient) (pydantic : Pydantic) (prompts : Prompts) : Agent :=
  { client, engine := .shipped, pydantic, prompts }

/-- When the model gives a diagnosis, the taxonomy knows its class exactly when the model
gives a proposal as well. -/
def Agent.Aligned (agent : Agent) : Prop :=
  ∀ d, agent.Diagnoses d →
    (agent.engine.taxonomy.hasClass d.likelyClass = true ↔ ∃ p, agent.Proposes p)

theorem Agent.Diagnoses.aligned_iff {d : Diagnosis} (h : agent.Diagnoses d) :
    agent.Aligned ↔
      (agent.engine.taxonomy.hasClass d.likelyClass = true ↔ ∃ p, agent.Proposes p) := by
  constructor
  · exact fun haligned => haligned d h
  · intro hiff d' h'
    rw [h'.unique h]
    exact hiff

theorem provenance_fallback_iff (reason detail : String) (diagnosis : Diagnosis)
    (hrules : agent.engine.taxonomy.hasClass (agent.rules ctx).failureClass = true) :
    Provenance agent (agent.fallback ctx (agent.rules ctx) reason diagnosis detail) ↔
      diagnosis.likelyClass = (agent.rules ctx).failureClass ∧
        ¬agent.FromModel diagnosis.likelyClass := by
  have hactions := rules_failureClass agent ctx
  generalize agent.rules ctx = rules at hrules hactions ⊢
  have hclass : (agent.fallback ctx rules reason diagnosis detail).actionValidated.failureClass =
      rules.failureClass := fallbackAction_failureClass hactions _ _
  rw [provenance_iff none rfl rfl (by simp [Agent.fallback])
    (by simp [Agent.fallback, Agent.fallbackAction]), hclass]
  simp only [Agent.fallback]
  constructor
  · rintro ⟨hsame, -, hfrom⟩
    exact ⟨hsame.symm, fun hmodel => Bool.false_ne_true (hfrom.2 hmodel)⟩
  · rintro ⟨hsame, hfrom⟩
    refine ⟨hsame.symm, ?_, iff_of_false Bool.false_ne_true hfrom⟩
    rw [hsame]
    exact hrules

/-- The fields of a run tell its origin alike exactly when the model is aligned. -/
theorem provenance_run_iff
    (hrules : agent.engine.taxonomy.hasClass (agent.rules ctx).failureClass = true)
    (hempty : agent.engine.taxonomy.hasClass "" = false) :
    Provenance agent (agent.run ctx).1 ↔ agent.Aligned := by
  have hexit := run_exit agent ctx
  generalize agent.run ctx = x at hexit
  cases hexit with
  | undiagnosed silent class_eq _ =>
      rw [provenance_fallback_iff _ _ _ hrules]
      refine iff_of_true ⟨class_eq, ?_⟩ fun d h => absurd h (silent d)
      rintro ⟨d, h, -⟩
      exact silent d h
  | @unproposed d _ _ _ _ diagnosed silent class_eq _ =>
      have hsilent : ¬∃ p, agent.Proposes p := fun ⟨p, h⟩ => silent p h
      rw [provenance_fallback_iff _ _ _ hrules, class_eq, fromModel_clamp_iff hrules diagnosed,
        diagnosed.aligned_iff, iff_false_right hsilent, and_iff_right_iff_imp]
      intro hunknown
      rw [Agent.clamp, if_neg hunknown]
  | @proposed d p _ _ _ diagnosed proposed _ =>
      have hstamped := validated_stamped agent ctx (agent.clamp (agent.rules ctx) d) p
      have hclamped := hasClass_clamp hrules d
      have hnonempty : (agent.clamp (agent.rules ctx) d).likelyClass ≠ "" := by
        intro h
        rw [h, hempty] at hclamped
        cases hclamped
      have hgiven : ∃ p, agent.Proposes p := ⟨p, proposed⟩
      rw [provenance_iff (some p) rfl rfl (iff_of_true rfl rfl) (iff_of_true hstamped.2 rfl),
        diagnosed.aligned_iff, iff_true_right hgiven]
      simp only [true_iff]
      rw [fromModel_clamp_iff hrules diagnosed, hstamped.1, Agent.failureClass, if_neg hnonempty]
      exact ⟨fun h => h.2.2, fun h => ⟨rfl, hclamped, h⟩⟩

end

/-- For every model, the run of an agent with the shipped engine returns after at most six
calls and tells its origin alike in all its fields exactly when the integers of the case
fit into floats, the texts that the prompts quote have an encoding as soon as both answers
of the model are used, and a diagnosis of the model's, if there is one, has a class of the
taxonomy exactly when the model's proposal is used. -/
theorem run_provenance_iff (client : LLMClient) (pydantic : Pydantic) (prompts : Prompts)
    (ctx : CaseContext) :
    (∃ result calls, (shippedAgent client pydantic prompts).tryRun ctx = .ok (result, calls) ∧
        calls ≤ 6 ∧ Provenance (shippedAgent client pydantic prompts) result) ↔
      (Scorable ctx ∧ (shippedAgent client pydantic prompts).Hashable ctx) ∧
        (shippedAgent client pydantic prompts).Aligned := by
  have hengine : (shippedAgent client pydantic prompts).engine = .shipped := rfl
  have hempty : Policy.shipped.hasClass "" = false := by decide
  have hrun := provenance_run_iff (hasClass_rules hengine ctx) hempty
  constructor
  · rintro ⟨result, calls, hresult, -, hprovenance⟩
    obtain ⟨hreturns, hsame⟩ := (Agent.tryRun_eq_ok_iff _ _).1 hresult
    rw [← hrun, ← hsame]
    exact ⟨hreturns, hprovenance⟩
  · rintro ⟨hreturns, haligned⟩
    exact ⟨_, _, (Agent.tryRun_eq_ok_iff _ _).2 ⟨hreturns, rfl⟩, run_calls _ _,
      hrun.2 haligned⟩

/-- The model diagnoses an expired card, and all of its later calls fail. -/
def cutOffModel : LLMClient where
  model := "qwen"
  available := true
  chatJson := fun n =>
    match n with
    | 0 => .value (.obj [("summary", .str "The card has expired."),
        ("likely_class", .str "card_expired"), ("confidence", .int 1),
        ("rationale", .str "expiry")])
    | _ => .llmError "connection closed"

/-- A failure that the rules put down to insufficient funds. -/
def lowBalance : CaseContext where
  rawErrorReason := "insufficient_funds"
  amountBucketInr := amountBucketInr 49900
  amountPaise := 49900

theorem scorable_lowBalance : Scorable lowBalance := by
  have hfits : ∀ n < 2 ^ 54 - 1, n < floatOverflow := by
    intro n hn
    unfold floatOverflow
    generalize 970 = k
    exact hn.trans_le (Nat.le_mul_of_pos_right _ (Nat.two_pow_pos k))
  exact ⟨hfits _ (by decide), hfits _ (by decide), hfits _ (by decide)⟩

/-- The case is classified as an expired card, in a row of the policy's, and its action is
one for insufficient funds. -/
theorem diagnosis_kept_without_proposal :
    let agent := shippedAgent cutOffModel ⟨fun _ => none, fun _ => none, fun _ _ => ""⟩
      (plainPrompts .scalar)
    Scorable lowBalance ∧ agent.FromModel "card_expired" ∧
      (∃ row, (agent.run lowBalance).1.rowsOf .classification = [row] ∧
        row.reasonCode = "card_expired" ∧ row.actor = .policy) ∧
      (agent.run lowBalance).1.actionValidated.failureClass = "insufficient_funds" ∧
      ¬∃ result calls, agent.tryRun lowBalance = .ok (result, calls) ∧ calls ≤ 6 ∧
        Provenance agent result := by
  intro agent
  have hclass : (agent.run lowBalance).1.actionValidated.failureClass = "insufficient_funds" := by
    decide
  refine ⟨scorable_lowBalance, ⟨_, ⟨rfl, rfl⟩, rfl⟩, ⟨_, rfl, rfl, rfl⟩, hclass, ?_⟩
  rintro ⟨result, calls, hresult, -, hprovenance⟩
  have hrun : result = (agent.run lowBalance).1 :=
    congrArg Prod.fst ((Agent.tryRun_eq_ok_iff _ _).1 hresult).2
  have hdiagnosis : (agent.run lowBalance).1.diagnosis.likelyClass = "card_expired" := rfl
  have hdrift := hprovenance.failureClass
  rw [hrun, hclass, hdiagnosis] at hdrift
  exact absurd hdrift (by decide)

end RecoveryAgent.Ai
