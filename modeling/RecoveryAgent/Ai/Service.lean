import RecoveryAgent.Ai.Agent
import RecoveryAgent.Ledger.Writer

/-!
# Persisting an agent run

`ai/service.py`: the rows that the agent wants in the ledger are appended under
the policy version of its action.
-/

namespace RecoveryAgent.Ai

open Python Policy Ledger

def agentFact (caseId policyVersion : String) (ev : LedgerEvent) : LedgerFact where
  caseId
  kind := ev.kind
  actor := ev.actor
  payload := ev.payload
  reasonCode := ev.reasonCode
  policyVersion
  readable := ev.readable

def agentFacts (caseId : String) (result : AgentRunResult) : List LedgerFact :=
  result.ledgerEvents.map (agentFact caseId result.actionValidated.policyVersion)

/-- `persist_agent_run`: the numbers of the rows and the session after them. -/
def persistAgentRun (s : Session) (caseId : String) (result : AgentRunResult) :
    List ℕ × Session :=
  ((s.recorded (agentFacts caseId result)).map (·.seq), s.record (agentFacts caseId result))

/-- The agent writes a classification, a decision and perhaps a message. -/
theorem ledgerEvents_kinds (agent : Agent) (ctx : CaseContext) (diagnosis : Diagnosis)
    (proposal : Option ProposalPayload) (validated : Action) (message : Option MessageDraft)
    (usedLlm : Bool) (extraNote : String) :
    (agent.ledgerEvents ctx diagnosis proposal validated message usedLlm extraNote).map (·.kind) =
      [.classification, .decision] ++ (message.map fun _ => LedgerKind.action).toList := by
  cases message with
  | none => rfl
  | some m => rfl

/-- The message stage drafts one exactly for the verbs that reach the payer. -/
theorem draftMessage_isSome (agent : Agent) (verb : ActionVerb) (n : ℕ) :
    (agent.draftMessage verb n).1.isSome = verb.isLink := by
  unfold Agent.draftMessage
  cases verb.isLink with
  | false => rfl
  | true =>
      rw [if_pos rfl]
      split
      · rfl
      · rfl

theorem fallback_drafts (agent : Agent) (ctx : CaseContext) (rules : DecisionBundle)
    (reason : String) (diagnosis : Diagnosis) (errorDetail : String) :
    (agent.fallback ctx rules reason diagnosis errorDetail).message.isSome =
        (agent.fallback ctx rules reason diagnosis errorDetail).actionValidated.verb.isLink ∧
      ∃ extraNote, (agent.fallback ctx rules reason diagnosis errorDetail).ledgerEvents =
        agent.ledgerEvents ctx diagnosis none
          (agent.fallback ctx rules reason diagnosis errorDetail).actionValidated
          (agent.fallback ctx rules reason diagnosis errorDetail).message false extraNote := by
  constructor
  · rw [Bool.eq_iff_iff]
    exact Option.isSome_ite
  · exact ⟨_, rfl⟩

/-- Every run drafts a message exactly when its action is of a verb that reaches
the payer, and writes it with the decision. -/
theorem run_drafts (agent : Agent) (ctx : CaseContext) :
    (agent.run ctx).1.message.isSome = (agent.run ctx).1.actionValidated.verb.isLink ∧
      ∃ diagnosis proposal usedLlm extraNote, (agent.run ctx).1.ledgerEvents =
        agent.ledgerEvents ctx diagnosis proposal (agent.run ctx).1.actionValidated
          (agent.run ctx).1.message usedLlm extraNote := by
  unfold Agent.run
  by_cases havailable : agent.client.available = false
  · rw [if_pos havailable]
    obtain ⟨hmessage, note, hevents⟩ := fallback_drafts agent ctx ..
    exact ⟨hmessage, _, _, _, note, hevents⟩
  · rw [if_neg havailable]
    rcases hdiagnose : agent.diagnose ctx with ⟨f | d, n⟩
    · obtain ⟨hmessage, note, hevents⟩ := fallback_drafts agent ctx ..
      exact ⟨hmessage, _, _, _, note, hevents⟩
    · simp only
      rcases hpropose : agent.propose n with ⟨f | p, m⟩
      · obtain ⟨hmessage, note, hevents⟩ := fallback_drafts agent ctx ..
        exact ⟨hmessage, _, _, _, note, hevents⟩
      · exact ⟨draftMessage_isSome .., _, _, _, _, rfl⟩

/-- Whatever the model does, these are the rows of a run. -/
theorem run_kinds (agent : Agent) (ctx : CaseContext) :
    (agent.run ctx).1.ledgerEvents.map (·.kind) = [.classification, .decision] ++
      ((agent.run ctx).1.message.map fun _ => LedgerKind.action).toList := by
  obtain ⟨-, _, _, _, _, hevents⟩ := run_drafts agent ctx
  rw [hevents]
  exact ledgerEvents_kinds ..

theorem agentFacts_kinds (caseId : String) (result : AgentRunResult) :
    (agentFacts caseId result).map (·.kind) = result.ledgerEvents.map (·.kind) := by
  rw [agentFacts, List.map_map]
  rfl

end RecoveryAgent.Ai
