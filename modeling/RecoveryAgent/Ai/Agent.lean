import Mathlib.Tactic.NormNum
import RecoveryAgent.Ai.Prompts
import RecoveryAgent.Ledger.Models

/-!
# The agent

`RecoveryAgent` of `ai/agent.py`. The language model is an oracle: it is available or not, and its
`n`-th call answers whatever it likes or raises. The agent diagnoses, proposes,
and has the policy engine bound the proposal; where an answer cannot be used it
falls back on the rules. Every stage also returns the number of calls made so
far.
-/

namespace RecoveryAgent.Ai

open Python Policy Ledger

/-- What one `chat_json` call does. -/
inductive Reply where
  | value (v : Json)
  | llmError (text : String)
  | raised (f : Failure)

structure LLMClient where
  model : String
  available : Bool
  chatJson : ℕ → Reply

def amountBucketInr (amountPaise : ℕ) : String :=
  if amountPaise < 20000 then "0-199"
  else if amountPaise < 50000 then "200-499"
  else if amountPaise < 100000 then "500-999"
  else if amountPaise < 200000 then "1000-1999"
  else "2000+"

structure Agent where
  client : LLMClient
  engine : PolicyEngine
  pydantic : Pydantic
  prompts : Prompts

/-- A row the agent wants in the ledger. -/
structure LedgerEvent where
  kind : LedgerKind
  actor : LedgerActor
  reasonCode : String
  payload : Fields
  readable : kind = .action → ActionReadable payload := by nofun

structure AgentRunResult where
  context : CaseContext
  diagnosis : Diagnosis
  proposalRaw : Option ProposalPayload := none
  actionValidated : Action
  message : Option MessageDraft := none
  source : AgentSource
  usedLlm : Bool
  fallbackReason : Option String := none
  decisionRules : DecisionBundle
  ledgerEvents : List LedgerEvent := []

/-- Safe payer copy. -/
def cannedContactMessage : MessageDraft where
  channel := .link
  subject := "Update your payment method"
  body := "Your subscription payment did not go through. " ++
    "Please update your payment method or use the secure link to continue."
  source := .cannedFallback

theorem message_readable (m : MessageDraft) : ActionReadable m.modelDump where
  fingerprint := by
    intro v hv _
    cases hv
  action := by
    intro v hv _
    cases hv

def messageEvent (usedLlm : Bool) (m : MessageDraft) : LedgerEvent where
  kind := .action
  actor := if usedLlm && m.source = .llm then .llm else .system
  reasonCode := "message_draft"
  payload := m.modelDump
  readable := fun _ => message_readable m

namespace Agent

/-- `_ledger_events`. Where a hash raises, the run ends with that exception and has no rows. -/
def ledgerEvents (agent : Agent) (ctx : CaseContext) (diagnosis : Diagnosis)
    (proposal : Option ProposalPayload) (validated : Action) (message : Option MessageDraft)
    (usedLlm : Bool) (extraNote : String) : List LedgerEvent :=
  let modelName := if usedLlm then agent.client.model else "rules_fallback"
  let promptHash :=
    if usedLlm && proposal.isSome then
      (agent.prompts.proposePromptHash ctx diagnosis.modelDump).toOption
    else none
  [{ kind := .classification
     actor := if usedLlm then .llm else .policy
     reasonCode := diagnosis.likelyClass
     payload := diagnosis.modelDump ++
       [("audit", .obj
         [("model", .str modelName),
           ("prompt_hash", .ofOptStr
             (if usedLlm then (agent.prompts.diagnosePromptHash ctx).toOption else none))])] },
    { kind := .decision
      actor := if usedLlm && proposal.isSome then .llm else .policy
      reasonCode := validated.reasonCode
      payload :=
        [("proposal_raw", (proposal.map fun p => Json.obj p.modelDump).getD .null),
          ("validated", .obj validated.modelDump),
          ("source", .str (if usedLlm then "llm" else "rules_fallback")),
          ("extra_note", .str extraNote),
          ("audit", .obj
            [("model", .str modelName), ("prompt_hash", .ofOptStr promptHash)])] }] ++
    (message.map (messageEvent usedLlm)).toList

/-- The action of a fallback: the first of the rules, stamped as a fallback. -/
def fallbackAction (rules : DecisionBundle) (reason detail : String) : Action :=
  let action : Action :=
    rules.actions.head?.getD
      { verb := .escalateHuman
        proposedBy := .rulesFallback
        failureClass := rules.failureClass
        policyVersion := rules.policyVersion
        reasonCode := "FALLBACK" }
  { action with
    proposedBy := .rulesFallback
    note := slice 500 ("fallback:" ++ reason ++ ":" ++ detail) }

/-- `_fallback`. Its callers all give an error detail. -/
def fallback (agent : Agent) (ctx : CaseContext) (rules : DecisionBundle)
    (reason : String) (diagnosis : Diagnosis) (errorDetail : String) : AgentRunResult :=
  let detail := if errorDetail = "" then reason else errorDetail
  let action := fallbackAction rules reason detail
  let message := if action.verb.isLink then some cannedContactMessage else none
  let fallbackReason := if errorDetail = "" then reason else reason ++ ":" ++ errorDetail
  { context := ctx
    diagnosis
    actionValidated := action
    message
    source := .rulesFallback
    usedLlm := false
    fallbackReason := some fallbackReason
    decisionRules := rules
    ledgerEvents := agent.ledgerEvents ctx diagnosis none action message false fallbackReason }

/-- `_json_with_repair`: one more call after an `LLMError`. -/
def jsonWithRepair (agent : Agent) (n : ℕ) : Except Failure Json × ℕ :=
  match agent.client.chatJson n with
  | .value v => (.ok v, n + 1)
  | .raised f => (.error f, n + 1)
  | .llmError _ =>
      match agent.client.chatJson (n + 1) with
      | .value v => (.ok v, n + 2)
      | .raised f => (.error f, n + 2)
      | .llmError text => (.error ⟨"LLMError", text⟩, n + 2)

/-- An answer of the model, read as what was asked for. -/
def ask {α : Type} (agent : Agent) (title : String) (ofFields? : Fields → Option α)
    (n : ℕ) : Except Failure α × ℕ :=
  let (raw, n) := agent.jsonWithRepair n
  (raw.bind (agent.pydantic.validate title ofFields?), n)

/-- A class outside the taxonomy is replaced by that of the rules. -/
def clamp (agent : Agent) (rules : DecisionBundle) (d : Diagnosis) : Diagnosis :=
  if agent.engine.taxonomy.hasClass d.likelyClass then d
  else { d with likelyClass := rules.failureClass }

/-- The rules decision, always computed. -/
def rules (agent : Agent) (ctx : CaseContext) : DecisionBundle :=
  agent.engine.decide ctx.rawErrorReason ctx.rawErrorCode ctx.amountPaise ctx.contactsUsed
    ctx.tenureDays ctx.failureDom ctx.observedCreditDay

/-- The model's own diagnosis. -/
def rawDiagnosis (agent : Agent) : Except Failure Diagnosis × ℕ :=
  agent.ask "Diagnosis" (Diagnosis.ofFields? agent.pydantic) 0

/-- The first stage: a diagnosis, clamped to the taxonomy. -/
def diagnose (agent : Agent) (ctx : CaseContext) : Except Failure Diagnosis × ℕ :=
  let (raw, n) := agent.rawDiagnosis
  (raw.map (agent.clamp (agent.rules ctx)), n)

/-- The second stage: a proposal. -/
def propose (agent : Agent) (n : ℕ) : Except Failure ProposalPayload × ℕ :=
  agent.ask "ProposalPayload" (ProposalPayload.ofFields? agent.pydantic) n

/-- The class of the AI when it is known, else that of the rules. -/
def failureClass (agent : Agent) (ctx : CaseContext) (d : Diagnosis) : String :=
  if d.likelyClass = "" then (agent.rules ctx).failureClass else d.likelyClass

/-- The proposal as the policy engine has bounded it. -/
def validated (agent : Agent) (ctx : CaseContext) (d : Diagnosis)
    (proposal : ProposalPayload) : Action :=
  let failureClass := agent.failureClass ctx d
  let score := Diagnose.recoverabilityScore (agent.engine.classConfig failureClass).category'
    ctx.amountPaise ctx.contactsUsed ctx.tenureDays agent.engine.taxonomy.scoring
  let draftAction : Action :=
    { verb := proposal.verb
      dayOffset := some proposal.dayOffset
      channel := proposal.channel
      amountPaise := some ctx.amountPaise
      reasonCode := proposal.reasonCode
      note := proposal.note
      proposedBy := .llm
      failureClass
      score := some score
      policyVersion := agent.engine.policyVersion }
  agent.engine.validateProposal draftAction failureClass ctx.amountPaise score

/-- The third stage: a message for the two verbs that reach the payer. A message
that cannot be used is replaced by the canned one and noted. -/
def draftMessage (agent : Agent) (verb : ActionVerb) (n : ℕ) :
    Option MessageDraft × String × ℕ :=
  if verb.isLink then
    match agent.ask "MessageDraft" MessageDraft.ofFields? n with
    | (.ok m, n) => (some { m with source := .llm }, "", n)
    | (.error f, n) => (some cannedContactMessage, "message_draft_failed:" ++ f.detail, n)
  else (none, "", n)

/-- `RecoveryAgent.run`, and the number of calls it has made. -/
def run (agent : Agent) (ctx : CaseContext) : AgentRunResult × ℕ :=
  let rules := agent.rules ctx
  if agent.client.available = false then
    (agent.fallback ctx rules "ollama_unavailable"
      { summary := "Rules fallback: classified as " ++ rules.failureClass
        likelyClass := rules.failureClass
        confidence := .fin (if rules.classificationMatchedOn ≠ "ambiguous" then 1 else 2 / 10)
        rationale := "LLM unavailable; used taxonomy rules."
        unit := by split <;> norm_num [isUnit] }
      "Ollama health check failed (GET /api/tags)", 0)
  else
    match agent.diagnose ctx with
    | (.error f, n) =>
        (agent.fallback ctx rules "diagnose_failed"
          { summary := "Rules fallback after diagnose failure (" ++ rules.failureClass ++ ")"
            likelyClass := rules.failureClass
            confidence := .fin (3 / 10)
            rationale := "Diagnose failed (" ++ f.typeName ++ "); used taxonomy rules. " ++ f.text
            unit := by norm_num [isUnit] }
          f.detail, n)
    | (.ok diagnosis, n) =>
        match agent.propose n with
        | (.error f, n) =>
            (agent.fallback ctx rules "propose_failed"
              { diagnosis with
                rationale := "Propose failed (" ++ f.typeName ++ "); used taxonomy rules. " ++
                  f.text }
              f.detail, n)
        | (.ok proposal, n) =>
            let action := agent.validated ctx diagnosis proposal
            let (message, messageNote, n) := agent.draftMessage action.verb n
            ({ context := ctx
               diagnosis
               proposalRaw := some proposal
               actionValidated := action
               message
               source := .llm
               usedLlm := true
               decisionRules := rules
               ledgerEvents := agent.ledgerEvents ctx diagnosis (some proposal) action message true
                 messageNote }, n)

end Agent

end RecoveryAgent.Ai
