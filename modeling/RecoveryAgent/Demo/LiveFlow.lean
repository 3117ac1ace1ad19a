import RecoveryAgent.Demo.Events
import RecoveryAgent.Ledger.Service
import RecoveryAgent.Library.Generator

/-!
# The live flow

`iter_ai_demo_case` of `demo/live_flow.py`: a generator that opens a case, runs
the agent on it, sends the agent's action through the guard, and shows every
step. Its consumer may stop at any event. The first session only opens the case;
the second is committed after the gate events, and closed in a `finally`.
-/

namespace RecoveryAgent.Demo

open Library Python Policy Ledger Guard Execute Ai Memory

/-- The arguments of the flow. -/
structure DemoInput where
  rawErrorReason : String := "card_expired"
  amountPaise : ℤ := 49900
  forceFallback : Bool := false
  refuseAtGate : Bool := false
  createPaymentLink : Bool := false

def DemoInput.live (input : DemoInput) : Bool := input.createPaymentLink && !input.refuseAtGate

/-- What the flow draws from outside: the clock, what `uuid4` gives, the memory
service, the agent with its model, and the Razorpay executors of the guarded
action and of the demo link. -/
structure DemoEnv where
  utcnow : ℕ → DateTime
  now : DateTime
  eventHex : String
  newCaseId : String
  retrieve : String → Except Failure RagMetrics
  agent : Agent
  razorpay : RazorpayExecutor
  demoRazorpay : RazorpayExecutor

inductive DemoError where
  | service (e : ServiceError)
  | failure (f : Failure)
  | caseMissing

/-- The committed database and the session at work. The executor calls are kept
by the session and outlive it. -/
structure World where
  committed : Db
  session : Session

namespace World

/-- A session that sees what is committed: one that was just opened, and what is
left of one that is rolled back or closed. -/
def reset (w : World) : World := { w with session := { w.session with db := w.committed } }

def commit (w : World) : World := { w with committed := w.session.db }

/-- The calls made so far. -/
def calls (w : World) : List ExecutorCall := w.session.calls

end World

abbrev Flow := Generator World Event DemoError

def Flow.lift {α : Type} (x : Except Failure α) : Flow α :=
  .effect fun w => (x.mapError .failure, w)

/-- Work in the session that hands nothing out. -/
def Flow.work {α : Type} (f : Session → α × Session) : Flow α :=
  .effect fun w => (.ok (f w.session).1, { w with session := (f w.session).2 })

/-!
## The pieces of the flow
-/

def eventId (env : DemoEnv) : String := "ui_ai_" ++ env.eventHex

def riskEvent (env : DemoEnv) (input : DemoInput) : RiskEvent where
  eventId := eventId env
  source := .simulator
  occurredAt := env.now
  merchantId := "merch_demo"
  payerRef := "payer_demo"
  amountPaise := input.amountPaise.toNat
  rail := .card
  rawErrorReason := input.rawErrorReason

/-- The short first session. A negative amount is no event. -/
def openCase (env : DemoEnv) (input : DemoInput) : Flow String :=
  .effect fun w =>
    if input.amountPaise < 0 then
      (.error (.failure ⟨"ValidationError",
        env.agent.pydantic.errorText "RiskEvent" (.int input.amountPaise)⟩), w)
    else
      match ingestRiskEvent w.reset.session env.newCaseId (riskEvent env input) with
      | .ok (ingested, s) => (.ok ingested.caseId, { committed := s.db, session := s })
      | .error e => (.error (.service e), w.reset)

/-- `build_context`, without the retrieved episodes and their query, which only go into the
prompts. -/
def caseContext (env : DemoEnv) (input : DemoInput) (caseId : String) : CaseContext where
  eventId := eventId env
  caseId := some caseId
  rawErrorReason := input.rawErrorReason
  amountBucketInr := amountBucketInr input.amountPaise.toNat
  amountPaise := input.amountPaise.toNat
  allowedClasses := (env.agent.engine.taxonomy.classes.map Prod.fst).mergeSort fun a b => a ≤ b
  allowedVerbs :=
    [ActionVerb.scheduleRetry, .sendPaymentLink, .requestMandateUpdate, .escalateHuman].map
      (·.value)

/-- The agent of the flow; it can be forced to do without its model. -/
def demoAgent (env : DemoEnv) (input : DemoInput) : Agent :=
  { env.agent with
    client :=
      { env.agent.client with
        available := env.agent.client.available && !input.forceFallback } }

/-- The agent's run on the case. -/
def agentResult (env : DemoEnv) (input : DemoInput) (caseId : String) : AgentRunResult :=
  ((demoAgent env input).run (caseContext env input caseId)).1

/-- What the second session writes before the guard. -/
def prepareCase (result : AgentRunResult) (rag : RagMetrics) (case : CaseRow) (s : Session) :
    CaseRow × Session :=
  let (_, s) := persistAgentRun s case.id result
  let s := if rag.enabled then s.appendLedger (retrievalFact case.id rag) else s
  let case :=
    { case with
      failureClass := some result.diagnosis.likelyClass
      score := some result.diagnosis.confidence }
  (case, s.add case)

/-- The context of the gates. It holds the agent's action and nothing else. -/
def demoGuardContext (input : DemoInput) (result : AgentRunResult) (case : CaseRow) :
    GuardContext where
  caseId := case.id
  action := result.actionValidated
  now := if input.refuseAtGate then nighttime else daytime
  failureClass :=
    some (if result.diagnosis.likelyClass = "" then input.rawErrorReason
      else result.diagnosis.likelyClass)
  contactsUsed := case.contactsUsed
  attemptsUsed := case.attemptsUsed
  mandateState := some .active
  actionFingerprint := actionFingerprint case.id result.actionValidated

def demoMeta (input : DemoInput) (case : CaseRow) : ExecuteMeta where
  failureReason := input.rawErrorReason
  seed := case.id
  dryRun := false

def demoAction (case : CaseRow) (gatedVerb : ActionVerb) : Action where
  verb := .sendPaymentLink
  channel := .link
  amountPaise := some case.amountPaise
  dayOffset := some 0
  reasonCode := "UI_DEMO_LINK_NOT_GATED"
  note := "demo_affordance_after_gate;gated_verb=" ++ gatedVerb.value
  proposedBy := .rulesFallback

def demoPayload (case : CaseRow) (gatedVerb : ActionVerb) (outcome : Outcome) : Fields :=
  [("demo_payment_link", .bool true),
    ("not_the_gated_action", .bool true),
    ("gated_verb", .str gatedVerb.value),
    ("action", .obj (demoAction case gatedVerb).modelDump),
    ("execute_result", .obj outcome.modelDump)]

theorem demoPayload_readable (case : CaseRow) (gatedVerb : ActionVerb) (outcome : Outcome) :
    ActionReadable (demoPayload case gatedVerb outcome) := by
  apply ActionReadable.of_modelDump (a := demoAction case gatedVerb) rfl
  intro v hv
  cases hv

def demoFact (case : CaseRow) (gatedVerb : ActionVerb) (outcome : Outcome) : LedgerFact where
  caseId := case.id
  kind := .action
  actor := .system
  payload := demoPayload case gatedVerb outcome
  reasonCode := "UI_DEMO_LINK_NOT_GATED"
  policyVersion := "ui-demo"
  readable := fun _ => demoPayload_readable case gatedVerb outcome

/-- `_create_demo_payment_link`: a link outside the guard, with an `action` row
that says so. -/
def createDemoPaymentLink (env : DemoEnv) (input : DemoInput) (s : Session) (case : CaseRow)
    (gatedVerb : ActionVerb) : Outcome × Session :=
  let outcome := env.demoRazorpay.run (demoAction case gatedVerb) case (demoMeta input case)
  (outcome, (s.call case.id (demoAction case gatedVerb) outcome.modelDump).appendLedger
    (demoFact case gatedVerb outcome))

/-- What the execute section leaves behind. -/
structure Executed where
  pipe : GuardRun
  outcome : Option Outcome := none
  demoOutcome : Option Outcome := none

/-- The live branch: the guarded action, which returns at the demo's clocks, and the demo
link when the gates have passed but the action gave no link. -/
def liveExecute (env : DemoEnv) (input : DemoInput) (case : CaseRow) (ctx : GuardContext)
    (s : Session) : Executed × Session :=
  let (pipe, outcome) := serviceRun s case ctx env.razorpay.run
    (some (demoMeta input case)) "ui-demo"
  if pipe.result.allowed = true ∧ externalId outcome = none ∧
      ctx.action.verb ≠ .sendPaymentLink then
    let (demoOutcome, s) :=
      createDemoPaymentLink env input pipe.session pipe.case ctx.action.verb
    ({ pipe, outcome, demoOutcome := some demoOutcome }, s)
  else ({ pipe, outcome }, pipe.session)

/-- The simulated branch: the guard with nothing to execute. -/
def simulateExecute (case : CaseRow) (ctx : GuardContext) (s : Session) : Executed × Session :=
  let pipe := guardRun s case ctx none "ui-demo" []
  ({ pipe }, pipe.session)

namespace Executed

def blockedBy (done : Executed) : Option String :=
  done.pipe.result.blockedBy.filter fun b => b ≠ ""

def displayPlink (done : Executed) : Option String :=
  (externalId done.outcome).or (externalId done.demoOutcome)

def demoLinkNotGated (done : Executed) : Bool :=
  (externalId done.outcome).isNone && (externalId done.demoOutcome).isSome

def actionDetail (done : Executed) (live : Bool) (verb : ActionVerb) : String :=
  match done.displayPlink with
  | some plink =>
      if done.demoLinkNotGated then "Demo Payment Link " ++ plink ++ " (not the gated action)"
      else if live then "Razorpay Payment Link " ++ plink
      else
        match done.blockedBy with
        | some gate => "Blocked by " ++ gate
        | none => "Gated " ++ verb.value
  | none =>
      match done.blockedBy with
      | some gate => "Blocked by " ++ gate
      | none => "Gated " ++ verb.value

/-- The status and the label of the recovery. -/
def recovery (done : Executed) (live : Bool) (verb : ActionVerb) : String × String :=
  let amount := rupees done.pipe.case.amountPaise
  if done.blockedBy.isSome then ("blocked", "₹0 — policy refused")
  else if live && done.displayPlink.isSome && !done.demoLinkNotGated then
    ("link_created", amount ++ " at risk — Payment Link live")
  else if live && done.demoLinkNotGated then
    ("gated_with_demo_link", amount ++ " — gated " ++ verb.value ++ "; demo link only")
  else if live && done.pipe.result.executed then
    ("scheduled", amount ++ " — action scheduled")
  else ("proposed", amount ++ " — recommendation ready")

end Executed

def safetyCheck (proposedVerb source : String) (c : GateCheck) : Fields :=
  [("gate", .str c.name),
    ("label", .str (gateLabel c.name)),
    ("status", .str (gateStatus c)),
    ("passed", .bool c.passed),
    ("reason_code", .str c.reasonCode),
    ("proposed_verb", .str proposedVerb),
    ("source", .str source)]

/-- The result that the last event carries. -/
def demoResult (env : DemoEnv) (input : DemoInput) (rag : RagMetrics) (result : AgentRunResult)
    (done : Executed) : Fields :=
  let action := result.actionValidated
  let amountInr : Json := .float (.fin (done.pipe.case.amountPaise / 100))
  [("case_id", .str done.pipe.case.id),
    ("event_id", .str (eventId env)),
    ("amount_paise", .int done.pipe.case.amountPaise),
    ("amount_inr", amountInr),
    ("failure_reason", .str input.rawErrorReason),
    ("failure_class", .str result.diagnosis.likelyClass),
    ("source", .str result.source.value),
    ("used_llm", .bool result.usedLlm),
    ("fallback_reason", .ofOptStr result.fallbackReason),
    ("proposed_by", .str action.proposedBy.value),
    ("rationale", .str result.diagnosis.rationale),
    ("summary", .str result.diagnosis.summary),
    ("confidence", .float result.diagnosis.confidence),
    ("confidence_pct", ((confidencePct result.diagnosis.confidence).map .int).getD .null),
    ("verb", .str action.verb.value),
    ("day_offset", .int (action.dayOffset.getD 0 : ℕ)),
    ("allowed", .bool done.pipe.result.allowed),
    ("blocked_by", .ofOptStr done.pipe.result.blockedBy),
    ("executed", .bool (input.live && done.pipe.result.executed)),
    ("external_id", .ofOptStr done.displayPlink),
    ("demo_link_not_gated", .bool done.demoLinkNotGated),
    ("refuse_at_gate", .bool input.refuseAtGate),
    ("force_fallback", .bool input.forceFallback),
    ("rag", .obj rag.toPublicDict),
    ("chunks", .arr (rag.episodes.map .obj)),
    ("safety_checks", .arr (done.pipe.result.checks.map fun c =>
      .obj (safetyCheck action.verb.value result.source.value c))),
    ("live", .bool input.live),
    ("recovery_status", .str (done.recovery input.live action.verb).1),
    ("recovered_inr", .float (.fin 0)),
    ("recovery_label", .str (done.recovery input.live action.verb).2),
    ("at_risk_inr", amountInr)]

/-- The last three events, after the commit. -/
def closingEvents (env : DemoEnv) (input : DemoInput) (rag : RagMetrics)
    (result : AgentRunResult) (done : Executed) : List Event :=
  let verb := result.actionValidated.verb
  let status := if done.blockedBy.isSome then "blocked" else "done"
  [.step "safety" "Safety gates" status
      (match done.blockedBy with
        | some gate => "Blocked by " ++ gate
        | none => "Validated " ++ verb.value) "",
    .step "action" (if input.live then "Razorpay execute" else "Simulated execute") status
      (done.actionDetail input.live verb) "",
    .done (demoResult env input rag result done)]

def executeEvent (input : DemoInput) (verb : ActionVerb) : Event :=
  if input.live then
    .step "action" "Razorpay execute" "running" ("Executing gated action: " ++ verb.value) ""
  else
    .step "action" "Simulated execute" "running"
      ("Applying gated action in simulation: " ++ verb.value) ""

/-!
## The generator
-/

/-- The second session from the guard on: the action is executed, the gates are
shown, and only then is the session committed. -/
def executeSection (env : DemoEnv) (input : DemoInput) (rag : RagMetrics)
    (result : AgentRunResult) (case : CaseRow) : Flow Unit := do
  let ctx := demoGuardContext input result case
  .yield (executeEvent input ctx.action.verb)
  let done ← Flow.work
    (if input.live then liveExecute env input case ctx else simulateExecute case ctx)
  .yieldAll (done.pipe.result.checks.map
    (gatePayload ctx.action.verb.value result.source.value))
  .effect fun w => (.ok (), w.commit)
  .yieldAll (closingEvents env input rag result done)

/-- The second session. -/
def safetySection (env : DemoEnv) (input : DemoInput) (rag : RagMetrics)
    (result : AgentRunResult) (caseId : String) : Flow Unit := do
  let loaded ← Flow.work fun s => (s.getCase caseId, s)
  match loaded with
  | none => .effect fun w => (.error .caseMissing, w)
  | some case =>
      let case ← Flow.work (prepareCase result rag case)
      executeSection env input rag result case

def iterAiDemoCase (env : DemoEnv) (input : DemoInput) : Flow Unit := do
  .yield (.step "ingest" "Ingest failed payment" "running"
    (if input.live then "Opening case from Razorpay test decline"
      else "Opening case from simulated decline") "")
  let caseId ← openCase env input
  .yield (.step "ingest" "Ingest failed payment" "done" ("Case " ++ caseId) "")
  .yield (.step "memory" "Historical memory (RAG)" "running"
    "Searching Inherent for similar recoveries" "")
  let rag ← Flow.lift (env.retrieve input.rawErrorReason)
  let detail ← Flow.lift (ragDetail rag)
  .yield (.step "memory" "Historical memory (RAG)" "done" detail "")
  .yield (.ragMeta rag.similarCases rag.retrievalLatencyMs rag.statusLabel
    rag.topSimilarityScore rag.query rag.episodes.length)
  .yieldAll (ragChunks rag.episodes)
  .yield (.step "agent" "Agentic reasoning" "running"
    "Diagnosing failure and proposing a bounded action" "")
  let result := agentResult env input caseId
  .yield (reasoning result)
  .yield (.step "agent" "Agentic reasoning" "done"
    ((if result.source = .llm then "LLM" else "rules_fallback") ++ " · " ++
      result.diagnosis.likelyClass ++ " · " ++ result.actionValidated.verb.value)
    (thinking result.diagnosis))
  .yield (.step "safety" "Safety gates" "running" "Policy checks before any money moves" "")
  .effect fun w => (.ok (), w.reset)
  .withCleanup World.reset (safetySection env input rag result caseId)

end RecoveryAgent.Demo
