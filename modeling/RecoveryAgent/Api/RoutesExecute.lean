import RecoveryAgent.Api.OwnCase
import RecoveryAgent.Runs.Budget

/-!
# POST /execute/run

`api/routes_execute.py`: the route loads or opens a case, builds the action and
the guard context from the request, and runs `execute_with_guards`. What the
route takes from outside the program (clocks, fresh ids, the ISO parser and the
executor of a mode) is an environment that may differ from request to request.
-/

namespace RecoveryAgent.Api

open Library Python Policy Ledger Guard Execute Runs

structure ExecuteRunRequest where
  rawErrorReason : String := "insufficient_funds"
  amountPaise : ℤ := 49900
  verb : ActionVerb := .scheduleRetry
  channel : Channel := .none
  dayOffset : ℤ := 0
  mode : String := "sim"
  failureDom : ℤ := 15
  observedCreditDay : Option ℤ := some 1
  paymentRef : Option String := none
  dryRun : Bool := false
  nowIso : Option String := none
  contactsUsed : ℤ := 0
  attemptsUsed : ℤ := 0
  maxContacts : ℤ := 2
  maxAttempts : ℤ := 3
  mandateState : MandateState := .active
  optOut : Bool := false
  caseId : Option String := none

/-- What one request finds outside the program. -/
structure Environment where
  fromisoformat : String → Option DateTime
  now : DateTime
  newEventId : String
  newCaseId : String
  utf8 : Utf8 := .scalar
  getExecutor : String → Executor

inductive ApiError where
  | caseNotFound (caseId : String)
  | own (e : OwnCaseError)
  | invalidIsoformat (text : String)
  | validation (fields : List String)
  | raised (e : PyError)

structure ExecuteRunResponse where
  caseId : String
  mode : String
  allowed : Bool
  blockedBy : Option String
  executed : Bool
  outcome : Option Fields
  caseStatus : CaseStatus
  checks : List GateCheck

namespace ExecuteRunRequest

/-- `req.case_id`, as far as it is true. -/
def given (req : ExecuteRunRequest) : Option String :=
  req.caseId.filter fun caseId => caseId ≠ ""

/-- The case to work on: the given one, or one opened for a simulated failure. -/
def loadCase (env : Environment) (req : ExecuteRunRequest) (s : Session) :
    Except ApiError (CaseRow × Session) :=
  match req.given with
  | some caseId =>
      match s.getCase caseId with
      | some case => .ok (case, s)
      | none => .error (.caseNotFound caseId)
  | none =>
      if req.amountPaise < 0 then .error (.validation ["amount_paise"])
      else
        let event : RiskEvent :=
          { eventId := env.newEventId
            source := .simulator
            occurredAt := env.now
            merchantId := "merch_demo"
            payerRef := "payer_demo"
            amountPaise := req.amountPaise.toNat
            rail := .card
            rawErrorReason := req.rawErrorReason }
        match openOwnCase env.utf8 s env.newCaseId event with
        | .error e => .error (.own e)
        | .ok (_, case, s) => .ok (case, s)

/-- The clock of the gates. A link verb without a clock gets a daytime one. -/
def clock (env : Environment) (req : ExecuteRunRequest) : Except ApiError DateTime :=
  match req.nowIso with
  | none => .ok (if req.verb.isLink then daytime else env.now)
  | some text =>
      if text = "" then .ok env.now
      else
        match env.fromisoformat text with
        | some now => .ok now
        | none => .error (.invalidIsoformat text)

/-- The action; `day_offset` and `amount_paise` must not be negative. -/
def action (req : ExecuteRunRequest) : Except ApiError Action :=
  let invalid := (if req.dayOffset < 0 then ["day_offset"] else []) ++
    if req.amountPaise < 0 then ["amount_paise"] else []
  if invalid = [] then
    .ok
      { verb := req.verb
        channel :=
          if req.verb = .sendPaymentLink ∧ req.channel = .none then .link else req.channel
        amountPaise := some req.amountPaise.toNat
        dayOffset := some req.dayOffset.toNat
        reasonCode := "EXECUTE_DEMO"
        proposedBy := .rulesFallback }
  else .error (.validation invalid)

/-- The guard context. The counters are those of the request when a case is
given, and those of the row otherwise. -/
def context (req : ExecuteRunRequest) (now : DateTime) (action : Action) (case : CaseRow) :
    GuardContext where
  caseId := case.id
  action
  now
  contactsUsed := if req.given.isSome then req.contactsUsed else case.contactsUsed
  attemptsUsed := if req.given.isSome then req.attemptsUsed else case.attemptsUsed
  maxContacts := req.maxContacts
  maxAttempts := req.maxAttempts
  mandateState := some req.mandateState
  optOut := req.optOut

def execMeta (req : ExecuteRunRequest) (case : CaseRow) : ExecuteMeta where
  failureReason := req.rawErrorReason
  failureDom := req.failureDom
  observedCreditDay := req.observedCreditDay
  paymentRef := req.paymentRef
  dryRun := req.dryRun
  seed := case.id

end ExecuteRunRequest

/-- `execute_run`, up to the commit. -/
def executeRun (env : Environment) (s : Session) (req : ExecuteRunRequest) :
    Except ApiError (ExecuteRunResponse × Session) := do
  let (case, s) ← req.loadCase env s
  let now ← req.clock env
  let action ← req.action
  let (run, outcome) ← (executeWithGuards s case (req.context now action case)
    (env.getExecutor req.mode) (some (req.execMeta case)) "phase7").mapError .raised
  let response : ExecuteRunResponse :=
    { caseId := run.case.id
      mode := req.mode
      allowed := run.result.allowed
      blockedBy := run.result.blockedBy
      executed := run.result.executed
      outcome := outcome.map (·.modelDump)
      caseStatus := run.case.status
      checks := run.result.checks }
  return (response, run.session)

/-- One request as a step over the database: what it commits and the executor
calls it makes. -/
def executeRunStep (utcnow : ℕ → DateTime) (db : Db) (request : Environment × ExecuteRunRequest) :
    Db × List ExecutorCall :=
  match executeRun request.1 (openSession utcnow db) request.2 with
  | .ok (_, s) => (s.db, s.calls)
  | .error _ => (db, [])

/-- The `execute_with_guards` call that a request makes once its input is
valid. -/
def ExecuteRunRequest.call (env : Environment) (req : ExecuteRunRequest) (now : DateTime)
    (action : Action) : ExecuteCall where
  ctx := req.context now action
  executor := env.getExecutor req.mode
  execMeta := req.execMeta
  policyVersion := "phase7"

theorem ExecuteRunRequest.action_verb {req : ExecuteRunRequest} {action : Action}
    (h : req.action = .ok action) : action.verb = req.verb := by
  unfold ExecuteRunRequest.action at h
  simp only at h
  generalize (if req.dayOffset < 0 then ["day_offset"] else []) ++
    (if req.amountPaise < 0 then ["amount_paise"] else []) = invalid at h
  split at h
  · cases h
    rfl
  · cases h

section

variable (utcnow : ℕ → DateTime) (db : Db) {env : Environment} {req : ExecuteRunRequest}
  {caseId : String}

/-- A valid request on a given case is one `execute_with_guards` call on that case. -/
theorem executeRunStep_of_valid (hgiven : req.given = some caseId) {now : DateTime}
    {action : Action} (hclock : req.clock env = .ok now) (haction : req.action = .ok action) :
    executeRunStep utcnow db (env, req) =
      executeStep utcnow caseId db (req.call env now action) := by
  simp only [executeRunStep, executeRun, ExecuteRunRequest.loadCase, hgiven, hclock, haction, bind,
    Except.bind, executeStep, ExecuteCall.request, serve]
  cases hcase : (openSession utcnow db).getCase caseId with
  | none =>
      have hnone : (openSession utcnow db).getCase (GuardedRequest.execute caseId
          (req.call env now action).ctx (req.call env now action).executor
          (req.call env now action).execMeta (req.call env now action).policyVersion).caseId =
        none := hcase
      rw [hnone]
  | some case =>
      have hsome : (openSession utcnow db).getCase (GuardedRequest.execute caseId
          (req.call env now action).ctx (req.call env now action).executor
          (req.call env now action).execMeta (req.call env now action).policyVersion).caseId =
        some case := hcase
      have hran : (executeWithGuards (openSession utcnow db) case (req.context now action case)
          (env.getExecutor req.mode) (some (req.execMeta case)) "phase7").map Prod.fst =
            (GuardedRequest.execute caseId (req.call env now action).ctx
              (req.call env now action).executor (req.call env now action).execMeta
              (req.call env now action).policyVersion).run (openSession utcnow db) case :=
        GuardedRequest.execute_run ..
      rw [hsome]
      simp only [← hran]
      cases executeWithGuards (openSession utcnow db) case (req.context now action case)
        (env.getExecutor req.mode) (some (req.execMeta case)) "phase7" with
      | error e => rfl
      | ok ran => rfl

/-- A request with an invalid clock or action is refused. -/
theorem executeRunStep_of_invalid (hgiven : req.given = some caseId)
    (hinvalid : ∀ now action, req.clock env = .ok now → req.action ≠ .ok action) :
    executeRunStep utcnow db (env, req) = (db, []) := by
  simp only [executeRunStep, executeRun, ExecuteRunRequest.loadCase, hgiven, bind, Except.bind]
  cases (openSession utcnow db).getCase caseId with
  | none => rfl
  | some case =>
      cases hclock : req.clock env with
      | error e => rfl
      | ok now =>
          cases haction : req.action with
          | error e => rfl
          | ok action => exact absurd haction (hinvalid now action hclock)

/-- A request on a given case is refused, or is one `execute_with_guards` call on
that case. -/
theorem executeRunStep_of_given (hgiven : req.given = some caseId) :
    executeRunStep utcnow db (env, req) = (db, []) ∨
    ∃ now action, req.clock env = .ok now ∧ req.action = .ok action ∧
      executeRunStep utcnow db (env, req) =
        executeStep utcnow caseId db (req.call env now action) := by
  by_cases hvalid : ∃ now action, req.clock env = .ok now ∧ req.action = .ok action
  · obtain ⟨now, action, hclock, haction⟩ := hvalid
    exact Or.inr ⟨now, action, hclock, haction,
      executeRunStep_of_valid utcnow db hgiven hclock haction⟩
  · left
    apply executeRunStep_of_invalid utcnow db hgiven
    intro now action hclock haction
    exact hvalid ⟨now, action, hclock, haction⟩

end

end RecoveryAgent.Api
