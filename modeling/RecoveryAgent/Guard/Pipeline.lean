import RecoveryAgent.Guard.Gates
import RecoveryAgent.Guard.Stops

/-!
# The guard pipeline

`guard/pipeline.py`: the gates are run, every check is written to the ledger,
and only when all of them passed is `execute_fn` called and an `action` row
written.
-/

namespace RecoveryAgent.Guard

open Library Python Policy Ledger

/-- `execute_fn`: it is given the action and the loaded case, may write through
the session, and returns a dictionary. -/
abbrev ExecuteFn := Action → CaseRow → Session → Fields × CaseRow × Session

/-- An `execute_fn` that only talks to the outside and returns a dictionary. -/
def ExecuteFn.ofBackend (backend : Action → CaseRow → Fields) : ExecuteFn :=
  fun action case s => (backend action case, case, s.call case.id action (backend action case))

structure GuardPipelineResult where
  allowed : Bool
  checks : List GateCheck := []
  executed : Bool := false
  executeResult : Option Fields := none
  blockedBy : Option String := none
  skippedBecauseStopped : Bool := false
  ledgerSeqs : List ℕ := []

/-- What one call of the pipeline leaves behind. -/
structure GuardRun where
  result : GuardPipelineResult
  ctx : GuardContext
  case : CaseRow
  session : Session

/-!
## The rows
-/

/-- The row for one check. The audit fields come last and win over equal
keys. -/
def gateFact (caseId policyVersion : String) (ctx : GuardContext) (audit : Fields)
    (c : GateCheck) : LedgerFact where
  caseId
  kind := .gateCheck
  actor := .system
  payload :=
    Fields.merge
      [("gate", .str c.name),
        ("reason_code", .str c.reasonCode),
        ("verdict", .str (if c.passed then "pass" else "block"))]
      ((((audit.setDefault "proposed_verb" (.str ctx.action.verb.value)).setDefault
        "proposed_channel" (.str ctx.action.channel.value)).setDefault
        "failure_class" (.ofOptStr ctx.failureClass)).setDefault
        "action_fingerprint" (.str ctx.actionFingerprint))
  reasonCode := c.reasonCode
  policyVersion
  gateName := some c.name
  gateResult := some c.gateResult
  atTime := some ctx.now

/-- `record_gate_checks`: one row for each check; the numbers of the rows and
the session after them. -/
def recordGateChecks (s : Session) (caseId : String) (checks : List GateCheck)
    (policyVersion : String) (ctx : GuardContext) (audit : Fields) : List ℕ × Session :=
  ((s.recorded (checks.map (gateFact caseId policyVersion ctx audit))).map (·.seq),
    s.record (checks.map (gateFact caseId policyVersion ctx audit)))

def actionPayload (ctx : GuardContext) (executeResult : Fields) : Fields :=
  [("action", .obj ctx.action.modelDump),
    ("action_fingerprint", .str ctx.actionFingerprint),
    ("execute_result", .obj executeResult)]

theorem actionPayload_readable (ctx : GuardContext) (executeResult : Fields) :
    ActionReadable (actionPayload ctx executeResult) := by
  apply ActionReadable.of_modelDump (a := ctx.action) rfl
  intro v hv
  cases hv
  exact ⟨_, rfl⟩

/-- The row for an executed action. -/
def actionFact (caseId policyVersion : String) (ctx : GuardContext) (executeResult : Fields) :
    LedgerFact where
  caseId
  kind := .action
  actor := .system
  payload := actionPayload ctx executeResult
  reasonCode := if ctx.action.reasonCode = "" then ctx.action.verb.value else ctx.action.reasonCode
  policyVersion
  readable := fun _ => actionPayload_readable ctx executeResult

/-!
## The pipeline
-/

/-- The executed fingerprints the gates compare with: those the caller has put
in, else those replayed from the ledger. -/
def GuardContext.executedOn (ctx : GuardContext) (s : Session) (caseId : String) :
    Finset String :=
  if ctx.executedFingerprints = ∅ then Ledger.executedFingerprints s caseId
  else ctx.executedFingerprints

def GuardContext.replayed (ctx : GuardContext) (s : Session) (caseId : String) : GuardContext :=
  { ctx with executedFingerprints := ctx.executedOn s caseId }

/-- The case after the gates passed: a blocked case is open again. -/
def reopened (case : CaseRow) : CaseRow :=
  if case.status = .blocked then { case with status := .opened } else case

/-- The end of `guard_and_maybe_execute`, when every gate has passed: the action
is executed, if there is anything to execute it with. -/
def executeAdmitted (s : Session) (case : CaseRow) (ctx : GuardContext)
    (checks : List GateCheck) (seqs : List ℕ) (executeFn : Option ExecuteFn)
    (policyVersion : String) : GuardRun :=
  match executeFn with
  | none => { result := { allowed := true, checks, ledgerSeqs := seqs }, ctx, case, session := s }
  | some execute =>
      let (executeResult, case, s) := execute ctx.action case s
      { result :=
          { allowed := true
            checks
            executed := true
            executeResult := some executeResult
            ledgerSeqs := seqs }
        ctx :=
          { ctx with
            executedFingerprints := insert ctx.actionFingerprint ctx.executedFingerprints }
        case
        session := s.appendLedger (actionFact case.id policyVersion ctx executeResult) }

/-- `guard_and_maybe_execute`. The gates may raise; nothing is written before they return. -/
def guardAndMaybeExecute (s : Session) (case : CaseRow) (ctx : GuardContext)
    (executeFn : Option ExecuteFn) (policyVersion : String) (audit : Fields) :
    Except PyError GuardRun :=
  if isCaseStopped case then
    .ok
      { result :=
          { allowed := false
            skippedBecauseStopped := true
            blockedBy :=
              some (if case.stopReason.getD "" = "" then "stopped" else case.stopReason.getD "") }
        ctx, case, session := s }
  else if ctx.optOut then
    let (case, s) := applyStop s case .optOut policyVersion
    .ok
      { result := { allowed := false, blockedBy := some "opt_out", skippedBecauseStopped := true }
        ctx, case, session := s }
  else do
    let (checks, ctx) ← runGates (ctx.replayed s case.id)
    let audit := audit.setDefault "proposed_by" (.str ctx.action.proposedBy.value)
    let (seqs, s) := recordGateChecks s case.id checks policyVersion ctx audit
    if !allPassed checks then
      let blocked := checks.find? fun c => !c.passed
      let case := { case with status := .blocked }
      return {
        result :=
          { allowed := false, checks, blockedBy := blocked.map (·.name), ledgerSeqs := seqs }
        ctx, case, session := s.add case }
    else
      return executeAdmitted (if case.status = .blocked then s.add (reopened case) else s)
        (reopened case) ctx checks seqs executeFn policyVersion

/-- What a call leaves behind, also where it raises. -/
def guardRun (s : Session) (case : CaseRow) (ctx : GuardContext) (executeFn : Option ExecuteFn)
    (policyVersion : String) (audit : Fields) : GuardRun :=
  match guardAndMaybeExecute s case ctx executeFn policyVersion audit with
  | .ok run => run
  | .error _ => { result := { allowed := false }, ctx, case, session := s }

/-- The call raises: it reaches the gates, and one of them raises. -/
def GuardContext.raisesOn (ctx : GuardContext) (case : CaseRow) : Bool :=
  !isCaseStopped case && !ctx.optOut && ctx.raises

end RecoveryAgent.Guard
