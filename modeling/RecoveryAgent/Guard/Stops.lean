import RecoveryAgent.Ledger.Effect

/-!
# Stops

`guard/stops.py`: the terminal conditions of a case. A stop closes the case and
writes one `stop` row; a gate block is not a stop.
-/

namespace RecoveryAgent.Guard

open Python Ledger

inductive StopReason where
  | recovered
  | mandateRevoked
  | attemptCap
  | optOut
  | humanOverride
  deriving DecidableEq, Repr

namespace StopReason

def value : StopReason → String
  | recovered => "recovered"
  | mandateRevoked => "mandate_revoked"
  | attemptCap => "attempt_cap"
  | optOut => "opt_out"
  | humanOverride => "human_override"

/-- The status that a stop for this reason leaves. -/
def status : StopReason → CaseStatus
  | recovered => .recovered
  | _ => .stopped

/-- Only a recovery leaves the case recovered. -/
theorem status_eq (reason : StopReason) :
    reason.status = if reason.value = "recovered" then .recovered else .stopped := by
  cases reason <;> rfl

end StopReason

def isCaseStopped (case : CaseRow) : Bool :=
  case.status = .stopped || case.status = .recovered

theorem isCaseStopped_eq_false_iff {case : CaseRow} :
    isCaseStopped case = false ↔ case.status = .opened ∨ case.status = .blocked := by
  cases h : case.status <;> simp [isCaseStopped, h]

/-- The row that `apply_stop` appends. -/
def stopFact (caseId : String) (reason : StopReason) (policyVersion : String) : LedgerFact where
  caseId
  kind := .stop
  actor := .system
  payload := [("stop_reason", .str reason.value)]
  reasonCode := reason.value
  policyVersion

def stoppedCase (case : CaseRow) (reason : StopReason) : CaseRow :=
  { case with status := reason.status, stopReason := some reason.value }

/-- `apply_stop`: the terminal write. -/
def applyStop (s : Session) (case : CaseRow) (reason : StopReason) (policyVersion : String) :
    CaseRow × Session :=
  (stoppedCase case reason,
    (s.add (stoppedCase case reason)).appendLedger (stopFact case.id reason policyVersion))

theorem applyStop_eq {s : Session} {case : CaseRow} (h : s.Holds case) (reason : StopReason)
    (policyVersion : String) :
    applyStop s case reason policyVersion = (stoppedCase case reason,
      s.perform ⟨stoppedCase case reason, [stopFact case.id reason policyVersion], []⟩) := by
  have hid : (stoppedCase case reason).id = case.id := rfl
  have hwrite := h.add_record hid [stopFact case.id reason policyVersion]
  rw [applyStop, ← hwrite]
  rfl

end RecoveryAgent.Guard
