import RecoveryAgent.Ledger.Effect
import RecoveryAgent.Python.Errors

/-!
# Ledger views

`LedgerEntryView` of `ledger/schemas.py` and `list_ledger` of `ledger/reader.py`: the trail of
a case as its readers get it. A later row of the case is a later view.
-/

namespace RecoveryAgent.Ledger

open Library Python

def LedgerActor.value : LedgerActor → String
  | system => "system"
  | policy => "policy"
  | llm => "llm"
  | human => "human"

def GateResult.value : GateResult → String
  | passed => "pass"
  | blocked => "block"

/-- One append-only audit fact, as returned to callers. -/
structure LedgerEntryView where
  seq : ℕ
  caseId : String
  atTime : DateTime
  kind : LedgerKind
  actor : LedgerActor
  policyVersion : String
  payload : Fields
  reasonCode : String
  gateName : Option String := none
  gateResult : Option GateResult := none

def LedgerEntryRow.view (row : LedgerEntryRow) : LedgerEntryView where
  seq := row.seq
  caseId := row.caseId
  atTime := row.atTime
  kind := row.kind
  actor := row.actor
  policyVersion := row.policyVersion
  payload := row.payload
  reasonCode := row.reasonCode
  gateName := row.gateName
  gateResult := row.gateResult

/-- `list_ledger`: the rows of a case in the order of their numbers. -/
def listLedger (s : Session) (caseId : String) : List LedgerEntryView :=
  (s.db.rowsOf caseId).map LedgerEntryRow.view

end RecoveryAgent.Ledger
