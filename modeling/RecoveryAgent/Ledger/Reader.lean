import Mathlib.Data.Finset.Insert
import RecoveryAgent.Ledger.Writer

/-!
# Reading the ledger

The fingerprint replay and the Payment Link lookup of `ledger/reader.py`, with
the fingerprint format that `guard/gates.py` shares with it.
-/

namespace RecoveryAgent.Ledger

open Python Policy

/-- `compose_fingerprint`: the one place where the format is fixed. -/
def composeFingerprint (caseId verb : String) (dayOffset : Json) (channel reasonCode : String) :
    String :=
  caseId ++ ":" ++ verb ++ ":" ++ dayOffset.text?.getD "" ++ ":" ++ channel ++ ":" ++ reasonCode

theorem composeFingerprint_ne_empty (caseId verb : String) (dayOffset : Json)
    (channel reasonCode : String) :
    composeFingerprint caseId verb dayOffset channel reasonCode ≠ "" := by
  intro h
  have hlength := congrArg String.length h
  simp [composeFingerprint] at hlength

def actionFingerprint (caseId : String) (a : Action) : String :=
  composeFingerprint caseId a.verb.value (.ofOptNat a.dayOffset) a.channel.value a.reasonCode

/-- `str(action.get(key, default))`. -/
def fieldText (a : Fields) (key default : String) : String :=
  match a.get? key with
  | none => default
  | some v => v.text?.getD ""

/-- The fingerprint that one `action` row stands for: the stored one, else the
one composed from the stored action, if there is any. -/
def replayedFingerprint (e : LedgerColumns) : Option String :=
  let stored := (e.payload.get? "action_fingerprint").getD .null
  if stored.truthy then stored.text?
  else
    match (e.payload.get? "action").getD .null with
    | .obj a =>
        if a.isEmpty then none
        else some (composeFingerprint e.caseId (fieldText a "verb" "")
          ((Fields.get? a "day_offset").getD .null) (fieldText a "channel" "none")
          (fieldText a "reason_code" ""))
    | _ => none

/-- `executed_fingerprints`: the fingerprints of the case's `action` rows. -/
def executedFingerprints (s : Session) (caseId : String) : Finset String :=
  ((s.db.trail caseId).filter fun e => e.kind = .action).foldl
    (fun found e =>
      match replayedFingerprint e with
      | some fp => insert fp found
      | none => found) ∅

theorem mem_foldl_replayed {fp : String} (es : List LedgerColumns) (found : Finset String) :
    fp ∈ es.foldl (fun found e =>
        match replayedFingerprint e with
        | some fp => insert fp found
        | none => found) found ↔
      fp ∈ found ∨ ∃ e ∈ es, replayedFingerprint e = some fp := by
  induction es generalizing found with
  | nil => simp
  | cons e es ih =>
      rw [List.foldl_cons, ih]
      cases h : replayedFingerprint e with
      | none => simp [h]
      | some fp' =>
          simp only [Finset.mem_insert, List.mem_cons, exists_eq_or_imp, h, Option.some_inj]
          rw [or_comm (a := fp = fp'), or_assoc, eq_comm (a := fp)]

/-- A fingerprint is replayed exactly when some `action` row of the case stands
for it. -/
theorem mem_executedFingerprints {s : Session} {caseId fp : String} :
    fp ∈ executedFingerprints s caseId ↔
      ∃ e ∈ s.db.trail caseId, e.kind = .action ∧ replayedFingerprint e = some fp := by
  rw [executedFingerprints, mem_foldl_replayed]
  simp [and_assoc]

/-- `str(payload.get("external_id") or "") == plink_id`. -/
def hasExternalId (e : LedgerColumns) (plinkId : String) : Bool :=
  let stored := (e.payload.get? "external_id").getD .null
  if stored.truthy then stored.text? = some plinkId else plinkId = ""

/-- `find_case_id_by_plink`: the case of the latest outcome with that link. -/
def findCaseIdByPlink (s : Session) (plinkId : String) : Option String :=
  (s.db.history.reverse.find? fun e => e.kind = .outcome && hasExternalId e plinkId).map
    (·.caseId)

end RecoveryAgent.Ledger
