import RecoveryAgent.Ledger.Models

/-!
# Writing the ledger

The helpers of `ledger/writer.py`. Ledger rows are only ever appended; what a
list of appended facts does to the ledger is said once, for `record`.
-/

namespace RecoveryAgent.Ledger

open Library Python

/-- Why a service call raises. -/
inductive ServiceError where
  | integrity (table key : String)
  | noCaseForLink (plinkId : String)
  | caseNotFound (caseId : String)
  deriving DecidableEq, Repr

namespace Session

/-- `append_ledger`: one row under the next number. -/
def appendLedger (s : Session) (f : LedgerFact) : Session :=
  { s with
    db := { s.db with ledger := s.db.ledger.append (f.toRow s.utcnow) fun _ => rfl } }

/-- One `append_ledger` for each fact, in order. -/
def record (s : Session) (facts : List LedgerFact) : Session := facts.foldl appendLedger s

/-- The rows that recording the facts writes. -/
def recorded (s : Session) (facts : List LedgerFact) : List LedgerEntryRow :=
  Journal.numbered (LedgerFact.toRow s.utcnow) s.db.ledger.nextSeq facts

@[simp] theorem record_nil (s : Session) : s.record [] = s := rfl

@[simp] theorem record_cons (s : Session) (f : LedgerFact) (fs : List LedgerFact) :
    s.record (f :: fs) = (s.appendLedger f).record fs := rfl

theorem record_append (s : Session) (fs gs : List LedgerFact) :
    s.record (fs ++ gs) = (s.record fs).record gs :=
  List.foldl_append

@[simp] theorem appendLedger_cases (s : Session) (f : LedgerFact) :
    (s.appendLedger f).db.cases = s.db.cases := rfl

@[simp] theorem appendLedger_processed (s : Session) (f : LedgerFact) :
    (s.appendLedger f).db.processed = s.db.processed := rfl

@[simp] theorem appendLedger_calls (s : Session) (f : LedgerFact) :
    (s.appendLedger f).calls = s.calls := rfl

@[simp] theorem appendLedger_utcnow (s : Session) (f : LedgerFact) :
    (s.appendLedger f).utcnow = s.utcnow := rfl

theorem appendLedger_rows (s : Session) (f : LedgerFact) :
    (s.appendLedger f).db.ledger.rows =
      s.db.ledger.rows ++ [f.toRow s.utcnow s.db.ledger.nextSeq] := rfl

theorem appendLedger_nextSeq (s : Session) (f : LedgerFact) :
    (s.appendLedger f).db.ledger.nextSeq = s.db.ledger.nextSeq + 1 :=
  Journal.append_nextSeq _ _ fun _ => rfl

@[simp] theorem record_cases (s : Session) (fs : List LedgerFact) :
    (s.record fs).db.cases = s.db.cases := by
  induction fs generalizing s with
  | nil => rfl
  | cons f fs ih => rw [record_cons, ih, appendLedger_cases]

@[simp] theorem record_processed (s : Session) (fs : List LedgerFact) :
    (s.record fs).db.processed = s.db.processed := by
  induction fs generalizing s with
  | nil => rfl
  | cons f fs ih => rw [record_cons, ih, appendLedger_processed]

@[simp] theorem record_calls (s : Session) (fs : List LedgerFact) :
    (s.record fs).calls = s.calls := by
  induction fs generalizing s with
  | nil => rfl
  | cons f fs ih => rw [record_cons, ih, appendLedger_calls]

@[simp] theorem record_utcnow (s : Session) (fs : List LedgerFact) :
    (s.record fs).utcnow = s.utcnow := by
  induction fs generalizing s with
  | nil => rfl
  | cons f fs ih => rw [record_cons, ih, appendLedger_utcnow]

/-- What recording does to the ledger depends on the ledger and the clock
only. -/
theorem record_ledger_congr {s t : Session} (hledger : s.db.ledger = t.db.ledger)
    (hutcnow : s.utcnow = t.utcnow) (fs : List LedgerFact) :
    (s.record fs).db.ledger = (t.record fs).db.ledger := by
  induction fs generalizing s t with
  | nil => exact hledger
  | cons f fs ih =>
      apply ih
      · unfold appendLedger
        rw [hledger, hutcnow]
      · exact hutcnow

/-- The rows that recording adds, numbered from the next number on. -/
theorem record_rows (s : Session) (fs : List LedgerFact) :
    (s.record fs).db.ledger.rows = s.db.ledger.rows ++ s.recorded fs := by
  induction fs generalizing s with
  | nil => exact (List.append_nil _).symm
  | cons f fs ih =>
      rw [record_cons, ih, recorded, recorded, appendLedger_rows, appendLedger_nextSeq,
        appendLedger_utcnow, Journal.numbered_cons, List.append_assoc, List.singleton_append]

@[simp] theorem recorded_columns (s : Session) (fs : List LedgerFact) :
    (s.recorded fs).map (·.toLedgerColumns) = fs.map (·.toLedgerColumns) :=
  Journal.numbered_map _ _ _ (fun f n => f.toRow_columns s.utcnow n) _ _

@[simp] theorem record_history (s : Session) (fs : List LedgerFact) :
    (s.record fs).db.history = s.db.history ++ fs.map (·.toLedgerColumns) := by
  rw [Db.history, record_rows, List.map_append, recorded_columns]
  rfl

@[simp] theorem appendLedger_history (s : Session) (f : LedgerFact) :
    (s.appendLedger f).db.history = s.db.history ++ [f.toLedgerColumns] :=
  record_history s [f]

end Session

end RecoveryAgent.Ledger
