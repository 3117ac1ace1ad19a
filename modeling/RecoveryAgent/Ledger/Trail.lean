import Mathlib.Data.List.DropRight
import RecoveryAgent.Ledger.Effect

/-!
# Reading a status off a trail

The ledger is the story of a case: `schemas.py` notes that a status could be
derived by folding it. Here is that fold. The last `stop` row decides, and
without one the latest batch of six `gate_check` rows does.
-/

namespace RecoveryAgent.Ledger

def ofKind (kind : LedgerKind) (trail : List LedgerColumns) : List LedgerColumns :=
  trail.filter fun e => e.kind = kind

def lastStop (trail : List LedgerColumns) : Option LedgerColumns :=
  (ofKind .stop trail).getLast?

/-- The gate rows of the latest pipeline run: the last six. -/
def latestBatch (trail : List LedgerColumns) : List LedgerColumns :=
  (ofKind .gateCheck trail).rtake 6

def hasBlock (trail : List LedgerColumns) : Bool :=
  (latestBatch trail).any fun e => e.gateResult = some .blocked

/-- The status that the trail tells. -/
def statusOf (trail : List LedgerColumns) : CaseStatus :=
  match lastStop trail with
  | some e => if e.reasonCode = "recovered" then .recovered else .stopped
  | none => if hasBlock trail then .blocked else .opened

def stopReasonOf (trail : List LedgerColumns) : Option String :=
  (lastStop trail).map (·.reasonCode)

theorem ofKind_append (kind : LedgerKind) (trail rows : List LedgerColumns) :
    ofKind kind (trail ++ rows) = ofKind kind trail ++ ofKind kind rows :=
  List.filter_append ..

theorem ofKind_eq_nil {kind : LedgerKind} {rows : List LedgerColumns}
    (h : ∀ e ∈ rows, e.kind ≠ kind) : ofKind kind rows = [] := by
  simpa [ofKind] using h

theorem ofKind_eq_self {kind : LedgerKind} {rows : List LedgerColumns}
    (h : ∀ e ∈ rows, e.kind = kind) : ofKind kind rows = rows := by
  simpa [ofKind] using h

theorem lastStop_append_of_no_stop {trail rows : List LedgerColumns}
    (h : ∀ e ∈ rows, e.kind ≠ .stop) : lastStop (trail ++ rows) = lastStop trail := by
  rw [lastStop, ofKind_append, ofKind_eq_nil h, List.append_nil, lastStop]

theorem lastStop_concat {trail : List LedgerColumns} {e : LedgerColumns} (h : e.kind = .stop) :
    lastStop (trail ++ [e]) = some e := by
  have hsingle : ofKind .stop [e] = [e] := ofKind_eq_self (by simpa using h)
  rw [lastStop, ofKind_append, hsingle, List.getLast?_append, List.getLast?_singleton,
    Option.some_or]

theorem lastStop_eq_none_iff {trail : List LedgerColumns} :
    lastStop trail = none ↔ ∀ e ∈ trail, e.kind ≠ .stop := by
  simp [lastStop, ofKind]

theorem hasBlock_append_of_no_gate {trail rows : List LedgerColumns}
    (h : ∀ e ∈ rows, e.kind ≠ .gateCheck) : hasBlock (trail ++ rows) = hasBlock trail := by
  rw [hasBlock, latestBatch, ofKind_append, ofKind_eq_nil h, List.append_nil, hasBlock,
    latestBatch]

/-- A batch of six gate rows, with no gate row after it, is the latest batch. -/
theorem hasBlock_append_of_batch {trail batch rows : List LedgerColumns}
    (hbatch : ∀ e ∈ batch, e.kind = .gateCheck) (hlength : batch.length = 6)
    (hrows : ∀ e ∈ rows, e.kind ≠ .gateCheck) :
    hasBlock (trail ++ (batch ++ rows)) = batch.any fun e => e.gateResult = some .blocked := by
  have hlatest : latestBatch (trail ++ (batch ++ rows)) = batch := by
    rw [latestBatch, ofKind_append, ofKind_append, ofKind_eq_nil hrows, ofKind_eq_self hbatch,
      List.append_nil, ← hlength]
    simp [List.rtake]
  rw [hasBlock, hlatest]

theorem hasBlock_append_of_passed {trail rows : List LedgerColumns} (h : hasBlock trail = false)
    (hrows : ∀ e ∈ rows, e.kind = .gateCheck → e.gateResult ≠ some .blocked) :
    hasBlock (trail ++ rows) = false := by
  rw [hasBlock, List.any_eq_false] at h ⊢
  intro e he
  rw [latestBatch, ofKind_append, List.rtake, List.drop_append, List.length_append] at he
  rcases List.mem_append.1 he with he | he
  · exact h e (List.drop_subset_drop_left _ (by omega) he)
  · obtain ⟨hmem, hkind⟩ := List.mem_filter.1 (List.mem_of_mem_drop he)
    simpa using hrows e hmem (of_decide_eq_true hkind)

end RecoveryAgent.Ledger
