import RecoveryAgent.Library.Table
import RecoveryAgent.Policy.Schemas

/-!
# The ledger's tables

The rows of `ledger/models.py` over the enumerations of `ledger/schemas.py`,
the database they make up, and the session a request works in. A payload is
kept as the dictionary that `json.dumps` was given, which is what `json.loads`
returns for the stored text. The time stamps `created_at` and `updated_at` of a
case are read by no modelled function and are left out.
-/

namespace RecoveryAgent.Ledger

open Library Python Policy

inductive EventSource where
  | razorpayWebhook
  | simulator
  deriving DecidableEq, Repr

inductive Rail where
  | card
  | upiAutopay
  | enach
  deriving DecidableEq, Repr

inductive MandateState where
  | active
  | paused
  | revoked
  | expired
  | unknown
  deriving DecidableEq, Repr

/-- Mutable status of a case; `opened` is the value `open`. -/
inductive CaseStatus where
  | opened
  | blocked
  | stopped
  | recovered
  deriving DecidableEq, Repr

inductive LedgerKind where
  | event
  | classification
  | decision
  | gateCheck
  | action
  | outcome
  | stop
  | memoryRetrieval
  deriving DecidableEq, Repr

inductive LedgerActor where
  | system
  | policy
  | llm
  | human
  deriving DecidableEq, Repr

inductive GateResult where
  | passed
  | blocked
  deriving DecidableEq, Repr

def EventSource.value : EventSource → String
  | razorpayWebhook => "razorpay_webhook"
  | simulator => "simulator"

def Rail.value : Rail → String
  | card => "card"
  | upiAutopay => "upi_autopay"
  | enach => "enach"

def MandateState.value : MandateState → String
  | active => "active"
  | paused => "paused"
  | revoked => "revoked"
  | expired => "expired"
  | unknown => "unknown"

/-- A row of `cases`. The counters start at zero and are only incremented; the
amount comes from an event that was validated to be non-negative. -/
structure CaseRow where
  id : String
  status : CaseStatus := .opened
  failureClass : Option String := none
  score : Option PyFloat := none
  attemptsUsed : ℕ := 0
  contactsUsed : ℕ := 0
  stopReason : Option String := none
  lastAction : Option String := none
  payerRef : String
  amountPaise : ℕ
  rail : Rail
  subscriptionId : Option String := none
  mandateId : Option String := none
  deriving DecidableEq, Repr

/-- What every writer of an `action` row keeps: a stored fingerprint is a
string, and a stored action is an object whose fingerprint fields are `None`,
ints or strings. Reading the row back then needs no other Python text. -/
structure ActionReadable (payload : Fields) : Prop where
  fingerprint : ∀ v, payload.get? "action_fingerprint" = some v → v.truthy = true →
    ∃ s, v = .str s
  action : ∀ v, payload.get? "action" = some v → v.truthy = true →
    ∃ a : Fields, v = .obj a ∧
      ∀ key ∈ ["verb", "day_offset", "channel", "reason_code"], ∀ w, a.get? key = some w →
        w.text?.isSome = true

theorem ActionReadable.of_modelDump {payload : Fields} {a : Action}
    (haction : payload.get? "action" = some (.obj a.modelDump))
    (hfingerprint : ∀ v, payload.get? "action_fingerprint" = some v → ∃ s, v = .str s) :
    ActionReadable payload where
  fingerprint := fun v hv _ => hfingerprint v hv
  action := by
    intro v hv _
    cases haction.symm.trans hv
    obtain ⟨hverb, hday, hchannel, hreason⟩ := a.modelDump_get?
    refine ⟨_, rfl, ?_⟩
    intro key hkey w hw
    simp only [List.mem_cons, List.not_mem_nil, or_false] at hkey
    rcases hkey with rfl | rfl | rfl | rfl
    · cases hverb.symm.trans hw
      rfl
    · cases hday.symm.trans hw
      exact Json.text?_ofOptNat_isSome _
    · cases hchannel.symm.trans hw
      rfl
    · cases hreason.symm.trans hw
      rfl

/-- The columns of `ledger_entries` other than its number and its time. -/
structure LedgerColumns where
  caseId : String
  kind : LedgerKind
  actor : LedgerActor
  payload : Fields
  reasonCode : String := ""
  policyVersion : String := "unset"
  gateName : Option String := none
  gateResult : Option GateResult := none
  readable : kind = .action → ActionReadable payload := by nofun

/-- What `append_ledger` is given. Without a time the row gets `utcnow()`. -/
structure LedgerFact extends LedgerColumns where
  atTime : Option DateTime := none

structure LedgerEntryRow extends LedgerColumns where
  seq : ℕ
  atTime : DateTime

structure ProcessedEventRow where
  eventId : String
  caseId : String
  receivedAt : DateTime
  deriving DecidableEq, Repr

instance : Keyed CaseRow String := ⟨CaseRow.id⟩

instance : Keyed ProcessedEventRow String := ⟨ProcessedEventRow.eventId⟩

instance : Sequenced LedgerEntryRow := ⟨LedgerEntryRow.seq⟩

/-- The row written for a fact under number `n`; `utcnow` is the clock as it
reads when the row of a given number is written. -/
def LedgerFact.toRow (utcnow : ℕ → DateTime) (f : LedgerFact) (n : ℕ) : LedgerEntryRow where
  toLedgerColumns := f.toLedgerColumns
  seq := n
  atTime := f.atTime.getD (utcnow n)

@[simp] theorem LedgerFact.toRow_columns (utcnow : ℕ → DateTime) (f : LedgerFact) (n : ℕ) :
    (f.toRow utcnow n).toLedgerColumns = f.toLedgerColumns := rfl

/-- The three tables. -/
structure Db where
  cases : Table CaseRow
  ledger : Journal LedgerEntryRow
  processed : Table ProcessedEventRow

/-- The database before the first request. -/
def Db.empty : Db := ⟨Table.empty, Journal.empty, Table.empty⟩

/-- The ledger without numbers and times, oldest entry first. -/
def Db.history (db : Db) : List LedgerColumns := db.ledger.rows.map (·.toLedgerColumns)

/-- The part of the ledger that belongs to one case. -/
def Db.trail (db : Db) (caseId : String) : List LedgerColumns :=
  db.history.filter fun e => e.caseId = caseId

theorem Db.trail_congr {db db' : Db} (h : db.ledger = db'.ledger) (caseId : String) :
    db.trail caseId = db'.trail caseId := by
  rw [Db.trail, Db.history, h, Db.trail, Db.history]

/-- The rows that belong to one case. -/
def Db.rowsOf (db : Db) (caseId : String) : List LedgerEntryRow :=
  db.ledger.rows.filter fun row => row.caseId = caseId

/-- The database with one case and no story. -/
def Db.single (case : CaseRow) : Db :=
  ⟨⟨[case], List.nodup_singleton _⟩, Journal.empty, Table.empty⟩

/-- A call of an executor: the case and action it was given and the dictionary
it returned. -/
structure ExecutorCall where
  caseId : String
  action : Action
  result : Fields

/-- What a request works on: the tables as its transaction sees them, the clock,
and the executor calls made so far. The calls are effects outside the database,
so no rollback takes them back. -/
structure Session where
  db : Db
  utcnow : ℕ → DateTime
  calls : List ExecutorCall := []

def Session.getCase (s : Session) (caseId : String) : Option CaseRow := s.db.cases.get? caseId

/-- `session.add(case)` on a loaded row: its columns are flushed. -/
def Session.add (s : Session) (case : CaseRow) : Session :=
  { s with db := { s.db with cases := s.db.cases.set case } }

def Session.call (s : Session) (caseId : String) (action : Action) (result : Fields) : Session :=
  { s with calls := s.calls ++ [⟨caseId, action, result⟩] }

@[simp] theorem Session.call_db (s : Session) (caseId : String) (action : Action)
    (result : Fields) : (s.call caseId action result).db = s.db := rfl

@[simp] theorem Session.call_calls (s : Session) (caseId : String) (action : Action)
    (result : Fields) :
    (s.call caseId action result).calls = s.calls ++ [⟨caseId, action, result⟩] := rfl

@[simp] theorem Session.add_calls (s : Session) (case : CaseRow) :
    (s.add case).calls = s.calls := rfl

@[simp] theorem Session.add_history (s : Session) (case : CaseRow) :
    (s.add case).db.history = s.db.history := rfl

end RecoveryAgent.Ledger
