import RecoveryAgent.Ledger.Writer

/-!
# What a request writes

A request that works on one loaded case leaves three things: the case row as it
is written back, the facts it has appended, and the executor calls it has made.
Every statement of the services that writes has this form, and writes on one
case compose, so the session after a request is the session before it with one
`Effect` performed.
-/

namespace RecoveryAgent.Ledger

open Library Python Policy

structure Effect where
  case : CaseRow
  facts : List LedgerFact := []
  calls : List ExecutorCall := []

namespace Session

def perform (s : Session) (e : Effect) : Session where
  db :=
    { cases := s.db.cases.set e.case
      ledger := (s.record e.facts).db.ledger
      processed := s.db.processed }
  utcnow := s.utcnow
  calls := s.calls ++ e.calls

/-- The session holds the row as the request has it in hand. -/
def Holds (s : Session) (case : CaseRow) : Prop := s.getCase case.id = some case

@[simp] theorem perform_history (s : Session) (e : Effect) :
    (s.perform e).db.history = s.db.history ++ e.facts.map (·.toLedgerColumns) :=
  record_history s e.facts

@[simp] theorem perform_processed (s : Session) (e : Effect) :
    (s.perform e).db.processed = s.db.processed := rfl

@[simp] theorem perform_calls (s : Session) (e : Effect) :
    (s.perform e).calls = s.calls ++ e.calls := rfl

@[simp] theorem perform_utcnow (s : Session) (e : Effect) :
    (s.perform e).utcnow = s.utcnow := rfl

theorem Holds.perform {s : Session} {case : CaseRow} (h : s.Holds case) {e : Effect}
    (he : e.case.id = case.id) : (s.perform e).Holds e.case := by
  have hkey : s.db.cases.get? (Keyed.key e.case) = some case := by
    change s.db.cases.get? e.case.id = some case
    rw [he]
    exact h
  exact Table.get?_set_self hkey

theorem perform_getCase_of_ne (s : Session) (e : Effect) {caseId : String}
    (h : caseId ≠ e.case.id) : (s.perform e).getCase caseId = s.getCase caseId :=
  Table.get?_set_of_ne _ h

/-- The facts go to the trail of their case. -/
theorem perform_trail (s : Session) {e : Effect} {caseId : String}
    (hown : ∀ f ∈ e.facts, f.caseId = caseId) :
    (s.perform e).db.trail caseId = s.db.trail caseId ++ e.facts.map (·.toLedgerColumns) := by
  have hall : (e.facts.map (·.toLedgerColumns)).filter (fun c => c.caseId = caseId) =
      e.facts.map (·.toLedgerColumns) := by
    simpa using hown
  rw [Db.trail, perform_history, List.filter_append, hall, Db.trail]

/-- An entry of the trail is an old one or one of the facts. -/
theorem exists_trail_perform (s : Session) {e : Effect} {caseId : String}
    (hown : ∀ f ∈ e.facts, f.caseId = caseId) (p : LedgerColumns → Prop) :
    (∃ c ∈ (s.perform e).db.trail caseId, p c) ↔
      (∃ c ∈ s.db.trail caseId, p c) ∨ ∃ f ∈ e.facts, p f.toLedgerColumns := by
  rw [s.perform_trail hown]
  simp only [List.mem_append, or_and_right, exists_or, List.mem_map]
  apply or_congr_right
  constructor
  · rintro ⟨_, ⟨f, hf, rfl⟩, hp⟩
    exact ⟨f, hf, hp⟩
  · rintro ⟨f, hf, hp⟩
    exact ⟨_, ⟨f, hf, rfl⟩, hp⟩

/-- The rows of the case, numbered from the next number on. -/
theorem perform_rowsOf (s : Session) {e : Effect} {caseId : String}
    (hown : ∀ f ∈ e.facts, f.caseId = caseId) :
    (s.perform e).db.rowsOf caseId = s.db.rowsOf caseId ++ s.recorded e.facts := by
  have hall : (s.recorded e.facts).filter (fun row => row.caseId = caseId) =
      s.recorded e.facts := by
    rw [List.filter_eq_self]
    intro row hrow
    obtain ⟨f, hf, n, rfl⟩ := Journal.mem_numbered hrow
    exact decide_eq_true (hown f hf)
  have hrows : (s.perform e).db.ledger.rows = s.db.ledger.rows ++ s.recorded e.facts :=
    record_rows s e.facts
  rw [Db.rowsOf, hrows, List.filter_append, hall, Db.rowsOf]

theorem perform_rowsOf_of_ne (s : Session) {e : Effect} {caseId other : String}
    (hown : ∀ f ∈ e.facts, f.caseId = caseId) (hne : other ≠ caseId) :
    (s.perform e).db.rowsOf other = s.db.rowsOf other := by
  have hnone : (s.recorded e.facts).filter (fun row => row.caseId = other) = [] := by
    rw [List.filter_eq_nil_iff]
    intro row hrow
    obtain ⟨f, hf, n, rfl⟩ := Journal.mem_numbered hrow
    have hother : f.caseId ≠ other := fun h => hne (h.symm.trans (hown f hf))
    exact fun h => hother (of_decide_eq_true h)
  have hrows : (s.perform e).db.ledger.rows = s.db.ledger.rows ++ s.recorded e.facts :=
    record_rows s e.facts
  rw [Db.rowsOf, hrows, List.filter_append, hnone, List.append_nil, Db.rowsOf]

theorem perform_trail_of_ne (s : Session) {e : Effect} {caseId other : String}
    (hown : ∀ f ∈ e.facts, f.caseId = caseId) (hne : other ≠ caseId) :
    (s.perform e).db.trail other = s.db.trail other := by
  have hrows := s.perform_rowsOf_of_ne hown hne
  have htrail : ∀ db : Db, db.trail other = (db.rowsOf other).map (·.toLedgerColumns) := by
    intro db
    rw [Db.trail, Db.history, Db.rowsOf, List.filter_map]
    rfl
  rw [htrail, htrail, hrows]

/-- Effects on one case compose. -/
theorem perform_perform (s : Session) {e e' : Effect} (h : e.case.id = e'.case.id) :
    (s.perform e).perform e' =
      s.perform ⟨e'.case, e.facts ++ e'.facts, e.calls ++ e'.calls⟩ := by
  have hcases : (s.db.cases.set e.case).set e'.case = s.db.cases.set e'.case :=
    Table.set_set _ h
  have hledger : ((s.perform e).record e'.facts).db.ledger =
      (s.record (e.facts ++ e'.facts)).db.ledger := by
    rw [record_append]
    apply record_ledger_congr
    · rfl
    · exact (record_utcnow s e.facts).symm
  unfold perform at hledger ⊢
  simp only [hcases, hledger, List.append_assoc]

theorem add_eq_perform (s : Session) (case : CaseRow) :
    s.add case = s.perform ⟨case, [], []⟩ := by
  simp [perform, add]

/-- Nothing is written when a held row is written back as it is. -/
theorem Holds.perform_idle {s : Session} {case : CaseRow} (h : s.Holds case) :
    s.perform ⟨case, [], []⟩ = s := by
  have hcases : s.db.cases.set case = s.db.cases := Table.set_eq_self h
  rw [← add_eq_perform, add, hcases]

theorem Holds.record_eq_perform {s : Session} {case : CaseRow} (h : s.Holds case)
    (facts : List LedgerFact) : s.record facts = s.perform ⟨case, facts, []⟩ := by
  have hcases : s.db.cases.set case = s.db.cases := Table.set_eq_self h
  have hdb : (s.record facts).db =
      ⟨(s.record facts).db.cases, (s.record facts).db.ledger, (s.record facts).db.processed⟩ :=
    rfl
  rw [record_cases, record_processed] at hdb
  have hrecord : s.record facts =
      ⟨(s.record facts).db, (s.record facts).utcnow, (s.record facts).calls⟩ := rfl
  rw [hrecord, record_utcnow, record_calls, hdb, Session.perform, hcases, List.append_nil]

/-- Writing the case and then appending is one effect. -/
theorem Holds.add_record {s : Session} {case case' : CaseRow} (h : s.Holds case)
    (hid : case'.id = case.id) (facts : List LedgerFact) :
    (s.add case').record facts = s.perform ⟨case', facts, []⟩ := by
  have hheld : (s.perform ⟨case', [], []⟩).Holds case' := h.perform hid
  rw [add_eq_perform, hheld.record_eq_perform, perform_perform]
  · rfl
  · rfl

/-- Appending and then writing the case is one effect. -/
theorem Holds.record_add {s : Session} {case case' : CaseRow} (h : s.Holds case)
    (hid : case'.id = case.id) (facts : List LedgerFact) :
    (s.record facts).add case' = s.perform ⟨case', facts, []⟩ := by
  rw [h.record_eq_perform, add_eq_perform, perform_perform]
  · simp
  · exact hid.symm

theorem Holds.call_eq_perform {s : Session} {case : CaseRow} (h : s.Holds case)
    (caseId : String) (action : Action) (result : Fields) :
    s.call caseId action result = s.perform ⟨case, [], [⟨caseId, action, result⟩]⟩ := by
  have hcases : s.db.cases.set case = s.db.cases := Table.set_eq_self h
  simp [call, Session.perform, hcases]

end Session

end RecoveryAgent.Ledger
