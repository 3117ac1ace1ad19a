import RecoveryAgent.Library.Commit
import RecoveryAgent.Runs.Requests

/-!
# Cases opened by concurrent webhooks

Each delivery of a failed payment is a transaction: it looks for its event among the
processed ones, writes its case, its ledger row and its mark into its own session,
and commits. Several deliveries of one event can all find it unprocessed; it is the
primary key of `processed_events` that lets only one of them commit.
-/

namespace RecoveryAgent.Runs

open Library Python Ledger

/-- One delivery of a failed payment, with the id that `new_case_id` makes up for it
and the time it is received at. -/
structure Delivery where
  newCaseId : String
  event : RiskEvent
  receivedAt : DateTime

namespace Delivery

def case (r : Delivery) : CaseRow := openedCase r.newCaseId r.event

def fact (r : Delivery) : LedgerFact := ingestFact r.newCaseId r.event

def mark (r : Delivery) : ProcessedEventRow := ⟨r.event.eventId, r.newCaseId, r.receivedAt⟩

end Delivery

/-- What a session has flushed and not committed. -/
structure Pending where
  cases : List CaseRow := []
  facts : List LedgerFact := []
  processed : List ProcessedEventRow := []

/-- The commit of a session: all of its rows, or none when a primary key is taken. -/
def Pending.commit (utcnow : ℕ → DateTime) (db : Db) (p : Pending) : Option Db :=
  match p.cases.foldlM Table.insert? db.cases, p.processed.foldlM Table.insert? db.processed with
  | some cases, some processed =>
      some ⟨cases, ((openSession utcnow db).record p.facts).db.ledger, processed⟩
  | _, _ => none

/-- `ingest_risk_event` and the commit of its caller, statement by statement. -/
def openingScript (utcnow : ℕ → DateTime) (r : Delivery) : Commit.Script Db Pending where
  check db := (db.processed.get? r.event.eventId).isNone
  blank := {}
  statements :=
    [fun p => { p with cases := p.cases ++ [r.case] },
      fun p => { p with facts := p.facts ++ [r.fact] },
      fun p => { p with processed := p.processed ++ [r.mark] }]
  commit := Pending.commit utcnow

section

variable {utcnow : ℕ → DateTime}

/-- A delivery commits exactly when both of its keys are free. -/
theorem openingScript_commit (r : Delivery) (db : Db) :
    (openingScript utcnow r).commit db (openingScript utcnow r).buffer =
      match db.cases.insert? r.case, db.processed.insert? r.mark with
      | some cases, some processed =>
          some ⟨cases, ((openSession utcnow db).record [r.fact]).db.ledger, processed⟩
      | _, _ => none := by
  change Pending.commit utcnow db ⟨[r.case], [r.fact], [r.mark]⟩ = _
  unfold Pending.commit
  simp only [List.foldlM_cons, List.foldlM_nil, bind_pure]

theorem committed_eq_some {r : Delivery} {db db' : Db}
    (h : (openingScript utcnow r).commit db (openingScript utcnow r).buffer = some db') :
    db'.cases.rows = db.cases.rows ++ [r.case] ∧
      db'.history = db.history ++ [r.fact.toLedgerColumns] ∧
        db'.processed.rows = db.processed.rows ++ [r.mark] := by
  rw [openingScript_commit] at h
  split at h
  · next cases processed hcases hprocessed =>
      cases h
      refine ⟨(Table.insert?_eq_some hcases).2, ?_, (Table.insert?_eq_some hprocessed).2⟩
      exact Session.record_history (openSession utcnow db) [r.fact]
  · cases h

/-- A delivery that nobody disturbs is the service with the commit of its caller. -/
theorem openingScript_alone (r : Delivery) (db : Db)
    (hreceived : r.receivedAt = utcnow (db.ledger.nextSeq + 1)) :
    (openingScript utcnow r).alone db = (serve utcnow db (.ingest r.newCaseId r.event)).1 := by
  have hingested := ingestRiskEvent_ingested (openSession utcnow db) r.newCaseId r.event
  have hmark : r.mark =
      ⟨r.event.eventId, r.newCaseId, (openSession utcnow db).utcnow
        ((openSession utcnow db).db.ledger.nextSeq + 1)⟩ := by
    rw [Delivery.mark, hreceived]
    rfl
  have hcheck : (openingScript utcnow r).check db =
      ((openSession utcnow db).findProcessed r.event.eventId).isNone := rfl
  unfold Commit.Script.alone
  rw [openingScript_commit, hcheck]
  simp only [serve]
  cases hresult : ingestRiskEvent (openSession utcnow db) r.newCaseId r.event with
  | error e =>
      rw [hresult] at hingested
      cases hingested with
      | taken unseen refused =>
          have hrefused : db.cases.insert? r.case = none := refused
          rw [unseen, hrefused]
          rfl
  | ok p =>
      rw [hresult] at hingested
      cases hingested with
      | duplicate seen =>
          rw [seen]
          rfl
      | @opened cases processed unseen inserted remembered =>
          have hinserted : db.cases.insert? r.case = some cases := inserted
          have hremembered : db.processed.insert? r.mark = some processed := by
            rw [hmark]
            exact remembered
          rw [unseen, hinserted, hremembered]
          rfl

/-!
## What the commits leave
-/

variable {ι : Type*} {requests : ι → Delivery}

/-- The tables hold what they held at first and the rows of the deliveries that have
committed, in the order of the commits. -/
theorem applied_rows {db d : Db} {done : List ι}
    (h : Commit.Applied (fun i => openingScript utcnow (requests i)) db done d) :
    d.cases.rows = db.cases.rows ++ done.map (fun i => (requests i).case) ∧
      d.history = db.history ++ done.map (fun i => (requests i).fact.toLedgerColumns) ∧
        d.processed.rows = db.processed.rows ++ done.map (fun i => (requests i).mark) := by
  induction h with
  | nil => simp
  | concat _ taken ih =>
      obtain ⟨hcases, hhistory, hprocessed⟩ := committed_eq_some taken
      rw [hcases, hhistory, hprocessed, ih.1, ih.2.1, ih.2.2]
      simp

/-- The `event` row of a payment event. -/
def tellsOf (eventId : String) (e : LedgerColumns) : Bool :=
  e.kind = .event &&
    match e.payload.get? "event_id" with
    | some (.str stored) => stored = eventId
    | _ => false

/-- The case that the `event` row of a payment event belongs to. -/
def openedFor (d : Db) (eventId : String) (case : CaseRow) : Bool :=
  d.history.any fun e => tellsOf eventId e && e.caseId = case.id

def processedIds (d : Db) : List String := d.processed.rows.map (·.eventId)

/-- The ledger tells of an event no more often than it is processed. -/
def ToldWhenProcessed (d : Db) : Prop :=
  ∀ eventId, d.history.countP (tellsOf eventId) ≤ (processedIds d).count eventId

theorem tellsOf_fact (r : Delivery) (eventId : String) :
    tellsOf eventId r.fact.toLedgerColumns = decide (r.event.eventId = eventId) := rfl

theorem applied_told {db d : Db} {done : List ι} (hdb : ToldWhenProcessed db)
    (h : Commit.Applied (fun i => openingScript utcnow (requests i)) db done d) :
    ToldWhenProcessed d := by
  obtain ⟨-, hhistory, hprocessed⟩ := applied_rows h
  intro eventId
  have hids : processedIds d =
      processedIds db ++ done.map fun i => (requests i).event.eventId := by
    rw [processedIds, hprocessed, List.map_append, List.map_map]
    rfl
  have hnew : (done.map fun i => (requests i).fact.toLedgerColumns).countP (tellsOf eventId) =
      (done.map fun i => (requests i).event.eventId).count eventId := by
    rw [List.count, List.countP_map, List.countP_map]
    apply List.countP_congr
    intro i _
    simp [tellsOf_fact]
  rw [hhistory, hids, List.countP_append, List.count_append, hnew]
  exact Nat.add_le_add_right (hdb eventId) _

theorem told_once {d : Db} (h : ToldWhenProcessed d) (eventId : String) :
    d.history.countP (tellsOf eventId) ≤ 1 :=
  (h eventId).trans (List.nodup_iff_count_le_one.1 d.processed.nodup eventId)

theorem opened_once {d : Db} (h : ToldWhenProcessed d) (eventId : String) :
    d.cases.rows.countP (openedFor d eventId) ≤ 1 := by
  apply d.cases.countP_le_one
  intro a _ b _ ha hb
  obtain ⟨e, he, htells⟩ := List.any_eq_true.1 ha
  obtain ⟨f, hf, ftells⟩ := List.any_eq_true.1 hb
  rw [Bool.and_eq_true, decide_eq_true_iff] at htells ftells
  have hrow : e = f := eq_of_countP_le_one (told_once h eventId) he hf htells.1 ftells.1
  have hids : a.id = b.id := by rw [← htells.2, ← ftells.2, hrow]
  exact hids

end

/-- The deliveries after an interleaving of their steps. -/
abbrev interleavedOpenings {ι : Type*} [DecidableEq ι] (utcnow : ℕ → DateTime) (db : Db)
    (requests : ι → Delivery) (is : List ι) : Commit.Shared ι Db Pending :=
  Run.final (Commit.step fun i => openingScript utcnow (requests i)) (Commit.start db) is

/-- The deliveries that have committed, in order. -/
abbrev committedOpenings {ι : Type*} [DecidableEq ι] (utcnow : ℕ → DateTime) (db : Db)
    (requests : ι → Delivery) (is : List ι) : List ι :=
  Run.emitted (Commit.step fun i => openingScript utcnow (requests i)) (Commit.start db) is

/-- The steps of one delivery alone leave what the service leaves. -/
theorem interleavedOpenings_alone {ι : Type*} [DecidableEq ι] (utcnow : ℕ → DateTime) (db : Db)
    (requests : ι → Delivery) (i : ι)
    (hreceived : (requests i).receivedAt = utcnow (db.ledger.nextSeq + 1)) :
    (interleavedOpenings utcnow db requests (List.replicate
      ((openingScript utcnow (requests i)).statements.length + 2) i)).store =
        (serve utcnow db (.ingest (requests i).newCaseId (requests i).event)).1 := by
  have halone : (interleavedOpenings utcnow db requests (List.replicate
      ((openingScript utcnow (requests i)).statements.length + 2) i)).store =
        (openingScript utcnow (requests i)).alone db :=
    Commit.final_alone db i
  exact halone.trans (openingScript_alone (requests i) db hreceived)

/-- Nothing in the tables belongs to the case. -/
def Untouched (d : Db) (caseId : String) : Prop :=
  d.cases.get? caseId = none ∧ ∀ e ∈ d.history, e.caseId ≠ caseId

/-- A case id that no committed delivery has made up stays untouched. -/
theorem untouched_of_applied {ι : Type*} {utcnow : ℕ → DateTime} {requests : ι → Delivery}
    {db d : Db} {done : List ι}
    (h : Commit.Applied (fun i => openingScript utcnow (requests i)) db done d) {caseId : String}
    (hdb : Untouched db caseId) (hdone : ∀ i ∈ done, (requests i).newCaseId ≠ caseId) :
    Untouched d caseId := by
  obtain ⟨hcases, hhistory, -⟩ := applied_rows h
  constructor
  · rw [Table.get?_eq_none_iff, hcases]
    intro case hcase
    rcases List.mem_append.1 hcase with hcase | hcase
    · exact Table.get?_eq_none_iff.1 hdb.1 case hcase
    · obtain ⟨i, hi, rfl⟩ := List.mem_map.1 hcase
      exact hdone i hi
  · rw [hhistory]
    intro e he
    rcases List.mem_append.1 he with he | he
    · exact hdb.2 e he
    · obtain ⟨i, hi, rfl⟩ := List.mem_map.1 he
      exact hdone i hi

/-- Whatever the interleaving of whatever deliveries: for each event at most one case
and one `event` row are committed; what is committed beyond the start is what the
committed deliveries have written, each once; and a delivery that is not committed
leaves its case id untouched, unless a committed one has made up the same. -/
theorem opened_exactly_once {ι : Type*} [DecidableEq ι] (utcnow : ℕ → DateTime) (db : Db)
    (hdb : ToldWhenProcessed db) (requests : ι → Delivery) (is : List ι) :
    (∀ eventId,
      (interleavedOpenings utcnow db requests is).store.history.countP (tellsOf eventId) ≤ 1 ∧
      (interleavedOpenings utcnow db requests is).store.cases.rows.countP
        (openedFor (interleavedOpenings utcnow db requests is).store eventId) ≤ 1) ∧
    ((interleavedOpenings utcnow db requests is).store.cases.rows =
        db.cases.rows ++ (committedOpenings utcnow db requests is).map (fun i =>
          (requests i).case) ∧
      (interleavedOpenings utcnow db requests is).store.history =
        db.history ++ (committedOpenings utcnow db requests is).map (fun i =>
          (requests i).fact.toLedgerColumns)) ∧
    (committedOpenings utcnow db requests is).Nodup ∧
    (∀ i, (interleavedOpenings utcnow db requests is).phase i = .committed ↔
      i ∈ committedOpenings utcnow db requests is) ∧
    ∀ i, (interleavedOpenings utcnow db requests is).phase i ≠ .committed →
      (∀ j, (interleavedOpenings utcnow db requests is).phase j = .committed →
        (requests j).newCaseId ≠ (requests i).newCaseId) →
      Untouched db (requests i).newCaseId →
        Untouched (interleavedOpenings utcnow db requests is).store (requests i).newCaseId := by
  have hordered : Commit.Ordered (fun i => openingScript utcnow (requests i)) db
      (interleavedOpenings utcnow db requests is) (committedOpenings utcnow db requests is) :=
    Commit.final_ordered db is
  obtain ⟨hcases, hhistory, -⟩ := applied_rows hordered.applied
  have htold := applied_told hdb hordered.applied
  refine ⟨?_, ⟨hcases, hhistory⟩, hordered.nodup, hordered.committed, ?_⟩
  · intro eventId
    exact ⟨told_once htold eventId, opened_once htold eventId⟩
  · intro i _ hothers huntouched
    apply untouched_of_applied hordered.applied huntouched
    intro j hj
    exact hothers j ((hordered.committed j).2 hj)

def twoDeliveries (second : Bool) : Delivery where
  newCaseId := if second then "case_2" else "case_1"
  event := cardEvent
  receivedAt := daytime

/-- Both check before either commits; the second to commit is rejected. -/
theorem opened_exactly_once_two_deliveries :
    (interleavedOpenings (fun _ => daytime) Db.empty twoDeliveries
        [false, true, false, true, false, true, false, true, true, false]).phase false =
          .rejected ∧
      Untouched (interleavedOpenings (fun _ => daytime) Db.empty twoDeliveries
        [false, true, false, true, false, true, false, true, true, false]).store "case_1" := by
  have hrejected : (interleavedOpenings (fun _ => daytime) Db.empty twoDeliveries
      [false, true, false, true, false, true, false, true, true, false]).phase false =
        .rejected := by rfl
  refine ⟨hrejected, ?_⟩
  have htold : ToldWhenProcessed Db.empty := by
    intro eventId
    exact Nat.zero_le _
  have hall := opened_exactly_once (fun _ => daytime) Db.empty htold twoDeliveries
    [false, true, false, true, false, true, false, true, true, false]
  apply hall.2.2.2.2 false
  · rw [hrejected]
    exact nofun
  · intro j hj
    cases j with
    | false =>
        rw [hrejected] at hj
        cases hj
    | true => decide
  · exact ⟨rfl, nofun⟩

end RecoveryAgent.Runs
