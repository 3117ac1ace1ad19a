import RecoveryAgent.Library.Growth
import RecoveryAgent.Runs.StatusFold

/-!
# What no request takes back

Requests add rows to the ledger, cases and handled events, and go on from the cases that are
there. They never rewrite a row, never drop or exchange a case and never set a counter back,
and a case that is stopped stays stopped. Sound databases stay sound: what the ledger and
the handled events name is there, and the story of every case begins with the failure that
opened it.
-/

namespace RecoveryAgent.Runs

open Library Python Policy Ledger Guard Execute

/-- The row of a case as it may be found later. -/
structure Continues (case case' : CaseRow) : Prop where
  id : case'.id = case.id
  payerRef : case'.payerRef = case.payerRef
  amountPaise : case'.amountPaise = case.amountPaise
  rail : case'.rail = case.rail
  subscriptionId : case'.subscriptionId = case.subscriptionId
  mandateId : case'.mandateId = case.mandateId
  attemptsUsed : case.attemptsUsed ≤ case'.attemptsUsed
  contactsUsed : case.contactsUsed ≤ case'.contactsUsed
  stopped : isCaseStopped case = true → isCaseStopped case' = true
  recovered : case.status = .recovered → case'.status = .recovered

theorem Continues.refl (case : CaseRow) : Continues case case :=
  ⟨rfl, rfl, rfl, rfl, rfl, rfl, le_rfl, le_rfl, fun h => h, fun h => h⟩

theorem Continues.trans {a b c : CaseRow} (hab : Continues a b) (hbc : Continues b c) :
    Continues a c where
  id := hbc.id.trans hab.id
  payerRef := hbc.payerRef.trans hab.payerRef
  amountPaise := hbc.amountPaise.trans hab.amountPaise
  rail := hbc.rail.trans hab.rail
  subscriptionId := hbc.subscriptionId.trans hab.subscriptionId
  mandateId := hbc.mandateId.trans hab.mandateId
  attemptsUsed := hab.attemptsUsed.trans hbc.attemptsUsed
  contactsUsed := hab.contactsUsed.trans hbc.contactsUsed
  stopped := hbc.stopped ∘ hab.stopped
  recovered := hbc.recovered ∘ hab.recovered

/-- A status may be written over one that is no stop. -/
theorem continues_status {case : CaseRow} (h : isCaseStopped case = false) (status : CaseStatus)
    (stopReason : Option String) : Continues case { case with status, stopReason } where
  id := rfl
  payerRef := rfl
  amountPaise := rfl
  rail := rfl
  subscriptionId := rfl
  mandateId := rfl
  attemptsUsed := le_rfl
  contactsUsed := le_rfl
  stopped := fun hstopped => absurd (h.symm.trans hstopped) Bool.false_ne_true
  recovered := fun hrecovered => by
    rw [isCaseStopped, hrecovered] at h
    cases h

theorem continues_recovered (case : CaseRow) (stopReason : Option String) :
    Continues case { case with status := .recovered, stopReason } :=
  ⟨rfl, rfl, rfl, rfl, rfl, rfl, le_rfl, le_rfl, fun _ => rfl, fun _ => rfl⟩

theorem continues_reopened (case : CaseRow) : Continues case (reopened case) := by
  unfold reopened
  split
  · next hblocked =>
      refine continues_status ?_ .opened case.stopReason
      rw [isCaseStopped, hblocked]
      rfl
  · exact .refl case

theorem continues_counted (case : CaseRow) (action : Action) :
    Continues case (counted case action) := by
  unfold counted
  split
  · exact ⟨rfl, rfl, rfl, rfl, rfl, rfl, Nat.le_succ _, le_rfl, fun h => h, fun h => h⟩
  · split
    · exact ⟨rfl, rfl, rfl, rfl, rfl, rfl, le_rfl, Nat.le_succ _, fun h => h, fun h => h⟩
    · exact .refl case

theorem continues_execConduct (executor : Executor) (execMeta : ExecuteMeta)
    (policyVersion : String) (action : Action) (case : CaseRow) :
    Continues case (execConduct executor execMeta policyVersion action case).case := by
  unfold execConduct
  simp only
  split
  · exact continues_recovered case _
  · exact continues_counted case action

/-- What the pipeline leaves of a case, when its `execute_fn` goes on from the case. -/
theorem continues_verdict {s : Session} {case : CaseRow} {ctx : GuardContext}
    {conduct : Option (Action → CaseRow → Conduct)} {policyVersion : String} {audit : Fields}
    {e : Effect} (h : Verdict s case ctx conduct policyVersion audit e)
    (hconduct : ∀ act, conduct = some act → ∀ action c, Continues c (act action c).case) :
    Continues case e.case := by
  cases h with
  | stopped _ => exact .refl case
  | optedOut running _ => exact continues_status running _ _
  | raised _ _ _ => exact .refl case
  | blocked running _ _ _ => exact continues_status running _ _
  | admitted _ _ _ _ _ => exact continues_reopened case
  | executed _ _ _ _ something =>
      exact (continues_reopened case).trans (hconduct _ something _ _)

/-!
## Databases
-/

/-- A database as it may be found later. -/
structure Extends (db db' : Db) : Prop where
  ledger : db.ledger.rows <+: db'.ledger.rows
  cases : ∀ caseId case, db.cases.get? caseId = some case →
    ∃ case', db'.cases.get? caseId = some case' ∧ Continues case case'
  processed : ∀ eventId mark, db.processed.get? eventId = some mark →
    db'.processed.get? eventId = some mark

/-- A trail that begins with the failure that opened the case. -/
def Begins (case : CaseRow) (trail : List LedgerColumns) : Prop :=
  ∃ event rest, trail = (ingestFact case.id event).toLedgerColumns :: rest ∧
    Continues (openedCase case.id event) case

/-- Nothing hangs in the air. -/
structure Sound (db : Db) : Prop where
  rows : ∀ e ∈ db.history, (db.cases.get? e.caseId).isSome
  marks : ∀ eventId mark, db.processed.get? eventId = some mark →
    (db.cases.get? mark.caseId).isSome
  stories : ∀ caseId case, db.cases.get? caseId = some case → Begins case (db.trail caseId)

theorem Extends.refl (db : Db) : Extends db db :=
  ⟨List.prefix_rfl, fun _ case h => ⟨case, h, .refl case⟩, fun _ _ => id⟩

theorem Extends.trans {a b c : Db} (hab : Extends a b) (hbc : Extends b c) : Extends a c where
  ledger := hab.ledger.trans hbc.ledger
  cases := by
    intro caseId case hcase
    obtain ⟨case', hcase', hcontinues⟩ := hab.cases caseId case hcase
    obtain ⟨case'', hcase'', hcontinues'⟩ := hbc.cases caseId case' hcase'
    exact ⟨case'', hcase'', hcontinues.trans hcontinues'⟩
  processed := fun eventId mark hmark => hbc.processed _ _ (hab.processed eventId mark hmark)

theorem Extends.isSome {db db' : Db} (h : Extends db db') {caseId : String}
    (hsome : (db.cases.get? caseId).isSome) : (db'.cases.get? caseId).isSome := by
  obtain ⟨case, hcase⟩ := Option.isSome_iff_exists.1 hsome
  obtain ⟨case', hcase', -⟩ := h.cases caseId case hcase
  rw [hcase']
  rfl

theorem sound_empty : Sound Db.empty where
  rows := fun _ he => absurd he List.not_mem_nil
  marks := by
    intro eventId mark hmark
    have hnone : Db.empty.processed.get? eventId = none := Table.get?_empty eventId
    cases hnone.symm.trans hmark
  stories := by
    intro caseId case hcase
    have hnone : Db.empty.cases.get? caseId = none := Table.get?_empty caseId
    cases hnone.symm.trans hcase

theorem Begins.append {case case' : CaseRow} {trail : List LedgerColumns} (h : Begins case trail)
    (hcontinues : Continues case case') (rows : List LedgerColumns) :
    Begins case' (trail ++ rows) := by
  obtain ⟨event, rest, htrail, hopened⟩ := h
  refine ⟨event, rest ++ rows, ?_, ?_⟩
  · rw [htrail, hcontinues.id]
    rfl
  · rw [hcontinues.id]
    exact hopened.trans hcontinues

/-!
## What is written
-/

/-- An effect that goes on from its case and writes on it only. -/
structure GoesOn (case : CaseRow) (e : Effect) : Prop where
  continues : Continues case e.case
  own : ∀ f ∈ e.facts, f.caseId = case.id

/-- All that the requests write and call, in effects with a property: an effect on a stored
case, a new case with the row of its failure, and the mark of a handled event. -/
inductive Written (P : CaseRow → Effect → Prop) : Db → List ExecutorCall → Db → Prop where
  | refl (db : Db) : Written P db [] db
  | trans {a b c : Db} {calls calls' : List ExecutorCall} (first : Written P a calls b)
      (second : Written P b calls' c) : Written P a (calls ++ calls') c
  | performed {s : Session} {case : CaseRow} {e : Effect} (held : s.Holds case)
      (goesOn : GoesOn case e) (property : P case e) : Written P s.db e.calls (s.perform e).db
  | opened {s : Session} {newCaseId : String} {event : RiskEvent} {cases : Table CaseRow}
      (inserted : s.db.cases.insert? (openedCase newCaseId event) = some cases) :
      Written P s.db []
        ⟨cases, (s.record [ingestFact newCaseId event]).db.ledger, s.db.processed⟩
  | marked {db : Db} {mark : ProcessedEventRow} {processed : Table ProcessedEventRow}
      (inserted : db.processed.insert? mark = some processed)
      (known : (db.cases.get? mark.caseId).isSome) : Written P db [] { db with processed }

theorem Written.mono {P Q : CaseRow → Effect → Prop} (hPQ : ∀ case e, P case e → Q case e)
    {db db' : Db} {calls : List ExecutorCall} (h : Written P db calls db') :
    Written Q db calls db' := by
  induction h with
  | refl db => exact .refl db
  | trans _ _ hfirst hsecond => exact .trans hfirst hsecond
  | performed held goesOn property => exact .performed held goesOn (hPQ _ _ property)
  | opened inserted => exact .opened inserted
  | marked inserted known => exact .marked inserted known

/-- What calls nobody may come before. -/
theorem Written.after {P : CaseRow → Effect → Prop} {a b c : Db} {calls : List ExecutorCall}
    (first : Written P a [] b) (second : Written P b calls c) : Written P a calls c :=
  .trans first second

section

variable {s : Session} {case : CaseRow} {e : Effect}

/-- A case that was loaded is held. -/
theorem holds_of_getCase {caseId : String} (h : s.getCase caseId = some case) :
    case.id = caseId ∧ s.Holds case := by
  have hid : case.id = caseId := Table.key_of_get? h
  refine ⟨hid, ?_⟩
  rw [Session.Holds, hid]
  exact h

theorem getCase_perform_self (hheld : s.Holds case) (h : GoesOn case e) :
    (s.perform e).getCase case.id = some e.case := by
  have hafter := hheld.perform h.continues.id
  rwa [Session.Holds, h.continues.id] at hafter

theorem getCase_perform_of_ne (h : GoesOn case e) {caseId : String} (hne : caseId ≠ case.id) :
    (s.perform e).getCase caseId = s.getCase caseId :=
  s.perform_getCase_of_ne e (by rwa [h.continues.id])

theorem extends_performed (hheld : s.Holds case) (h : GoesOn case e) :
    Extends s.db (s.perform e).db := by
  refine ⟨⟨s.recorded e.facts, (s.record_rows e.facts).symm⟩, ?_, fun _ _ => id⟩
  intro caseId stored hstored
  by_cases hcase : caseId = case.id
  · subst hcase
    cases hheld.symm.trans hstored
    exact ⟨e.case, getCase_perform_self hheld h, h.continues⟩
  · exact ⟨stored, (getCase_perform_of_ne h hcase).trans hstored, .refl stored⟩

theorem sound_performed (hheld : s.Holds case) (h : GoesOn case e) (hsound : Sound s.db) :
    Sound (s.perform e).db := by
  have hextends := extends_performed hheld h
  have hself := getCase_perform_self hheld h
  refine ⟨?_, fun eventId mark hmark => hextends.isSome (hsound.marks eventId mark hmark), ?_⟩
  · intro row hrow
    rw [Session.perform_history] at hrow
    rcases List.mem_append.1 hrow with hrow | hrow
    · exact hextends.isSome (hsound.rows row hrow)
    · obtain ⟨f, hf, rfl⟩ := List.mem_map.1 hrow
      change ((s.perform e).getCase f.caseId).isSome
      rw [h.own f hf, hself]
      rfl
  · intro caseId stored hstored
    change (s.perform e).getCase caseId = some stored at hstored
    by_cases hcase : caseId = case.id
    · subst hcase
      cases hself.symm.trans hstored
      rw [s.perform_trail h.own]
      exact (hsound.stories case.id case hheld).append h.continues _
    · rw [getCase_perform_of_ne h hcase] at hstored
      rw [s.perform_trail_of_ne h.own hcase]
      exact hsound.stories caseId stored hstored

end

section

variable {s : Session} {newCaseId : String} {event : RiskEvent} {cases : Table CaseRow}

theorem extends_opened
    (h : s.db.cases.insert? (openedCase newCaseId event) = some cases) :
    Extends s.db
      ⟨cases, (s.record [ingestFact newCaseId event]).db.ledger, s.db.processed⟩ := by
  refine ⟨⟨_, (s.record_rows [ingestFact newCaseId event]).symm⟩, ?_, fun _ _ => id⟩
  intro caseId case hcase
  have hne : caseId ≠ newCaseId := by
    rintro rfl
    have hnew : s.db.cases.get? caseId = none := (Table.insert?_eq_some h).1
    exact absurd (hnew.symm.trans hcase) (by simp)
  exact ⟨case, (Table.get?_insert?_of_ne h hne).trans hcase, .refl case⟩

theorem trail_opened_of_ne {caseId : String} (hne : caseId ≠ newCaseId) :
    Db.trail ⟨cases, (s.record [ingestFact newCaseId event]).db.ledger, s.db.processed⟩ caseId =
      s.db.trail caseId := by
  have hhistory : Db.history
      ⟨cases, (s.record [ingestFact newCaseId event]).db.ledger, s.db.processed⟩ =
      s.db.history ++ [(ingestFact newCaseId event).toLedgerColumns] :=
    s.record_history [ingestFact newCaseId event]
  rw [Db.trail, hhistory, List.filter_append, ← Db.trail, List.filter_eq_nil_iff.2,
    List.append_nil]
  intro row hrow howner
  rw [List.mem_singleton.1 hrow] at howner
  exact hne (of_decide_eq_true howner).symm

/-- The first row of a case that a sound database does not know is its whole trail. -/
theorem trail_of_new {db db' : Db} {row : LedgerColumns} (hsound : Sound db)
    (hnew : db.cases.get? row.caseId = none) (hhistory : db'.history = db.history ++ [row]) :
    db'.trail row.caseId = [row] := by
  have hempty : db.trail row.caseId = [] := by
    rw [Db.trail, List.filter_eq_nil_iff]
    intro other hother howner
    have hknown := hsound.rows other hother
    rw [of_decide_eq_true howner, hnew] at hknown
    cases hknown
  have hown : [row].filter (fun r => r.caseId = row.caseId) = [row] :=
    List.filter_eq_self.2 fun r hr => by
      rw [List.mem_singleton.1 hr]
      exact decide_eq_true rfl
  rw [Db.trail, hhistory, List.filter_append, ← Db.trail, hempty, hown, List.nil_append]

theorem trail_opened_self (hsound : Sound s.db)
    (h : s.db.cases.insert? (openedCase newCaseId event) = some cases) :
    Db.trail ⟨cases, (s.record [ingestFact newCaseId event]).db.ledger, s.db.processed⟩
      newCaseId = [(ingestFact newCaseId event).toLedgerColumns] :=
  @trail_of_new _ _ (ingestFact newCaseId event).toLedgerColumns hsound
    (Table.insert?_eq_some h).1 (s.record_history [ingestFact newCaseId event])

theorem sound_opened (h : s.db.cases.insert? (openedCase newCaseId event) = some cases)
    (hsound : Sound s.db) :
    Sound ⟨cases, (s.record [ingestFact newCaseId event]).db.ledger, s.db.processed⟩ := by
  have hextends := extends_opened h
  have hself : cases.get? newCaseId = some (openedCase newCaseId event) :=
    Table.get?_insert?_self h
  have hhistory : Db.history
      ⟨cases, (s.record [ingestFact newCaseId event]).db.ledger, s.db.processed⟩ =
      s.db.history ++ [(ingestFact newCaseId event).toLedgerColumns] :=
    s.record_history [ingestFact newCaseId event]
  refine ⟨?_, fun eventId mark hmark => hextends.isSome (hsound.marks eventId mark hmark), ?_⟩
  · intro row hrow
    rw [hhistory] at hrow
    rcases List.mem_append.1 hrow with hrow | hrow
    · exact hextends.isSome (hsound.rows row hrow)
    · rw [List.mem_singleton.1 hrow]
      exact Option.isSome_of_mem hself
  · intro caseId stored hstored
    by_cases hcase : caseId = newCaseId
    · subst hcase
      cases hself.symm.trans hstored
      exact ⟨event, [], trail_opened_self hsound h, .refl _⟩
    · have hother : cases.get? caseId = s.db.cases.get? caseId :=
        Table.get?_insert?_of_ne h hcase
      rw [trail_opened_of_ne hcase]
      exact hsound.stories caseId stored (hother.symm.trans hstored)

end

section

variable {db : Db} {mark : ProcessedEventRow} {processed : Table ProcessedEventRow}

theorem extends_marked (h : db.processed.insert? mark = some processed) :
    Extends db { db with processed } := by
  refine ⟨List.prefix_rfl, fun _ case hget => ⟨case, hget, .refl case⟩, fun eventId row hrow => ?_⟩
  have hfree := (Table.insert?_eq_some h).1
  have hne : eventId ≠ Keyed.key mark := by
    rintro rfl
    exact absurd (hfree.symm.trans hrow) (by simp)
  exact (Table.get?_insert?_of_ne h hne).trans hrow

theorem sound_marked (h : db.processed.insert? mark = some processed)
    (hcase : (db.cases.get? mark.caseId).isSome) (hsound : Sound db) :
    Sound { db with processed } := by
  refine ⟨hsound.rows, ?_, hsound.stories⟩
  intro eventId row hrow
  by_cases hkey : eventId = Keyed.key mark
  · subst hkey
    cases (Table.get?_insert?_self h).symm.trans hrow
    exact hcase
  · have hother : processed.get? eventId = db.processed.get? eventId :=
      Table.get?_insert?_of_ne h hkey
    exact hsound.marks eventId row (hother.symm.trans hrow)

end

section

variable {P : CaseRow → Effect → Prop} {db db' : Db} {calls : List ExecutorCall}

/-- Nothing that was there is taken back. -/
theorem Written.extended (h : Written P db calls db') : Extends db db' := by
  induction h with
  | refl db => exact .refl db
  | trans _ _ hfirst hsecond => exact hfirst.trans hsecond
  | performed held goesOn _ => exact extends_performed held goesOn
  | opened inserted => exact extends_opened inserted
  | marked inserted _ => exact extends_marked inserted

theorem Written.sound (h : Written P db calls db') (hsound : Sound db) : Sound db' := by
  induction h with
  | refl db => exact hsound
  | trans _ _ hfirst hsecond => exact hsecond (hfirst hsound)
  | performed held goesOn _ => exact sound_performed held goesOn hsound
  | opened inserted => exact sound_opened inserted hsound
  | marked inserted known => exact sound_marked inserted known hsound

end

/-- The effect keeps row and trail of its case together. -/
def Tells (case : CaseRow) (e : Effect) : Prop :=
  ∀ trail, Told case trail → Told e.case (trail ++ e.facts.map (·.toLedgerColumns))

/-- The note of an outcome that a paid link writes. -/
def paidNote : String := "razorpay_payment_link_paid_webhook"

/-- The outcome is what an executor has returned for the case, or that of a paid link. -/
def Backed (calls : List ExecutorCall) (caseId : String) (outcome : Fields) : Prop :=
  (∃ c ∈ calls, c.caseId = caseId ∧ c.result = outcome) ∨
    outcome.get? "note" = some (.str paidNote)

theorem Backed.mono {calls calls' : List ExecutorCall} (hcalls : calls ⊆ calls') {caseId : String}
    {outcome : Fields} (h : Backed calls caseId outcome) : Backed calls' caseId outcome := by
  rcases h with ⟨c, hc, hresult⟩ | hnote
  · exact Or.inl ⟨c, hcalls hc, hresult⟩
  · exact Or.inr hnote

/-- The outcomes that the effect writes are backed by what it calls. -/
def Backs (e : Effect) : Prop :=
  ∀ f ∈ e.facts, f.kind = .outcome → Backed e.calls f.caseId f.payload

/-- An effect that tells the truth. -/
structure Honest (case : CaseRow) (e : Effect) : Prop where
  tells : Tells case e
  backs : Backs e

/-- What is written by effects that keep row and trail together leaves the statuses the fold of
the ledger. -/
theorem Written.consistent {db db' : Db} {calls : List ExecutorCall}
    (h : Written Tells db calls db') (hdb : Consistent db) : Consistent db' := by
  induction h with
  | refl db => exact hdb
  | trans _ _ hfirst hsecond => exact hsecond (hfirst hdb)
  | performed held goesOn property =>
      exact Consistent.perform hdb held goesOn.continues.id goesOn.own (property _)
  | @opened s newCaseId event cases inserted =>
      have hledger : (s.record [ingestFact newCaseId event]).db.ledger =
          ((openSession s.utcnow s.db).perform ⟨openedCase newCaseId event,
            [ingestFact newCaseId event], []⟩).db.ledger :=
        Session.record_ledger_congr rfl rfl _
      exact hdb.opened inserted hledger
  | marked _ _ => exact hdb.congr rfl rfl

theorem Written.outcomes {Q : Fields → Prop} {db db' : Db} {calls : List ExecutorCall}
    (h : Written (fun _ e => ∀ f ∈ e.facts, f.kind = .outcome → Q f.payload →
      Backed e.calls f.caseId f.payload) db calls db') :
    ∀ row ∈ db'.history, row.kind = .outcome → Q row.payload →
      row ∈ db.history ∨ Backed calls row.caseId row.payload := by
  induction h with
  | refl db => exact fun row hrow _ _ => Or.inl hrow
  | trans _ _ hfirst hsecond =>
      intro row hrow hkind hQ
      rcases hsecond row hrow hkind hQ with hrow | hbacked
      · rcases hfirst row hrow hkind hQ with hrow | hbacked
        · exact Or.inl hrow
        · exact Or.inr (hbacked.mono (List.subset_append_left _ _))
      · exact Or.inr (hbacked.mono (List.subset_append_right _ _))
  | performed held goesOn property =>
      intro row hrow hkind hQ
      rw [Session.perform_history] at hrow
      rcases List.mem_append.1 hrow with hrow | hrow
      · exact Or.inl hrow
      · obtain ⟨f, hf, rfl⟩ := List.mem_map.1 hrow
        exact Or.inr (property f hf hkind hQ)
  | @opened s newCaseId event cases _ =>
      intro row hrow hkind _
      have hhistory : Db.history
          ⟨cases, (s.record [ingestFact newCaseId event]).db.ledger, s.db.processed⟩ =
          s.db.history ++ [(ingestFact newCaseId event).toLedgerColumns] :=
        s.record_history [ingestFact newCaseId event]
      rw [hhistory] at hrow
      rcases List.mem_append.1 hrow with hrow | hrow
      · exact Or.inl hrow
      · rw [List.mem_singleton.1 hrow] at hkind
        cases hkind
  | marked _ _ => exact fun row hrow _ _ => Or.inl hrow

/-!
## The services
-/

/-- An ingested failure opens its case, or was handled before. Either way the event is
remembered with the case it gave. -/
theorem written_ingest {s t : Session} {newCaseId : String} {event : RiskEvent}
    {result : IngestResult} (h : ingestRiskEvent s newCaseId event = .ok (result, t)) :
    Written Honest s.db [] t.db ∧
      ∃ mark, t.findProcessed event.eventId = some mark ∧ mark.caseId = result.caseId := by
  have hingested := ingestRiskEvent_ingested s newCaseId event
  rw [h] at hingested
  cases hingested with
  | duplicate seen => exact ⟨.refl _, _, seen, rfl⟩
  | @opened cases processed _ inserted remembered =>
      have hcase : (cases.get? newCaseId).isSome :=
        Option.isSome_of_mem (Table.get?_insert?_self inserted)
      have hmarked : Written Honest
          ⟨cases, (s.record [ingestFact newCaseId event]).db.ledger, s.db.processed⟩ []
          ⟨cases, (s.record [ingestFact newCaseId event]).db.ledger, processed⟩ :=
        .marked remembered hcase
      exact ⟨.after (.opened inserted) hmarked, _, Table.get?_insert?_self remembered, rfl⟩

theorem continues_paid (case : CaseRow) (paid : PaymentLinkPaidEvent) :
    Continues case (paidEffect case paid).case := by
  unfold paidEffect
  split
  · exact .refl case
  · exact continues_recovered case _

theorem honest_paid (case : CaseRow) (paid : PaymentLinkPaidEvent) :
    Honest case (paidEffect case paid) where
  tells := fun _ htold => htold.paid paid
  backs := by
    intro f hf hkind
    refine Or.inr ?_
    unfold paidEffect at hf
    split at hf
    · rw [List.mem_singleton.1 hf] at hkind
      cases hkind
    · simp only [List.mem_cons, List.not_mem_nil, or_false] at hf
      rcases hf with rfl | rfl | rfl
      · cases hkind
      · rfl
      · cases hkind

theorem written_paid {s t : Session} {paid : PaymentLinkPaidEvent}
    {result : PaymentLinkPaidResult} (h : handlePaymentLinkPaid s paid = .ok (result, t)) :
    Written Honest s.db [] t.db := by
  have hhandled := handlePaymentLinkPaid_handled s paid
  rw [h] at hhandled
  cases hhandled with
  | duplicate _ _ => exact .refl _
  | @closed case _ _ _ held remembered =>
      have hgoesOn : GoesOn case (paidEffect case paid) :=
        ⟨continues_paid case paid, paidEffect_own case paid⟩
      have hself := getCase_perform_self held hgoesOn
      have hperformed : Written Honest s.db (paidEffect case paid).calls
          (s.perform (paidEffect case paid)).db := .performed held hgoesOn (honest_paid case paid)
      rw [paidEffect_calls] at hperformed
      exact hperformed.after (.marked remembered (Option.isSome_of_mem hself))

/-- An `execute_fn` that goes on from the case it is given, and whose outcomes are what it
returns. -/
structure Keeps (act : Action → CaseRow → Conduct) : Prop where
  continues : ∀ action case, Continues case (act action case).case
  backs : ∀ action case, ∀ f ∈ (act action case).facts, f.kind = .outcome →
    f.payload = (act action case).result

theorem keeps_execConduct (executor : Executor) (execMeta : ExecuteMeta)
    (policyVersion : String) : Keeps (execConduct executor execMeta policyVersion) where
  continues := continues_execConduct executor execMeta policyVersion
  backs := by
    intro action case f hf hkind
    unfold execConduct at hf ⊢
    simp only at hf ⊢
    split at hf
    · simp only [List.mem_cons, List.not_mem_nil, or_false] at hf
      rcases hf with rfl | rfl
      · rw [if_pos ‹_›]
        rfl
      · cases hkind
    · rw [List.mem_singleton.1 hf, if_neg ‹_›]
      rfl

section

variable {s : Session} {case : CaseRow} {ctx : GuardContext} {executeFn : Option ExecuteFn}
  {conduct : Option (Action → CaseRow → Conduct)} {policyVersion : String} {audit : Fields}
  {e : Effect}

theorem gate_not_outcome {f : LedgerFact}
    (hf : f ∈ gateFacts s case.id ctx policyVersion audit) : f.kind ≠ .outcome := by
  rw [(mem_gateFacts hf).2.1]
  decide

/-- What the pipeline does goes on from its case, and is honest. -/
theorem honest_verdict (hconducted : Conducted executeFn conduct)
    (hkeeps : ∀ act, conduct = some act → Keeps act)
    (h : Verdict s case ctx conduct policyVersion audit e) : GoesOn case e ∧ Honest case e := by
  have hcontinues := continues_verdict h fun act hact => (hkeeps act hact).continues
  refine ⟨⟨hcontinues, (h.own hconducted).1⟩, fun _ htold => htold.verdict hconducted h, ?_⟩
  have hown := (h.own hconducted).1
  intro f hf hkind
  have hcase := hown f hf
  cases h with
  | stopped _ => cases hf
  | optedOut _ _ =>
      rw [List.mem_singleton.1 hf] at hkind
      cases hkind
  | raised _ _ _ => cases hf
  | blocked _ _ _ _ => exact absurd hkind (gate_not_outcome hf)
  | admitted _ _ _ _ _ => exact absurd hkind (gate_not_outcome hf)
  | executed _ _ _ _ something =>
      refine Or.inl ⟨_, List.mem_singleton_self _, hcase.symm, ?_⟩
      rcases List.mem_append.1 hf with hf | hf
      · exact absurd hkind (gate_not_outcome hf)
      · rcases List.mem_append.1 hf with hf | hf
        · exact ((hkeeps _ something).backs _ _ f hf hkind).symm
        · rw [List.mem_singleton.1 hf] at hkind
          cases hkind

/-- Where nothing is called the case goes on too, and there is no outcome. -/
theorem uncalled_verdict (h : Verdict s case ctx conduct policyVersion audit e)
    (hnone : e.calls = []) :
    Continues case e.case ∧ ∀ f ∈ e.facts, f.kind ≠ .outcome := by
  cases h with
  | stopped _ => exact ⟨.refl _, fun f hf => absurd hf List.not_mem_nil⟩
  | optedOut running _ =>
      refine ⟨continues_status running _ _, fun f hf => ?_⟩
      rw [List.mem_singleton.1 hf]
      exact LedgerKind.noConfusion
  | raised _ _ _ => exact ⟨.refl _, fun f hf => absurd hf List.not_mem_nil⟩
  | blocked running _ _ _ => exact ⟨continues_status running _ _, fun _ => gate_not_outcome⟩
  | admitted _ _ _ _ _ => exact ⟨continues_reopened _, fun _ => gate_not_outcome⟩
  | executed _ _ _ _ _ => cases hnone

theorem written_guarded (hheld : s.Holds case) (ctx : GuardContext)
    (hconducted : Conducted executeFn conduct) (hkeeps : ∀ act, conduct = some act → Keeps act)
    (policyVersion : String) (audit : Fields) {made : List ExecutorCall}
    (hmade : (guardRun s case ctx executeFn policyVersion audit).session.calls =
      s.calls ++ made) :
    Written Honest s.db made
      (guardRun s case ctx executeFn policyVersion audit).session.db := by
  rw [(guardRun_eq hconducted hheld).1] at hmade ⊢
  rw [Session.perform_calls] at hmade
  rw [← List.append_cancel_left hmade]
  obtain ⟨hgoesOn, hhonest⟩ := honest_verdict hconducted hkeeps
    (guardEffect_verdict s case ctx conduct policyVersion audit)
  exact .performed hheld hgoesOn hhonest

end

/-!
## The calls
-/

/-- No call is for a case that is stopped in the database. -/
def Respects (db : Db) (calls : List ExecutorCall) : Prop :=
  ∀ c ∈ calls, ∀ case, db.cases.get? c.caseId = some case → isCaseStopped case = false

theorem respects_nil (db : Db) : Respects db [] := fun _ hc => absurd hc List.not_mem_nil

/-- What is respected later was respected before. -/
theorem Respects.of_extends {db db' : Db} (h : Extends db db') {calls : List ExecutorCall}
    (hcalls : Respects db' calls) : Respects db calls := by
  intro c hc case hcase
  obtain ⟨case', hcase', hcontinues⟩ := h.cases _ _ hcase
  have hrunning := hcalls c hc case' hcase'
  by_contra hstopped
  rw [hcontinues.stopped (by simpa using hstopped)] at hrunning
  cases hrunning

theorem running_of_call {s : Session} {case : CaseRow} {ctx : GuardContext}
    {conduct : Option (Action → CaseRow → Conduct)} {policyVersion : String} {audit : Fields}
    {e : Effect} (h : Verdict s case ctx conduct policyVersion audit e) {c : ExecutorCall}
    (hc : c ∈ e.calls) : isCaseStopped case = false := by
  cases h with
  | stopped _ => cases hc
  | optedOut running _ => exact running
  | raised running _ _ => exact running
  | blocked running _ _ _ => exact running
  | admitted running _ _ _ _ => exact running
  | executed running _ _ _ _ => exact running

/-- The pipeline calls for its own case only. -/
theorem calls_guarded {s : Session} {case : CaseRow} (hheld : s.Holds case) (ctx : GuardContext)
    {executeFn : Option ExecuteFn} {conduct : Option (Action → CaseRow → Conduct)}
    (hconducted : Conducted executeFn conduct) (policyVersion : String) (audit : Fields) :
    ∃ made, (guardRun s case ctx executeFn policyVersion audit).session.calls =
      s.calls ++ made ∧ ∀ c ∈ made, c.caseId = case.id ∧ isCaseStopped case = false := by
  have hverdict := guardEffect_verdict s case ctx conduct policyVersion audit
  rw [(guardRun_eq hconducted hheld).1, Session.perform_calls]
  exact ⟨_, rfl, fun c hc =>
    ⟨(hverdict.own hconducted).2 c hc, running_of_call hverdict hc⟩⟩

theorem respects_guarded {s : Session} {case : CaseRow} (hheld : s.Holds case)
    {made : List ExecutorCall}
    (h : ∀ c ∈ made, c.caseId = case.id ∧ isCaseStopped case = false) :
    Respects s.db made := by
  intro c hc stored hstored
  obtain ⟨hid, hrunning⟩ := h c hc
  rw [hid] at hstored
  cases hheld.symm.trans hstored
  exact hrunning

/-- There is at most one call. Its case and fingerprint are new to the ledger and in it
afterwards. -/
def Once (db db' : Db) (calls : List ExecutorCall) : Prop :=
  ∀ c ∈ calls, calls = [c] ∧ callKey c ∉ replayedKeys db ∧ callKey c ∈ replayedKeys db'

theorem once_nil (db db' : Db) : Once db db' [] := fun _ hc => absurd hc List.not_mem_nil

theorem Once.nodup {db db' : Db} {calls : List ExecutorCall} (h : Once db db' calls) :
    (calls.map callKey).Nodup := by
  cases calls with
  | nil => exact List.nodup_nil
  | cons c calls =>
      rw [(h c List.mem_cons_self).1]
      exact List.nodup_singleton _

theorem Extends.trail_prefix {db db' : Db} (h : Extends db db') (caseId : String) :
    db.trail caseId <+: db'.trail caseId := by
  have hhistory : db.history <+: db'.history := h.ledger.map _
  exact hhistory.filter _

/-- What was executed stays executed. -/
theorem Extends.replayedKeys_subset {db db' : Db} (h : Extends db db') :
    replayedKeys db ⊆ replayedKeys db' := by
  rintro k ⟨e, he, hreplayed⟩
  exact ⟨e, (h.trail_prefix k.1).subset he, hreplayed⟩

theorem Once.of_extends {a b c : Db} (h : Extends a b) {calls : List ExecutorCall}
    (hcalls : Once b c calls) : Once a c calls := by
  intro call hcall
  obtain ⟨hsingle, hnew, hnoted⟩ := hcalls call hcall
  exact ⟨hsingle, fun hold => hnew (h.replayedKeys_subset hold), hnoted⟩

theorem Once.extends {a b c : Db} (h : Extends b c) {calls : List ExecutorCall}
    (hcalls : Once a b calls) : Once a c calls := by
  intro call hcall
  obtain ⟨hsingle, hnew, hnoted⟩ := hcalls call hcall
  exact ⟨hsingle, hnew, h.replayedKeys_subset hnoted⟩

theorem Once.filter {db db' : Db} {calls : List ExecutorCall} (h : Once db db' calls)
    (p : ExecutorCall → Bool) : Once db db' (calls.filter p) := by
  intro c hc
  obtain ⟨hmem, hp⟩ := List.mem_filter.1 hc
  obtain ⟨hsingle, hnew, hnoted⟩ := h c hmem
  refine ⟨?_, hnew, hnoted⟩
  rw [hsingle, List.filter_cons_of_pos hp, List.filter_nil]

/-- What the pipeline calls in a fresh context is called once. -/
theorem once_verdict {s : Session} {case : CaseRow} {ctx : GuardContext}
    {executeFn : Option ExecuteFn} {conduct : Option (Action → CaseRow → Conduct)}
    (hconducted : Conducted executeFn conduct) {policyVersion : String} {audit : Fields}
    {e : Effect} (hverdict : Verdict s case ctx conduct policyVersion audit e)
    (hfresh : FreshContext case ctx) : Once s.db (s.perform e).db e.calls := by
  have hnoted := executedFingerprints_verdict ctx.fingerprint hverdict hconducted
  have hreplayed : (ctx.replayed s case.id).executedFingerprints =
      executedFingerprints s case.id := if_pos hfresh.executed
  cases hverdict with
  | stopped _ => exact once_nil _ _
  | optedOut _ _ => exact once_nil _ _
  | raised _ _ _ => exact once_nil _ _
  | blocked _ _ _ _ => exact once_nil _ _
  | admitted _ _ _ _ _ => exact once_nil _ _
  | executed _ _ _ passed _ =>
      have hgate := idempotency_of_allPassed passed
      rw [Guard.idempotency_passed_iff, replayed_fingerprint, hreplayed] at hgate
      rw [hfresh.fingerprint_eq] at hgate hnoted
      intro c hc
      rw [List.mem_singleton.1 hc]
      refine ⟨rfl, fun hold => hgate (mem_executedFingerprints.2 hold), ?_⟩
      exact mem_executedFingerprints.1 (hnoted.2 (Or.inr ⟨List.cons_ne_nil _ _, rfl⟩))

theorem once_guarded {s : Session} {case : CaseRow} (hheld : s.Holds case) {ctx : GuardContext}
    (hfresh : FreshContext case ctx) {executeFn : Option ExecuteFn}
    {conduct : Option (Action → CaseRow → Conduct)} (hconducted : Conducted executeFn conduct)
    (policyVersion : String) (audit : Fields) {made : List ExecutorCall}
    (hmade : (guardRun s case ctx executeFn policyVersion audit).session.calls =
      s.calls ++ made) :
    Once s.db (guardRun s case ctx executeFn policyVersion audit).session.db made := by
  rw [(guardRun_eq hconducted hheld).1] at hmade ⊢
  rw [Session.perform_calls] at hmade
  rw [← List.append_cancel_left hmade]
  exact once_verdict hconducted (guardEffect_verdict ..) hfresh

end RecoveryAgent.Runs
