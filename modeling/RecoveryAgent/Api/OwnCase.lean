import RecoveryAgent.Api.RoutesWebhooks
import RecoveryAgent.Runs.Growth

/-!
# Requests that open a case of their own

`guard_check`, `replay_fixture`, `run_fraud_gate_demo` and `execute_run` without a case begin
alike: a simulated failure is ingested, and the case that it has given is loaded.
-/

namespace RecoveryAgent.Api

open Library Python Policy Ledger Guard Execute Runs

/-- Why there is no case to work on. -/
inductive OwnCaseError where
  | store (e : WebhookError)
  | caseMissing

/-- `ingest_risk_event`, and `session.get` of the case that it names. -/
def openOwnCase (utf8 : Utf8) (s : Session) (newCaseId : String) (event : RiskEvent) :
    Except OwnCaseError (IngestResult × CaseRow × Session) :=
  match storeRiskEvent utf8 s newCaseId event with
  | .error e => .error (.store e)
  | .ok (ingested, s) =>
      match s.getCase ingested.caseId with
      | some case => .ok (ingested, case, s)
      | none => .error .caseMissing

structure OwnCase (s t : Session) (newCaseId : String) (event : RiskEvent)
    (ingested : IngestResult) (case : CaseRow) : Prop where
  id : case.id = ingested.caseId
  held : t.Holds case
  written : Written Honest s.db [] t.db
  calls : t.calls = s.calls
  utcnow : t.utcnow = s.utcnow
  remembered : ∃ mark, t.findProcessed event.eventId = some mark ∧
    mark.caseId = ingested.caseId
  repeated : ingested.duplicate = true → t = s
  fresh : ingested.duplicate = false → case = openedCase newCaseId event ∧
    s.db.cases.get? newCaseId = none ∧
      t.db.history = s.db.history ++ [(ingestFact newCaseId event).toLedgerColumns]

section

variable {utf8 : Utf8} {s t : Session} {newCaseId : String} {event : RiskEvent}
  {ingested : IngestResult} {case : CaseRow}

theorem openOwnCase_eq_ok (h : openOwnCase utf8 s newCaseId event = .ok (ingested, case, t)) :
    OwnCase s t newCaseId event ingested case := by
  unfold openOwnCase at h
  split at h
  · cases h
  · next ingested' t' hstore =>
      split at h
      · next case' hcase =>
          cases h
          have hingest := ingested_of_stored hstore
          obtain ⟨hwritten, hremembered⟩ := written_ingest hingest
          obtain ⟨hid, hheld⟩ := holds_of_getCase hcase
          have hingested := ingestRiskEvent_ingested s newCaseId event
          rw [hingest] at hingested
          cases hingested with
          | duplicate _ =>
              exact ⟨hid, hheld, hwritten, rfl, rfl, hremembered, fun _ => rfl, nofun⟩
          | opened _ inserted _ =>
              refine ⟨hid, hheld, hwritten, rfl, rfl, hremembered, nofun, fun _ => ⟨?_, ?_, ?_⟩⟩
              · exact Option.some.inj (hcase.symm.trans (Table.get?_insert?_self inserted))
              · exact (Table.insert?_eq_some inserted).1
              · exact s.record_history [ingestFact newCaseId event]
      · cases h

/-- A new event under a new id opens a case. -/
theorem openOwnCase_of_fresh (hkey : utf8.encodes event.eventId = true)
    (hstorable : storable utf8 event = true) (hevent : s.findProcessed event.eventId = none)
    (hcase : s.db.cases.get? newCaseId = none) :
    ∃ ingested t, openOwnCase utf8 s newCaseId event =
        .ok (ingested, openedCase newCaseId event, t) ∧
      ingested.duplicate = false ∧ ingested.caseId = newCaseId := by
  have hstore := storeRiskEvent_of_bound (s := s) newCaseId hkey (Or.inr hstorable)
  obtain ⟨cases, hinsert⟩ := Table.insert?_of_get?_eq_none (r := openedCase newCaseId event) hcase
  have hingested := ingestRiskEvent_ingested s newCaseId event
  unfold openOwnCase
  rw [hstore]
  generalize ingestRiskEvent s newCaseId event = out at hingested ⊢
  cases hingested with
  | duplicate seen => cases hevent.symm.trans seen
  | taken _ refused => cases hinsert.symm.trans refused
  | @opened cases _ _ inserted _ =>
      have hget : cases.get? newCaseId = some (openedCase newCaseId event) :=
        Table.get?_insert?_self inserted
      simp only [Except.mapError, Session.getCase, hget]
      exact ⟨_, _, rfl, rfl, rfl⟩

end

/-- In a sound database a new case has a trail of one row. -/
theorem OwnCase.trail {s t : Session} {newCaseId : String} {event : RiskEvent}
    {ingested : IngestResult} {case : CaseRow} (h : OwnCase s t newCaseId event ingested case)
    (hsound : Sound s.db) (hfresh : ingested.duplicate = false) :
    t.db.trail newCaseId = [(ingestFact newCaseId event).toLedgerColumns] := by
  obtain ⟨-, hnew, hhistory⟩ := h.fresh hfresh
  exact trail_of_new hsound hnew hhistory

/-- The rows of a new case by their kinds, once something is written on it. -/
theorem OwnCase.story {s t : Session} {newCaseId : String} {event : RiskEvent}
    {ingested : IngestResult} {case : CaseRow} (h : OwnCase s t newCaseId event ingested case)
    (hsound : Sound s.db) (hfresh : ingested.duplicate = false) {e : Effect}
    (hown : ∀ f ∈ e.facts, f.caseId = newCaseId) :
    ((t.perform e).db.trail newCaseId).map (·.kind) = .event :: e.facts.map (·.kind) := by
  rw [t.perform_trail hown, h.trail hsound hfresh, List.map_append, List.map_map]
  rfl

theorem gateFacts_kinds (s : Session) (caseId : String) (ctx : GuardContext)
    (policyVersion : String) (audit : Fields) :
    (gateFacts s caseId ctx policyVersion audit).map (·.kind) =
      List.replicate 6 .gateCheck := by
  refine List.eq_replicate_iff.2 ⟨?_, ?_⟩
  · rw [List.length_map, gateFacts_length]
  · intro kind hkind
    obtain ⟨f, hf, rfl⟩ := List.mem_map.1 hkind
    exact (mem_gateFacts hf).2.1

end RecoveryAgent.Api
