import RecoveryAgent.Api.GuardCheck
import RecoveryAgent.Demo.CreateLink
import RecoveryAgent.Demo.Entries
import RecoveryAgent.Demo.FraudGate
import RecoveryAgent.Demo.Replay

/-!
# The system

All that writes to the ledger, as one machine over the database: the webhook, the routes that
run an action or check one, the link button, the replay, the fraud demo, and the live flow
with its two sessions, between which anything may come. A flow that is left before its commit
leaves the calls it has made.
-/

namespace RecoveryAgent.Api

open Library Python Policy Ledger Guard Execute Memory Runs Demo

/-- A request, or one of the two sessions of a live flow. -/
inductive Entry where
  | webhook (env : WebhookEnvironment) (req : WebhookRequest)
  | executeRun (env : Environment) (req : ExecuteRunRequest)
  | guardCheck (env : Environment) (req : GuardCheckRequest)
  | createLink (executor : Executor) (caseId : String)
  | replay (env : ReplayEnv) (fixture : ReplayFixture)
  | fraudGate (env : FraudGateEnv) (amountPaise : ℤ)
  | opening (env : DemoEnv) (input : DemoInput)
  | safety (env : DemoEnv) (input : DemoInput) (rag : RagMetrics) (caseId : String)
      (committed : Bool)

/-- What is committed and what is called. -/
def handle (utcnow : ℕ → DateTime) (db : Db) : Entry → Db × List ExecutorCall
  | .webhook env req => ((postRazorpay env req db).2, [])
  | .executeRun env req => executeRunStep utcnow db (env, req)
  | .guardCheck env req => guardCheckStep utcnow db (env, req)
  | .createLink executor caseId => (uiCreateLink executor utcnow db caseId).2
  | .replay env fixture => replayStep utcnow db (env, fixture)
  | .fraudGate env amountPaise => fraudGateStep utcnow db (env, amountPaise)
  | .opening env input => (openStep env input db, [])
  | .safety env input rag caseId committed => safetyStep env input rag caseId committed db

namespace Entry

/-- It shows no gate that blocks without having been asked. -/
def unblocked : Entry → Bool
  | .replay _ fixture => !fixture.includeGateBlock
  | _ => true

/-- It commits what it calls. -/
def kept : Entry → Bool
  | .safety _ _ _ _ committed => committed
  | _ => true

def committedCalls (entry : Entry) (calls : List ExecutorCall) : List ExecutorCall :=
  if entry.kept then calls else []

theorem committedCalls_subset (entry : Entry) (calls : List ExecutorCall) :
    entry.committedCalls calls ⊆ calls := by
  unfold committedCalls
  split
  · exact List.Subset.refl calls
  · exact List.nil_subset calls

/-- It shows this outcome without a call. -/
def Shows (entry : Entry) (outcome : Fields) : Prop :=
  ∃ env fixture, entry = .replay env fixture ∧ outcome = fixture.outcomeOr

/-- An effect of the entry is honest but for what a replay shows. -/
structure Reports (entry : Entry) (case : CaseRow) (e : Effect) : Prop where
  tells : entry.unblocked = true → Tells case e
  backs : ∀ f ∈ e.facts, f.kind = .outcome →
    Backed e.calls f.caseId f.payload ∨ entry.Shows f.payload

theorem reports_of_honest (entry : Entry) (case : CaseRow) (e : Effect) (h : Honest case e) :
    entry.Reports case e :=
  ⟨fun _ => h.tells, fun f hf hkind => Or.inl (h.backs f hf hkind)⟩

end Entry

/-!
## One entry
-/

theorem postRazorpay_written (env : WebhookEnvironment) (req : WebhookRequest) (db : Db) :
    Written Honest db [] (postRazorpay env req db).2 := by
  unfold postRazorpay
  split
  · next body s h =>
      obtain ⟨v, -, h⟩ := bind_eq_ok h
      obtain ⟨fields, -, h⟩ := bind_eq_ok h
      split at h
      · obtain ⟨paid, -, h⟩ := bind_eq_ok h
        obtain ⟨⟨result, t⟩, hpaid, h⟩ := bind_eq_ok h
        cases h
        exact written_paid (handled_of_stored hpaid)
      · obtain ⟨event, -, h⟩ := bind_eq_ok h
        obtain ⟨⟨result, t⟩, hstore, h⟩ := bind_eq_ok h
        cases h
        exact (written_ingest (ingested_of_stored hstore)).1
  · exact .refl db
  · exact .refl db

section

variable {env : Environment} {req : ExecuteRunRequest} {s t : Session}

theorem loadCase_written {case : CaseRow} (h : req.loadCase env s = .ok (case, t)) :
    Written Honest s.db [] t.db ∧ t.Holds case ∧ t.calls = s.calls := by
  unfold ExecuteRunRequest.loadCase at h
  split at h
  · split at h
    · next hcase =>
        cases h
        exact ⟨.refl _, (holds_of_getCase hcase).2, rfl⟩
    · cases h
  · split at h
    · cases h
    · simp only at h
      split at h
      · cases h
      · next hopen =>
          cases h
          have hown := openOwnCase_eq_ok hopen
          exact ⟨hown.written, hown.held, hown.calls⟩

theorem executeRun_written {response : ExecuteRunResponse}
    (h : executeRun env s req = .ok (response, t)) :
    ∃ made, t.calls = s.calls ++ made ∧ Written Honest s.db made t.db ∧ Respects s.db made ∧
      Once s.db t.db made := by
  obtain ⟨⟨case, s'⟩, hload, h⟩ := bind_eq_ok h
  obtain ⟨now, -, h⟩ := bind_eq_ok h
  obtain ⟨action, -, h⟩ := bind_eq_ok h
  obtain ⟨ran, hran, h⟩ := bind_eq_ok h
  cases h
  rw [executeWithGuards_eq_ok (mapError_eq_ok_iff.1 hran)]
  obtain ⟨hwritten, hheld, hcalls⟩ := loadCase_written hload
  have hextends := hwritten.extended
  have hconducted : Conducted (some (exec (env.getExecutor req.mode) (req.execMeta case) "phase7"))
      (some (execConduct (env.getExecutor req.mode) (req.execMeta case) "phase7")) :=
    .some (exec_conducts _ _ _)
  obtain ⟨made, hmade, hrunning⟩ := calls_guarded hheld (req.context now action case) hconducted
    "phase7" []
  have hguarded := written_guarded hheld _ hconducted (by
    rintro act ⟨⟩
    exact keeps_execConduct _ _ _) _ _ hmade
  have honce := once_guarded hheld ⟨rfl, rfl, Or.inl rfl⟩ hconducted "phase7" [] hmade
  refine ⟨made, ?_, hwritten.after hguarded,
    (respects_guarded hheld hrunning).of_extends hextends, honce.of_extends hextends⟩
  rw [← hcalls]
  exact hmade

end

theorem executeRunStep_written (utcnow : ℕ → DateTime) (db : Db)
    (request : Environment × ExecuteRunRequest) :
    Written Honest db (executeRunStep utcnow db request).2
        (executeRunStep utcnow db request).1 ∧
      Respects db (executeRunStep utcnow db request).2 ∧
      Once db (executeRunStep utcnow db request).1 (executeRunStep utcnow db request).2 := by
  unfold executeRunStep
  split
  · next response t h =>
      obtain ⟨made, hcalls, hwritten, hrespects, honce⟩ := executeRun_written h
      rw [hcalls]
      exact ⟨hwritten, hrespects, honce⟩
  · exact ⟨.refl db, respects_nil db, once_nil db db⟩

theorem uiCreateLink_written (executor : Executor) (utcnow : ℕ → DateTime) (db : Db)
    (caseId : String) :
    Written Honest db (uiCreateLink executor utcnow db caseId).2.2
        (uiCreateLink executor utcnow db caseId).2.1 ∧
      Respects db (uiCreateLink executor utcnow db caseId).2.2 ∧
      Once db (uiCreateLink executor utcnow db caseId).2.1
        (uiCreateLink executor utcnow db caseId).2.2 := by
  cases hcase : db.cases.get? caseId with
  | none =>
      have hload : (openSession utcnow db).getCase caseId = none := hcase
      have hnothing : (uiCreateLink executor utcnow db caseId).2 = (db, []) := by
        simp only [uiCreateLink, executeLinkForCase, hload]
        rfl
      rw [hnothing]
      exact ⟨.refl db, respects_nil db, once_nil db db⟩
  | some case =>
      obtain ⟨-, hheld⟩ := holds_of_get? utcnow hcase
      obtain ⟨e, hverdict, hdone⟩ := uiCreateLink_eq executor utcnow hcase
      have hconducted := Conducted.some
        (exec_conducts executor (uiLinkMeta "card_expired" case) "ui-demo")
      obtain ⟨hgoesOn, hhonest⟩ := honest_verdict hconducted (by
        rintro act ⟨⟩
        exact keeps_execConduct _ _ _) hverdict
      rw [hdone]
      refine ⟨.performed hheld hgoesOn hhonest, ?_, ?_⟩
      · refine respects_guarded hheld fun c hc => ⟨(hverdict.own hconducted).2 c hc, ?_⟩
        exact running_of_call hverdict hc
      · exact once_verdict hconducted hverdict ⟨rfl, rfl, Or.inl rfl⟩

/-- What is known of one entry. -/
structure Handled (entry : Entry) (db : Db) (out : Db × List ExecutorCall) : Prop where
  written : Written entry.Reports db (entry.committedCalls out.2) out.1
  respects : Respects db out.2
  once : entry.kept = true → Once db out.1 (guardedCalls out.2)
  single : ((guardedCalls out.2).map callKey).Nodup

/-- An entry whose calls are committed. -/
theorem Handled.of_once {entry : Entry} {db : Db} {out : Db × List ExecutorCall}
    (kept : entry.kept = true) (written : Written Honest db out.2 out.1)
    (respects : Respects db out.2) (once : Once db out.1 out.2) : Handled entry db out := by
  have hguarded : Once db out.1 (guardedCalls out.2) := once.filter _
  refine ⟨?_, respects, fun _ => hguarded, hguarded.nodup⟩
  rw [Entry.committedCalls, if_pos kept]
  exact written.mono (Entry.reports_of_honest entry)

/-- An entry that calls nobody. -/
theorem Handled.of_quiet {entry : Entry} {db : Db} {out : Db × List ExecutorCall}
    (written : Written entry.Reports db [] out.1) (quiet : out.2 = []) :
    Handled entry db out := by
  obtain ⟨db', calls⟩ := out
  cases quiet
  refine ⟨?_, respects_nil db, fun _ => once_nil db db', List.nodup_nil⟩
  rw [Entry.committedCalls, ite_self]
  exact written

theorem handle_handled (utcnow : ℕ → DateTime) (db : Db) (entry : Entry) :
    Handled entry db (handle utcnow db entry) := by
  have hhonest := Entry.reports_of_honest entry
  cases entry with
  | webhook env req => exact .of_quiet ((postRazorpay_written env req db).mono hhonest) rfl
  | executeRun env req =>
      obtain ⟨hwritten, hrespects, honce⟩ := executeRunStep_written utcnow db (env, req)
      exact .of_once rfl hwritten hrespects honce
  | guardCheck env req =>
      obtain ⟨hwritten, hrespects, honce⟩ := guardCheckStep_written utcnow db (env, req)
      exact .of_once rfl hwritten hrespects honce
  | createLink executor caseId =>
      obtain ⟨hwritten, hrespects, honce⟩ := uiCreateLink_written executor utcnow db caseId
      exact .of_once rfl hwritten hrespects honce
  | replay env fixture =>
      obtain ⟨hwritten, hcalls⟩ := replayStep_written utcnow db (env, fixture)
      refine .of_quiet (hwritten.mono fun case e h => ⟨fun hunblocked => h.tells ?_, ?_⟩) hcalls
      · simpa [Entry.unblocked] using hunblocked
      · intro f hf hkind
        exact (h.backs f hf hkind).imp_right fun hshown => ⟨env, fixture, rfl, hshown⟩
  | fraudGate env amountPaise =>
      obtain ⟨hwritten, hcalls⟩ := fraudGateStep_written utcnow db (env, amountPaise)
      exact .of_quiet (hwritten.mono hhonest) hcalls
  | opening env input => exact .of_quiet ((openStep_written env input db).mono hhonest) rfl
  | safety env input rag caseId committed =>
      obtain ⟨hwritten, hrespects, honce⟩ := safetyStep_written env input rag caseId committed db
      obtain ⟨-, -, hcommitted⟩ := safetyStep_written env input rag caseId true db
      have hsame : (safetyStep env input rag caseId committed db).2 =
          (safetyStep env input rag caseId true db).2 := by
        unfold safetyStep
        split <;> rfl
      refine ⟨hwritten.mono hhonest, hrespects, honce, ?_⟩
      change ((guardedCalls (safetyStep env input rag caseId committed db).2).map callKey).Nodup
      rw [hsame]
      exact (hcommitted rfl).nodup

/-!
## Over runs
-/

section

variable (utcnow : ℕ → DateTime)

theorem handle_growing : Run.Growing (handle utcnow) Extends where
  refl := .refl
  trans := .trans
  step := fun db entry => (handle_handled utcnow db entry).written.extended

theorem sound_final {db : Db} (hsound : Sound db) (entries : List Entry) :
    Sound (Run.final (handle utcnow) db entries) :=
  Run.final_of_step (handle utcnow)
    (fun db entry hdb => (handle_handled utcnow db entry).written.sound hdb) hsound entries

/-- Whatever comes, and wherever live flows are left: nothing that a state holds is taken back
or changed in a later one, and nothing hangs in the air. -/
theorem nothing_taken_back (entries later : List Entry) :
    Sound (Run.final (handle utcnow) Db.empty entries) ∧
      Extends (Run.final (handle utcnow) Db.empty entries)
        (Run.final (handle utcnow) Db.empty (entries ++ later)) :=
  ⟨sound_final utcnow sound_empty entries,
    (handle_growing utcnow).final_append Db.empty entries later⟩

/-- No executor is called any more for a case that is stopped. -/
theorem never_called {db : Db} {caseId : String} {case : CaseRow}
    (hcase : db.cases.get? caseId = some case) (hstopped : isCaseStopped case = true)
    (entries : List Entry) : ∀ c ∈ Run.emitted (handle utcnow) db entries, c.caseId ≠ caseId := by
  intro c hc
  have hnever := (handle_growing utcnow).not_mem_emitted
    (fun db c => ∃ case, db.cases.get? c.caseId = some case ∧ isCaseStopped case = true)
    ?_ ?_ (s := db) (c := c)
  · rintro rfl
    exact hnever ⟨case, hcase, hstopped⟩ entries hc
  · rintro s t d hextends ⟨row, hrow, hclosed⟩
    obtain ⟨row', hrow', hlater⟩ := hextends.cases _ row hrow
    exact ⟨row', hrow', hlater.stopped hclosed⟩
  · rintro s entry d hd ⟨row, hrow, hclosed⟩
    have hrunning := (handle_handled utcnow s entry).respects d hd row hrow
    exact Bool.false_ne_true (hrunning.symm.trans hclosed)

def paidCase : CaseRow := { freshCase with status := .recovered }

/-- A case that is stopped or recovered is so for good, and no executor is called for it any
more. -/
theorem stopped_for_good {db : Db} {caseId : String} {case : CaseRow}
    (hcase : db.cases.get? caseId = some case) (hstopped : isCaseStopped case = true)
    (entries : List Entry) :
    (∀ c ∈ Run.emitted (handle utcnow) db entries, c.caseId ≠ caseId) ∧
      ∃ case', (Run.final (handle utcnow) db entries).cases.get? caseId = some case' ∧
        isCaseStopped case' = true ∧ (case.status = .recovered → case'.status = .recovered) := by
  have hgrown := (handle_growing utcnow).final db entries
  obtain ⟨case', hcase', hcontinues⟩ := hgrown.cases caseId case hcase
  exact ⟨never_called utcnow hcase hstopped entries, case', hcase',
    hcontinues.stopped hstopped, hcontinues.recovered⟩

/-- A paid case gets no link any more. -/
theorem stopped_for_good_paid :
    (∀ c ∈ Run.emitted (handle fun _ => daytime) (Db.single paidCase)
        [.createLink linkExecutor "case_1"], c.caseId ≠ "case_1") ∧
      ∃ case', (Run.final (handle fun _ => daytime) (Db.single paidCase)
          [.createLink linkExecutor "case_1"]).cases.get? "case_1" = some case' ∧
        isCaseStopped case' = true ∧ (paidCase.status = .recovered → case'.status = .recovered) :=
  @stopped_for_good (fun _ => daytime) (Db.single paidCase) "case_1" paidCase rfl rfl
    [.createLink linkExecutor "case_1"]

/-- As long as no replay shows a gate that blocks, the statuses are the fold of the ledger. -/
theorem statuses_fold {entries : List Entry}
    (hunblocked : ∀ entry ∈ entries, entry.unblocked = true) :
    Consistent (Run.final (handle utcnow) Db.empty entries) := by
  refine Run.final_of_preserved (handle utcnow) (P := fun _ entry => entry.unblocked = true)
    ?_ consistent_empty (Run.along_of_forall_mem (handle utcnow) Db.empty hunblocked)
  intro db entry hdb hentry
  have htells := (handle_handled utcnow db entry).written.mono fun _ _ h => h.tells hentry
  exact htells.consistent hdb

theorem statuses_fold_fraud :
    Consistent (Run.final (handle fun _ => daytime) Db.empty
      [.fraudGate ⟨"0123456789", "case_1", daytime, "a1b2"⟩ 49900,
        .createLink linkExecutor "case_1"]) :=
  statuses_fold (fun _ => daytime) (by simp [Entry.unblocked])

/-- The keys of the guarded calls are recorded in the ledger. -/
theorem handle_recording :
    Run.Recording (Run.showing (handle utcnow) fun c => ¬NotGated c) callKey replayedKeys
      fun _ entry => entry.kept = true where
  kept := fun db entry =>
    (handle_handled utcnow db entry).written.extended.replayedKeys_subset
  fresh := fun db entry hkept c hc => ((handle_handled utcnow db entry).once hkept c hc).2.1
  noted := fun db entry hkept c hc => ((handle_handled utcnow db entry).once hkept c hc).2.2
  single := fun db entry => (handle_handled utcnow db entry).single

/-- Where every live flow is carried to its commit, no action goes through the guard to an
executor twice on one case, whichever requests ask for it, and none that the ledger tells of
already. -/
theorem guarded_once (db : Db) {entries : List Entry}
    (hkept : ∀ entry ∈ entries, entry.kept = true) :
    ((guardedCalls (Run.emitted (handle utcnow) db entries)).map callKey).Nodup ∧
      ∀ c ∈ guardedCalls (Run.emitted (handle utcnow) db entries),
        callKey c ∉ replayedKeys db ∧
          callKey c ∈ replayedKeys (Run.final (handle utcnow) db entries) := by
  have halong := Run.along_of_forall_mem
    (Run.showing (handle utcnow) fun c => ¬NotGated c) db hkept
  have hrecording := handle_recording utcnow
  rw [guardedCalls, ← Run.emitted_showing, ← Run.final_showing fun c => ¬NotGated c]
  exact ⟨hrecording.emitted_nodup halong, fun c hc =>
    ⟨hrecording.emitted_fresh halong c hc, hrecording.emitted_noted halong c hc⟩⟩

/-- The button gives its link once. -/
theorem guarded_once_button :
    ((guardedCalls (Run.emitted (handle fun _ => daytime) freshDb
      [.createLink linkExecutor "case_1", .createLink linkExecutor "case_1"])).map
        callKey).Nodup :=
  (guarded_once (fun _ => daytime) freshDb (by simp [Entry.kept])).1

/-!
## Live flows
-/

/-- One of the two sessions of the flow. -/
inductive OfFlow (env : DemoEnv) (input : DemoInput) : Entry → Prop where
  | opening : OfFlow env input (.opening env input)
  | safety {rag : RagMetrics} {caseId : String} {committed : Bool}
      (retrieved : env.retrieve input.rawErrorReason = .ok rag) :
      OfFlow env input (.safety env input rag caseId committed)

/-- Wherever a live flow is left, a run of its two sessions commits and calls what it has
committed and called. -/
theorem flow_is_entries {env : DemoEnv} {input : DemoInput} {db : Db} {w : World}
    (hw : Left env input db w) :
    ∃ entries, (∀ entry ∈ entries, OfFlow env input entry) ∧
      w.committed = Run.final (handle utcnow) db entries ∧
        w.calls = Run.emitted (handle utcnow) db entries := by
  cases left_serial hw with
  | untouched committed calls =>
      exact ⟨[], fun _ h => absurd h List.not_mem_nil, committed, calls⟩
  | opened committed calls =>
      refine ⟨[.opening env input], fun entry hentry => ?_, ?_, ?_⟩
      · rw [List.mem_singleton.1 hentry]
        exact .opening
      · rw [committed]
        rfl
      · rw [calls]
        rfl
  | @analysed caseId rag kept _ retrieved done =>
      refine ⟨[.opening env input, .safety env input rag caseId kept], fun entry hentry => ?_, ?_,
        ?_⟩
      · rcases List.mem_cons.1 hentry with rfl | hentry
        · exact .opening
        · rw [List.mem_singleton.1 hentry]
          exact .safety retrieved
      · rw [(Prod.mk.inj done).1]
        rfl
      · rw [(Prod.mk.inj done).2, Run.emitted_cons, Run.emitted_cons]
        exact (List.append_nil _).symm

/-- A live run on an expired card that is seen to its end. -/
theorem flow_is_entries_card_expired :
    ∃ entries, (∀ entry ∈ entries, OfFlow offlineEnv (liveInput "card_expired") entry) ∧
      (liveEnd "card_expired").committed =
          Run.final (handle fun _ => daytime) Db.empty entries ∧
        (liveEnd "card_expired").calls =
          Run.emitted (handle fun _ => daytime) Db.empty entries :=
  flow_is_entries (fun _ => daytime) (Or.inl rfl)

/-!
## Replays
-/

/-- The event of a fixture is valid whenever it is shown. -/
theorem event_ok (env' : ReplayEnv) {env : ReplayEnv} {f : ReplayFixture} {event : RiskEvent}
    (h : f.event env = .ok event) : ∃ event', f.event env' = .ok event' := by
  unfold ReplayFixture.event at h ⊢
  split at h
  · next hday =>
      split at h
      · cases h
      · next hamount =>
          rw [dif_pos hday, if_neg hamount]
          exact ⟨_, rfl⟩
  · cases h

/-- A fixture with an event id is shown once. Whatever has come since, a later replay finds
the case of the first one and writes nothing, and on that case the proposal of the fixture
goes through the gates no more. -/
theorem replayed_once {db : Db} (hsound : Sound db) {env : ReplayEnv} {f : ReplayFixture}
    {eventId : String} (hgiven : f.eventId = some eventId) (hnonempty : eventId ≠ "")
    {event : RiskEvent} (hvalid : f.event env = .ok event)
    (hevent : db.processed.get? eventId = none) (hcase : db.cases.get? env.newCaseId = none)
    (hstorable : event.amountPaise < storableAmount) (entries : List Entry) (env' : ReplayEnv) :
    let later := Run.final (handle utcnow) db (.replay env f :: entries)
    (∃ case, later.cases.get? env.newCaseId = some case ∧
      replayFixture env' (openSession utcnow later) f =
        .ok (.existing env.newCaseId eventId case.status, openSession utcnow later)) ∧
    ∀ case ctx, case.id = env.newCaseId → FreshContext case ctx →
      actionFingerprint case.id ctx.action = f.fingerprint case.id →
        ¬LetThrough (openSession utcnow later) case ctx := by
  have hsame : ∀ env, f.eventIdOr env = eventId := by
    intro env
    rw [ReplayFixture.eventIdOr, hgiven, Option.filter_some, if_pos (by simpa using hnonempty)]
    rfl
  rw [← hsame env] at hevent
  obtain ⟨ingested, s, result, -, hown, hfirst, hresult⟩ :=
    replayFixture_of_fresh (s := openSession utcnow db) env hvalid hevent hcase hstorable
  set t := s.perform (showcaseEffect f (openedCase env.newCaseId event))
  intro later
  have hlater : later = Run.final (handle utcnow) t.db entries := by
    have hstep : handle utcnow db (.replay env f) = (t.db, t.calls) := by
      simp only [handle, replayStep, hfirst]
    change Run.final (handle utcnow) (handle utcnow db (.replay env f)).1 entries = _
    rw [hstep]
  obtain ⟨hwritten, -, mark, hmark, hmarked⟩ := replayFixture_written hfirst
  have hgrown : Extends t.db later := by
    rw [hlater]
    exact (handle_growing utcnow).final t.db entries
  have hsound' : Sound later := by
    rw [hlater]
    exact sound_final utcnow (hwritten.sound hsound) entries
  constructor
  · obtain ⟨event', hvalid'⟩ := event_ok env' hvalid
    have hremembered : (openSession utcnow later).db.processed.get? (f.eventIdOr env') =
        some mark := by
      rw [hsame env', ← hsame env]
      exact hgrown.processed _ mark hmark
    have hagain := replayFixture_handled hvalid' hsound' hremembered
    rwa [hmarked, hresult, hsame env'] at hagain
  · rintro case ctx hid hfresh hfingerprint hlet
    have hnew := hfresh.idempotency_passed_iff.1 (idempotency_of_allPassed hlet.passed)
    rw [hfingerprint, hid] at hnew
    exact hnew (hgrown.replayedKeys_subset
      (fingerprint_replayed s f (openedCase env.newCaseId event)))

end

/-- What becomes of the shipped fixture when the link button is tried on its case. -/
def shownAndTried : Db :=
  Run.final (handle fun _ => daytime) Db.empty
    [.replay ⟨"01234567", "case_1", daytime⟩ demoReplay, .createLink linkExecutor "case_1"]

theorem replayed_once_demo_replay :
    ∃ case, shownAndTried.cases.get? "case_1" = some case ∧
      replayFixture ⟨"89abcdef", "case_2", daytime⟩ (openSession (fun _ => daytime) shownAndTried)
        demoReplay = .ok (.existing "case_1" "demo_replay_card_expired_v1" case.status,
          openSession (fun _ => daytime) shownAndTried) :=
  (@replayed_once (fun _ => daytime) _ sound_empty ⟨"01234567", "case_1", daytime⟩ demoReplay _
    rfl (by decide) _ rfl rfl rfl (by decide) [.createLink linkExecutor "case_1"]
    ⟨"89abcdef", "case_2", daytime⟩).1

end RecoveryAgent.Api
