import RecoveryAgent.Api.OwnCase
import RecoveryAgent.Ledger.Trail

/-!
# The replayed fixture

`demo/replay.py`: one showcase case with its whole trail, written from a fixture without any
gate or executor. The event of the fixture is handled once, so a second replay only names the
case of the first one.
-/

namespace RecoveryAgent.Demo

open Library Python Policy Ledger Guard Execute Api Runs

def defaultDiagnosis : Fields :=
  [("summary", .str "Card looks expired; silent retry will not help."),
    ("likely_class", .str "dead_instrument"),
    ("confidence", .float (.fin (91 / 100))),
    ("rationale", .str "Decline text maps to expired instrument.")]

def defaultProposal : Fields :=
  [("verb", .str "send_payment_link"),
    ("channel", .str "link"),
    ("day_offset", .int 0),
    ("reason_code", .str "AI_LINK_DEAD"),
    ("note", .str "Ask payer to update card via payment link")]

def defaultOutcome : Fields :=
  [("ok", .bool true),
    ("external_id", .str "plink_demo_abc123"),
    ("recovered", .bool false),
    ("status", .str "created_link"),
    ("note", .str "dry_run_or_fixture")]

/-- `data.get(key) or default`. -/
def givenFields (given default : Fields) : Fields := if given.isEmpty then default else given

/-- A fixture with its numbers and names read. Where the proposal and the outcome are used as
texts, they hold texts, and the fingerprint of the proposal can be composed. -/
structure ReplayFixture where
  eventId : Option String := none
  merchantId : String := "merch_demo"
  payerRef : String := "payer_demo"
  amountPaise : ℤ := 49900
  rail : Rail := .card
  rawErrorReason : String := "card_expired"
  rawErrorCode : String := ""
  observedCreditDay : Option ℤ := none
  failureClass : String := "dead_instrument"
  score : PyFloat := .fin (35 / 100)
  includeGateBlock : Bool := true
  diagnosis : Fields := []
  proposal : Fields := []
  outcome : Fields := []
  readable : ∀ key ∈ ["verb", "day_offset", "channel", "reason_code"], ∀ v,
    (givenFields proposal defaultProposal).get? key = some v → v.text?.isSome = true
  texts : ∀ key ∈ ["verb", "reason_code"], ∀ v,
    (givenFields proposal defaultProposal).get? key = some v → ∃ t, v = .str t
  status : ∀ v, (givenFields outcome defaultOutcome).get? "status" = some v → ∃ t, v = .str t

/-- What the replay finds outside the program. -/
structure ReplayEnv where
  eventHex : String
  newCaseId : String
  now : DateTime

inductive ReplayError where
  | own (e : OwnCaseError)
  | validation (fields : List String)

inductive ReplayResult where
  | existing (caseId eventId : String) (status : CaseStatus)
  | replayed (caseId eventId : String) (status : CaseStatus) (failureClass : Option String)
      (externalId : Json)

def ReplayResult.caseId : ReplayResult → String
  | existing caseId .. => caseId
  | replayed caseId .. => caseId

namespace ReplayFixture

/-- `data.get("event_id")`, or a made-up id. -/
def eventIdOr (f : ReplayFixture) (env : ReplayEnv) : String :=
  (f.eventId.filter fun eventId => eventId ≠ "").getD ("demo_replay_" ++ env.eventHex)

def diagnosisOr (f : ReplayFixture) : Fields := givenFields f.diagnosis defaultDiagnosis

def proposalOr (f : ReplayFixture) : Fields := givenFields f.proposal defaultProposal

def outcomeOr (f : ReplayFixture) : Fields := givenFields f.outcome defaultOutcome

/-- The failure of the showcase, if it is a valid one. -/
def event (env : ReplayEnv) (f : ReplayFixture) : Except ReplayError RiskEvent :=
  if hday : ∀ d ∈ f.observedCreditDay, 1 ≤ d ∧ d ≤ 28 then
    if f.amountPaise < 0 then .error (.validation ["amount_paise"])
    else
      .ok
        { eventId := f.eventIdOr env
          source := .simulator
          occurredAt := env.now
          merchantId := f.merchantId
          payerRef := f.payerRef
          amountPaise := f.amountPaise.toNat
          rail := f.rail
          rawErrorReason := f.rawErrorReason
          rawErrorCode := f.rawErrorCode
          payerContext := { observedCreditDay := f.observedCreditDay, creditDay := hday } }
  else .error (.validation ["observed_credit_day"])

end ReplayFixture

/-!
## The rows
-/

/-- A row of the replayed model. -/
def modelFact (caseId : String) (kind : LedgerKind) (payload : Fields) (reasonCode : String)
    (readable : kind = .action → ActionReadable payload) : LedgerFact where
  caseId
  kind
  actor := .llm
  payload
  reasonCode
  policyVersion := "phase8-demo"
  readable

def diagnosisFact (f : ReplayFixture) (caseId : String) : LedgerFact :=
  modelFact caseId .classification f.diagnosisOr "AI_DIAGNOSIS" nofun

def decisionFact (f : ReplayFixture) (caseId : String) : LedgerFact :=
  modelFact caseId .decision [("action", .obj f.proposalOr), ("proposed_by", .str "llm")]
    (fieldText f.proposalOr "reason_code" "AI_PROPOSAL") nofun

/-- A gate row of the showcase. No gate was asked. -/
def shownGate (caseId gate reasonCode : String) (gateResult : GateResult) (payload : Fields) :
    LedgerFact where
  caseId
  kind := .gateCheck
  actor := .system
  payload := ("gate", .str gate) :: payload
  reasonCode
  policyVersion := "phase8-demo"
  gateName := some gate
  gateResult := some gateResult

def blockFact (caseId : String) : LedgerFact :=
  shownGate caseId "contact_window" "GATE_WINDOW" .blocked [("hour_ist", .int 23)]

def passFacts (caseId : String) : List LedgerFact :=
  shownGate caseId "contact_window" "GATE_WINDOW_OK" .passed [("hour_ist", .int 11)] ::
    ([("frequency_cap", "GATE_FREQ_OK"), ("mandate_validity", "GATE_MANDATE_OK"),
      ("attempt_cap", "GATE_ATTEMPT_OK"), ("idempotency", "GATE_IDEM_OK")].map fun g =>
        shownGate caseId g.1 g.2 .passed [])

theorem replayedAction_readable (f : ReplayFixture) :
    ActionReadable [("action", .obj f.proposalOr)] where
  fingerprint := nofun
  action := by
    rintro v ⟨⟩ -
    exact ⟨f.proposalOr, rfl, f.readable⟩

def replayedActionFact (f : ReplayFixture) (caseId : String) : LedgerFact where
  caseId
  kind := .action
  actor := .system
  payload := [("action", .obj f.proposalOr)]
  reasonCode := fieldText f.proposalOr "reason_code" "EXECUTE"
  policyVersion := "phase8-demo"
  readable := fun _ => replayedAction_readable f

def replayedOutcomeFact (f : ReplayFixture) (caseId : String) : LedgerFact where
  caseId
  kind := .outcome
  actor := .system
  payload := f.outcomeOr
  reasonCode := fieldText f.outcomeOr "status" "created_link"
  policyVersion := "phase8-demo"

/-!
## The replay
-/

/-- The case once it is classified. -/
def classified (f : ReplayFixture) (case : CaseRow) : CaseRow :=
  { case with failureClass := some f.failureClass, score := some f.score }

/-- The case at the end of the showcase. -/
def showcased (f : ReplayFixture) (case : CaseRow) : CaseRow :=
  { case with
    status := .opened
    lastAction := some (fieldText f.proposalOr "verb" "send_payment_link")
    contactsUsed := 1 }

/-- The part that a first replay writes. -/
def writeShowcase (f : ReplayFixture) (case : CaseRow) (s : Session) : CaseRow × Session :=
  let case := classified f case
  let s := s.add case
  let s := s.appendLedger (diagnosisFact f case.id)
  let s := s.appendLedger (decisionFact f case.id)
  let (case, s) :=
    if f.includeGateBlock then
      let s := s.appendLedger (blockFact case.id)
      let case := { case with status := .blocked }
      (case, s.add case)
    else (case, s)
  let s := s.record (passFacts case.id)
  let case := showcased f case
  let s := s.add case
  let s := s.appendLedger (replayedActionFact f case.id)
  (case, s.appendLedger (replayedOutcomeFact f case.id))

/-- `replay_fixture`. The texts of a fixture have an encoding. -/
def replayFixture (env : ReplayEnv) (s : Session) (f : ReplayFixture) :
    Except ReplayError (ReplayResult × Session) := do
  let event ← f.event env
  let (ingested, case, s) ← (openOwnCase .scalar s env.newCaseId event).mapError .own
  if ingested.duplicate then
    return (.existing case.id event.eventId case.status, s)
  else
    let (case, s) := writeShowcase f case s
    return (.replayed case.id event.eventId case.status case.failureClass
      (Fields.item f.outcomeOr "external_id"), s)

def replayStep (utcnow : ℕ → DateTime) (db : Db) (request : ReplayEnv × ReplayFixture) :
    Db × List ExecutorCall :=
  match replayFixture request.1 (openSession utcnow db) request.2 with
  | .ok (_, s) => (s.db, s.calls)
  | .error _ => (db, [])

/-!
## What is written
-/

def showcaseFacts (f : ReplayFixture) (caseId : String) : List LedgerFact :=
  [diagnosisFact f caseId, decisionFact f caseId] ++
    (if f.includeGateBlock then [blockFact caseId] else []) ++ passFacts caseId ++
    [replayedActionFact f caseId, replayedOutcomeFact f caseId]

/-- What the showcase writes on its case. -/
def showcaseEffect (f : ReplayFixture) (case : CaseRow) : Effect where
  case := showcased f (classified f case)
  facts := showcaseFacts f case.id

theorem showcaseFacts_own (f : ReplayFixture) (caseId : String) :
    ∀ e ∈ showcaseFacts f caseId, e.caseId = caseId := by
  intro e he
  unfold showcaseFacts at he
  split at he
  · simp only [List.mem_append, List.mem_cons, List.not_mem_nil, or_false, passFacts,
      List.map_cons, List.map_nil] at he
    rcases he with ((((rfl | rfl) | rfl) | rfl | rfl | rfl | rfl | rfl) | rfl | rfl) <;> rfl
  · simp only [List.mem_append, List.mem_cons, List.not_mem_nil, or_false, passFacts,
      List.map_cons, List.map_nil] at he
    rcases he with (((rfl | rfl) | rfl | rfl | rfl | rfl | rfl) | rfl | rfl) <;> rfl

/-- Rows that follow an effect belong to it. -/
theorem perform_record {s : Session} {case : CaseRow} (hheld : s.Holds case) {e : Effect}
    (hid : e.case.id = case.id) (facts : List LedgerFact) :
    (s.perform e).record facts = s.perform ⟨e.case, e.facts ++ facts, e.calls⟩ := by
  rw [(hheld.perform hid).record_eq_perform, Session.perform_perform]
  · rw [List.append_nil]
  · rfl

/-- A case that is written after an effect on it belongs to it. -/
theorem perform_add (s : Session) {e : Effect} {case : CaseRow} (hid : e.case.id = case.id) :
    (s.perform e).add case = s.perform ⟨case, e.facts, e.calls⟩ := by
  rw [Session.add_eq_perform, Session.perform_perform]
  · rw [List.append_nil, List.append_nil]
  · exact hid

/-- The showcase is one effect on its case. -/
theorem writeShowcase_eq {s : Session} {case : CaseRow} (hheld : s.Holds case)
    (f : ReplayFixture) :
    writeShowcase f case s = (showcased f (classified f case),
      s.perform (showcaseEffect f case)) := by
  have hrecord : ∀ (c : CaseRow) (before after : List LedgerFact), c.id = case.id →
      (s.perform ⟨c, before, []⟩).record after = s.perform ⟨c, before ++ after, []⟩ :=
    fun c before after hid => perform_record hheld hid after
  have hadd : ∀ (c c' : CaseRow) (facts : List LedgerFact), c.id = c'.id →
      (s.perform ⟨c, facts, []⟩).add c' = s.perform ⟨c', facts, []⟩ :=
    fun c c' facts hid => perform_add s hid
  have happend : ∀ (t : Session) (f : LedgerFact), t.appendLedger f = t.record [f] :=
    fun t f => rfl
  unfold writeShowcase showcaseEffect showcaseFacts
  cases f.includeGateBlock with
  | true =>
      simp only [if_true, happend, Session.add_eq_perform s, List.append_assoc]
      rw [hrecord, hrecord, hrecord, hadd, hrecord, hadd, hrecord, hrecord]
      all_goals rfl
  | false =>
      simp only [Bool.false_eq_true, if_false, happend, Session.add_eq_perform s]
      rw [hrecord, hrecord, hrecord, hadd, hrecord, hrecord]
      all_goals rfl

theorem goesOn_showcase (f : ReplayFixture) (caseId : String) (event : RiskEvent) :
    GoesOn (openedCase caseId event) (showcaseEffect f (openedCase caseId event)) where
  continues := by
    refine ⟨rfl, rfl, rfl, rfl, rfl, rfl, le_rfl, Nat.zero_le 1, ?_, ?_⟩
    · intro hstopped
      cases hstopped
    · intro hrecovered
      cases hrecovered
  own := showcaseFacts_own f caseId

/-- A showcase without a gate that blocks leaves the case as its trail tells. -/
theorem tells_showcase {f : ReplayFixture} (hblock : f.includeGateBlock = false)
    (caseId : String) (event : RiskEvent) :
    Tells (openedCase caseId event) (showcaseEffect f (openedCase caseId event)) := by
  have hrows : ∀ e ∈ (showcaseFacts f caseId).map (·.toLedgerColumns),
      e.kind ≠ .stop ∧ (e.kind = .gateCheck → e.gateResult ≠ some .blocked) := by
    simp [showcaseFacts, hblock, diagnosisFact, decisionFact, modelFact, passFacts, shownGate,
      replayedActionFact, replayedOutcomeFact]
  intro trail htold
  exact htold.append_passed rfl (fun e he => (hrows e he).1) (fun e he => (hrows e he).2) rfl rfl

/-- An effect of a replay. It keeps row and trail together where no gate is shown to block, and
the outcome of the fixture is backed by no call. -/
structure Shown (f : ReplayFixture) (case : CaseRow) (e : Effect) : Prop where
  tells : f.includeGateBlock = false → Tells case e
  backs : ∀ g ∈ e.facts, g.kind = .outcome →
    Backed e.calls g.caseId g.payload ∨ g.payload = f.outcomeOr

theorem shown_of_honest {case : CaseRow} {e : Effect} (h : Honest case e) (f : ReplayFixture) :
    Shown f case e :=
  ⟨fun _ => h.tells, fun g hg hkind => Or.inl (h.backs g hg hkind)⟩

theorem shown_showcase (f : ReplayFixture) (caseId : String) (event : RiskEvent) :
    Shown f (openedCase caseId event) (showcaseEffect f (openedCase caseId event)) where
  tells := fun hblock => tells_showcase hblock caseId event
  backs := by
    intro g hg hkind
    right
    have hothers : ∀ e ∈ [diagnosisFact f caseId, decisionFact f caseId] ++
        (if f.includeGateBlock then [blockFact caseId] else []) ++ passFacts caseId ++
          [replayedActionFact f caseId], e.kind ≠ .outcome := by
      split <;> simp [diagnosisFact, decisionFact, modelFact, blockFact, passFacts, shownGate,
        replayedActionFact]
    have hsplit : (showcaseEffect f (openedCase caseId event)).facts =
        ([diagnosisFact f caseId, decisionFact f caseId] ++
          (if f.includeGateBlock then [blockFact caseId] else []) ++ passFacts caseId ++
            [replayedActionFact f caseId]) ++ [replayedOutcomeFact f caseId] := by
      simp only [showcaseEffect, showcaseFacts, List.append_assoc]
      rfl
    rw [hsplit] at hg
    rcases List.mem_append.1 hg with hg | hg
    · exact absurd hkind (hothers g hg)
    · rw [List.mem_singleton.1 hg]
      rfl

section

variable {env : ReplayEnv} {f : ReplayFixture} {s t : Session} {result : ReplayResult}

theorem event_eventId {event : RiskEvent} (h : f.event env = .ok event) :
    event.eventId = f.eventIdOr env := by
  unfold ReplayFixture.event at h
  split at h
  · split at h
    · cases h
    · cases h
      rfl
  · cases h

/-- A replay that returns has found its event handled and written nothing, or has opened a case
and shown the fixture on it. -/
theorem replayFixture_eq_ok (h : replayFixture env s f = .ok (result, t)) :
    ∃ event ingested case s', f.event env = .ok event ∧
      openOwnCase .scalar s env.newCaseId event = .ok (ingested, case, s') ∧
      ((ingested.duplicate = true ∧ t = s' ∧
          result = .existing case.id event.eventId case.status) ∨
        (ingested.duplicate = false ∧ t = s'.perform (showcaseEffect f case) ∧
          result = .replayed case.id event.eventId .opened (some f.failureClass)
            (Fields.item f.outcomeOr "external_id"))) := by
  obtain ⟨event, hevent, h⟩ := bind_eq_ok h
  obtain ⟨⟨ingested, case, s'⟩, hopen, h⟩ := bind_eq_ok h
  have hopen' := mapError_eq_ok_iff.1 hopen
  refine ⟨event, ingested, case, s', hevent, hopen', ?_⟩
  cases hduplicate : ingested.duplicate with
  | true =>
      simp only [hduplicate, if_true] at h
      cases h
      exact Or.inl ⟨rfl, rfl, rfl⟩
  | false =>
      simp only [hduplicate, Bool.false_eq_true, if_false,
        writeShowcase_eq (openOwnCase_eq_ok hopen').held f] at h
      cases h
      exact Or.inr ⟨rfl, rfl, rfl⟩

/-- A replay calls nobody, and leaves its event handled. -/
theorem replayFixture_written (h : replayFixture env s f = .ok (result, t)) :
    Written (Shown f) s.db [] t.db ∧ t.calls = s.calls ∧
      ∃ mark, t.db.processed.get? (f.eventIdOr env) = some mark ∧
        mark.caseId = result.caseId := by
  obtain ⟨event, ingested, case, s', hevent, hopen, hdone⟩ := replayFixture_eq_ok h
  have hown := openOwnCase_eq_ok hopen
  have hwritten : Written (Shown f) s.db [] s'.db := 
    hown.written.mono fun _ _ h => shown_of_honest h f
  obtain ⟨mark, hmark, hid⟩ := hown.remembered
  rw [event_eventId hevent] at hmark
  rcases hdone with ⟨-, rfl, rfl⟩ | ⟨hfresh, rfl, rfl⟩
  · exact ⟨hwritten, hown.calls, mark, hmark, hid.trans hown.id.symm⟩
  · obtain ⟨rfl, -, -⟩ := hown.fresh hfresh
    refine ⟨hwritten.after (.performed hown.held (goesOn_showcase f _ event)
      (shown_showcase f _ event)), ?_, mark, hmark, hid.trans hown.id.symm⟩
    rw [Session.perform_calls, hown.calls]
    exact List.append_nil _

/-- The event of a fixture is handled already: nothing is written, and the case is named as it
is now. -/
theorem replayFixture_handled {event : RiskEvent} (hevent : f.event env = .ok event)
    (hsound : Sound s.db) {mark : ProcessedEventRow}
    (hmark : s.db.processed.get? (f.eventIdOr env) = some mark) :
    ∃ case, s.db.cases.get? mark.caseId = some case ∧
      replayFixture env s f =
        .ok (.existing mark.caseId (f.eventIdOr env) case.status, s) := by
  obtain ⟨case, hcase⟩ := Option.isSome_iff_exists.1 (hsound.marks _ mark hmark)
  have hid : case.id = mark.caseId := Table.key_of_get? hcase
  have hfound : s.findProcessed event.eventId = some mark := by
    rw [event_eventId hevent]
    exact hmark
  have hstore : storeRiskEvent .scalar s env.newCaseId event =
      .ok (⟨mark.caseId, event.eventId, true, none⟩, s) := by
    rw [storeRiskEvent_of_bound _ (Utf8.encodes_scalar _) (Or.inl (by rw [hfound]; rfl))]
    simp only [ingestRiskEvent, hfound]
    rfl
  have hload : s.getCase mark.caseId = some case := hcase
  refine ⟨case, hcase, ?_⟩
  rw [← event_eventId hevent, ← hid]
  simp only [replayFixture, hevent, openOwnCase, hstore, hload, Except.mapError, bind,
    Except.bind, if_true]
  rfl

end

theorem replayStep_written (utcnow : ℕ → DateTime) (db : Db)
    (request : ReplayEnv × ReplayFixture) :
    Written (Shown request.2) db [] (replayStep utcnow db request).1 ∧
      (replayStep utcnow db request).2 = [] := by
  unfold replayStep
  split
  · next result t h =>
      obtain ⟨hwritten, hcalls, -⟩ := replayFixture_written h
      exact ⟨hwritten, hcalls⟩
  · exact ⟨.refl db, rfl⟩

/-!
## The showcase
-/

/-- The fingerprint of the proposal on a case. -/
def ReplayFixture.fingerprint (f : ReplayFixture) (caseId : String) : String :=
  composeFingerprint caseId (fieldText f.proposalOr "verb" "")
    ((Fields.get? f.proposalOr "day_offset").getD .null) (fieldText f.proposalOr "channel" "none")
    (fieldText f.proposalOr "reason_code" "")

theorem proposalOr_isEmpty (f : ReplayFixture) : f.proposalOr.isEmpty = false := by
  unfold ReplayFixture.proposalOr givenFields
  split
  · rfl
  · next h => exact Bool.eq_false_iff.2 h

/-- The case of a showcase with its trail. The row is open; what its trail tells is blocked, as
soon as the fixture shows a gate that blocks: the gate rows that follow are one short of a
batch, since the first gate is not among them. The proposal counts as executed. -/
structure Showcased (db : Db) (f : ReplayFixture) (caseId : String) : Prop where
  row : ∃ case, db.cases.get? caseId = some case ∧ case.status = .opened ∧
    case.contactsUsed = 1 ∧ case.attemptsUsed = 0
  story : (db.trail caseId).map (·.kind) = [.event, .classification, .decision] ++
    List.replicate (if f.includeGateBlock then 6 else 5) .gateCheck ++ [.action, .outcome]
  told : statusOf (db.trail caseId) = if f.includeGateBlock then .blocked else .opened
  unasked : ∀ e ∈ db.trail caseId, e.gateName ≠ some "prohibited_recovery"
  executed : ∀ utcnow, f.fingerprint caseId ∈ executedFingerprints (openSession utcnow db) caseId

/-- What is shown counts as executed. -/
theorem fingerprint_replayed (s : Session) (f : ReplayFixture) (case : CaseRow) :
    (case.id, f.fingerprint case.id) ∈ replayedKeys (s.perform (showcaseEffect f case)).db := by
  refine ⟨(replayedActionFact f case.id).toLedgerColumns, ?_, rfl, ?_⟩
  · have htrail := s.perform_trail (e := showcaseEffect f case) (showcaseFacts_own f case.id)
    rw [htrail]
    refine List.mem_append_right _ (List.mem_map.2 ⟨replayedActionFact f case.id, ?_, rfl⟩)
    simp [showcaseEffect, showcaseFacts]
  · change (if f.proposalOr.isEmpty then none else some (f.fingerprint case.id)) = _
    rw [proposalOr_isEmpty]
    rfl

/-- A first replay of a valid fixture opens a case and shows the fixture on it. -/
theorem replayFixture_of_fresh {s : Session} (env : ReplayEnv) {f : ReplayFixture}
    {event : RiskEvent} (hvalid : f.event env = .ok event)
    (hevent : s.db.processed.get? (f.eventIdOr env) = none)
    (hcase : s.db.cases.get? env.newCaseId = none)
    (hstorable : event.amountPaise < storableAmount) :
    ∃ ingested t result, ingested.duplicate = false ∧
      OwnCase s t env.newCaseId event ingested (openedCase env.newCaseId event) ∧
      replayFixture env s f =
        .ok (result, t.perform (showcaseEffect f (openedCase env.newCaseId event))) ∧
      result.caseId = env.newCaseId := by
  have hunseen : s.findProcessed event.eventId = none := by
    rw [event_eventId hvalid]
    exact hevent
  obtain ⟨ingested, t, hopen, hfresh, -⟩ := openOwnCase_of_fresh (Utf8.encodes_scalar _)
    ((storable_scalar _).trans (decide_eq_true hstorable)) hunseen hcase
  have hown := openOwnCase_eq_ok hopen
  refine ⟨ingested, t, .replayed env.newCaseId event.eventId .opened (some f.failureClass)
    (Fields.item f.outcomeOr "external_id"), hfresh, hown, ?_, rfl⟩
  simp only [replayFixture, hvalid, hopen, Except.mapError, bind, Except.bind, hfresh,
    writeShowcase_eq hown.held f]
  rfl

/-- A first replay of a valid fixture leaves the fixture on a case of its own. -/
theorem replay_shows (utcnow : ℕ → DateTime) {db : Db} (hsound : Sound db) (env : ReplayEnv)
    {f : ReplayFixture} {event : RiskEvent} (hvalid : f.event env = .ok event)
    (hevent : db.processed.get? (f.eventIdOr env) = none)
    (hcase : db.cases.get? env.newCaseId = none) (hstorable : event.amountPaise < storableAmount) :
    ∃ result t, replayFixture env (openSession utcnow db) f = .ok (result, t) ∧
      result.caseId = env.newCaseId ∧ t.calls = [] ∧ Showcased t.db f env.newCaseId := by
  obtain ⟨ingested, s, result, hfresh, hown, hreturned, hid⟩ :=
    replayFixture_of_fresh (s := openSession utcnow db) env hvalid hevent hcase hstorable
  refine ⟨result, _, hreturned, hid, (replayFixture_written hreturned).2.1, ?_⟩
  set effect := showcaseEffect f (openedCase env.newCaseId event)
  have htrail : (s.perform effect).db.trail env.newCaseId =
      (ingestFact env.newCaseId event).toLedgerColumns ::
        (showcaseFacts f env.newCaseId).map (·.toLedgerColumns) := by
    have happended := s.perform_trail (e := effect) (showcaseFacts_own f env.newCaseId)
    rw [happended, hown.trail hsound hfresh]
    rfl
  refine ⟨⟨effect.case, hown.held.perform rfl, rfl, rfl, rfl⟩, ?_, ?_, ?_, fun utcnow => ?_⟩
  · rw [htrail]
    unfold showcaseFacts
    cases f.includeGateBlock <;> rfl
  · rw [htrail]
    unfold showcaseFacts
    cases f.includeGateBlock <;> rfl
  · rw [htrail]
    unfold showcaseFacts
    cases f.includeGateBlock <;>
      simp [ingestFact, diagnosisFact, decisionFact, modelFact, blockFact, passFacts, shownGate,
        replayedActionFact, replayedOutcomeFact]
  · exact mem_replayedKeys_iff.1 (fingerprint_replayed s f (openedCase env.newCaseId event))

/-- `fixtures/demo_replay.json`. -/
def demoReplay : ReplayFixture where
  eventId := some "demo_replay_card_expired_v1"
  rawErrorCode := "CARD_EXPIRED"
  score := .fin (32 / 100)
  diagnosis :=
    [("summary", .str "Instrument is expired. Retrying the same card wastes attempts."),
      ("likely_class", .str "dead_instrument"),
      ("confidence", .float (.fin (93 / 100))),
      ("rationale", .str ("Decline reason card_expired maps to dead_instrument; " ++
        "prefer one payment link over a blind retry ladder."))]
  proposal :=
    [("verb", .str "send_payment_link"),
      ("channel", .str "link"),
      ("day_offset", .int 0),
      ("reason_code", .str "AI_LINK_DEAD"),
      ("note", .str "One clear update-and-pay link; zero silent retries.")]
  outcome :=
    [("ok", .bool true),
      ("external_id", .str "plink_demo_abc123"),
      ("recovered", .bool false),
      ("status", .str "created_link"),
      ("note", .str "fixture_payment_link"),
      ("raw", .obj [("short_url", .str "https://rzp.io/i/demo")])]
  readable := by
    intro key hkey v hv
    simp only [List.mem_cons, List.not_mem_nil, or_false] at hkey
    rcases hkey with rfl | rfl | rfl | rfl <;> cases hv <;> rfl
  texts := by
    intro key hkey v hv
    simp only [List.mem_cons, List.not_mem_nil, or_false] at hkey
    rcases hkey with rfl | rfl <;> cases hv <;> exact ⟨_, rfl⟩
  status := by
    rintro v ⟨⟩
    exact ⟨_, rfl⟩

theorem replay_shows_demo_replay :
    ∃ result t, replayFixture ⟨"01234567", "case_1", daytime⟩
        (openSession (fun _ => daytime) Db.empty) demoReplay = .ok (result, t) ∧
      result.caseId = "case_1" ∧ t.calls = [] ∧ Showcased t.db demoReplay "case_1" :=
  replay_shows (fun _ => daytime) sound_empty ⟨"01234567", "case_1", daytime⟩
    (f := demoReplay) rfl rfl rfl (by decide)

end RecoveryAgent.Demo
