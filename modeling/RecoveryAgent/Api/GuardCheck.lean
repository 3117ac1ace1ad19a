import RecoveryAgent.Api.OwnCase
import RecoveryAgent.Api.RoutesExecute

/-!
# POST /guard/check

`api/routes_guard.py`: a throwaway case, an action proposed for it, and the verdict of the
gates on the counters, the clock and the flags of the request. With `force_execute` a stub
stands for the executor.
-/

namespace RecoveryAgent.Api

open Library Python Policy Ledger Guard Execute Runs

structure GuardCheckRequest where
  rawErrorReason : String := "card_expired"
  amountPaise : ℤ := 49900
  verb : ActionVerb := .sendPaymentLink
  channel : Channel := .link
  nowIso : Option String := none
  contactsUsed : ℤ := 0
  attemptsUsed : ℤ := 0
  maxContacts : ℤ := 2
  maxAttempts : ℤ := 3
  mandateState : MandateState := .active
  optOut : Bool := false
  forceExecute : Bool := false

inductive GuardCheckError where
  | own (e : OwnCaseError)
  | invalidIsoformat (text : String)
  | validation (fields : List String)
  | raised (e : PyError)

structure GuardCheckResponse where
  caseId : String
  allowed : Bool
  blockedBy : Option String
  skippedBecauseStopped : Bool
  executed : Bool
  executeCalls : List (ActionVerb × String)
  checks : List GateCheck
  caseStatus : CaseStatus

/-- What the route returns of a run of the pipeline. -/
def GuardCheckResponse.ofRun (run : GuardRun) : GuardCheckResponse where
  caseId := run.case.id
  allowed := run.result.allowed
  blockedBy := run.result.blockedBy
  skippedBecauseStopped := run.result.skippedBecauseStopped
  executed := run.result.executed
  executeCalls := run.session.calls.map fun c => (c.action.verb, c.caseId)
  checks := run.result.checks
  caseStatus := run.case.status

namespace GuardCheckRequest

/-- The failure of the throwaway case. -/
def event (env : Environment) (req : GuardCheckRequest) : RiskEvent where
  eventId := env.newEventId
  source := .simulator
  occurredAt := env.now
  merchantId := "merch_demo"
  payerRef := "payer_demo"
  amountPaise := req.amountPaise.toNat
  rail := .card
  rawErrorReason := req.rawErrorReason

def clock (env : Environment) (req : GuardCheckRequest) : Except GuardCheckError DateTime :=
  match req.nowIso with
  | none => .ok env.now
  | some text =>
      if text = "" then .ok env.now
      else
        match env.fromisoformat text with
        | some now => .ok now
        | none => .error (.invalidIsoformat text)

def action (req : GuardCheckRequest) : Action where
  verb := req.verb
  dayOffset := some 0
  channel := req.channel
  amountPaise := some req.amountPaise.toNat
  reasonCode := "DEMO_PROPOSAL"
  proposedBy := .llm

def context (req : GuardCheckRequest) (now : DateTime) (case : CaseRow) : GuardContext where
  caseId := case.id
  action := req.action
  now
  contactsUsed := req.contactsUsed
  attemptsUsed := req.attemptsUsed
  maxContacts := req.maxContacts
  maxAttempts := req.maxAttempts
  mandateState := some req.mandateState
  optOut := req.optOut

/-- `stub_execute`, where it is asked for. -/
def stub (req : GuardCheckRequest) : Option ExecuteFn :=
  if req.forceExecute then
    some (ExecuteFn.ofBackend fun _ _ =>
      [("ok", .bool true), ("external_id", .str "stub_1")])
  else none

end GuardCheckRequest

/-- `guard_check`, up to the commit. -/
def guardCheck (env : Environment) (s : Session) (req : GuardCheckRequest) :
    Except GuardCheckError (GuardCheckResponse × Session) :=
  if req.amountPaise < 0 then .error (.validation ["amount_paise"])
  else do
    let (_, case, s) ← (openOwnCase env.utf8 s env.newCaseId (req.event env)).mapError .own
    let now ← req.clock env
    let run ← (guardAndMaybeExecute s case (req.context now case) req.stub "phase6"
      []).mapError .raised
    return (GuardCheckResponse.ofRun run, run.session)

/-- One request as a step over the database. -/
def guardCheckStep (utcnow : ℕ → DateTime) (db : Db) (request : Environment × GuardCheckRequest) :
    Db × List ExecutorCall :=
  match guardCheck request.1 (openSession utcnow db) request.2 with
  | .ok (_, s) => (s.db, s.calls)
  | .error _ => (db, [])

/-!
## What a request does
-/

def GuardCheckRequest.conduct (req : GuardCheckRequest) : Option (Action → CaseRow → Conduct) :=
  if req.forceExecute then
    some fun _ case => ⟨[("ok", .bool true), ("external_id", .str "stub_1")], case, []⟩
  else none

theorem GuardCheckRequest.conducted (req : GuardCheckRequest) :
    Conducted req.stub req.conduct := by
  unfold GuardCheckRequest.stub GuardCheckRequest.conduct
  split
  · exact .some (ExecuteFn.ofBackend_conducts _)
  · exact .none

theorem GuardCheckRequest.keeps (req : GuardCheckRequest) :
    ∀ act, req.conduct = some act → Keeps act := by
  intro act hact
  unfold GuardCheckRequest.conduct at hact
  split at hact
  · cases hact
    exact ⟨fun _ case => .refl case, fun _ _ _ hf => absurd hf List.not_mem_nil⟩
  · cases hact

section

variable {env : Environment} {req : GuardCheckRequest} {s t : Session}
  {response : GuardCheckResponse}

/-- A request that returns has sent its own case through the pipeline. -/
theorem guardCheck_eq_ok (h : guardCheck env s req = .ok (response, t)) :
    ∃ ingested case s' now, openOwnCase env.utf8 s env.newCaseId (req.event env) =
        .ok (ingested, case, s') ∧
      req.clock env = .ok now ∧
        t = (guardRun s' case (req.context now case) req.stub "phase6" []).session := by
  unfold guardCheck at h
  split at h
  · cases h
  · obtain ⟨⟨ingested, case, s'⟩, hopen, h⟩ := bind_eq_ok h
    obtain ⟨now, hclock, h⟩ := bind_eq_ok h
    obtain ⟨run, hrun, h⟩ := bind_eq_ok h
    cases h
    have hran := mapError_eq_ok_iff.1 hrun
    refine ⟨ingested, case, s', now, mapError_eq_ok_iff.1 hopen, hclock, ?_⟩
    simp only [guardRun, hran]

theorem guardCheck_written (h : guardCheck env s req = .ok (response, t)) :
    ∃ made, t.calls = s.calls ++ made ∧ Written Honest s.db made t.db ∧ Respects s.db made ∧
      Once s.db t.db made := by
  obtain ⟨ingested, case, s', now, hopen, -, rfl⟩ := guardCheck_eq_ok h
  have hown := openOwnCase_eq_ok hopen
  have hextends := hown.written.extended
  obtain ⟨made, hmade, hrunning⟩ := calls_guarded hown.held (req.context now case) req.conducted
    "phase6" []
  have hwritten := written_guarded hown.held _ req.conducted req.keeps _ _ hmade
  have honce := once_guarded hown.held ⟨rfl, rfl, Or.inl rfl⟩ req.conducted "phase6" [] hmade
  refine ⟨made, ?_, hown.written.after hwritten,
    (respects_guarded hown.held hrunning).of_extends hextends, honce.of_extends hextends⟩
  rw [hmade, hown.calls]

end

theorem guardCheckStep_written (utcnow : ℕ → DateTime) (db : Db)
    (request : Environment × GuardCheckRequest) :
    Written Honest db (guardCheckStep utcnow db request).2 (guardCheckStep utcnow db request).1 ∧
      Respects db (guardCheckStep utcnow db request).2 ∧
      Once db (guardCheckStep utcnow db request).1 (guardCheckStep utcnow db request).2 := by
  unfold guardCheckStep
  split
  · next response t h =>
      obtain ⟨made, hcalls, hwritten, hrespects, honce⟩ := guardCheck_written h
      rw [hcalls]
      exact ⟨hwritten, hrespects, honce⟩
  · exact ⟨.refl db, respects_nil db, once_nil db db⟩

/-- What the gates ask of a request at its clock. -/
structure GuardCheckRequest.Permitted (req : GuardCheckRequest) (now : DateTime) : Prop where
  contact : isContactVerbOrChannel req.action = true →
    (9 ≤ now.istHour ∧ now.istHour < 21) ∧ req.contactsUsed < req.maxContacts
  money : req.verb ≠ .escalateHuman →
    (req.mandateState ≠ .revoked ∧ req.mandateState ≠ .expired) ∧
      req.attemptsUsed < req.maxAttempts

/-- On a case that has no `action` row yet the gates ask for nothing else. -/
theorem checks_allPassed_iff_permitted {s : Session} {case : CaseRow} (req : GuardCheckRequest)
    (now : DateTime) (hnone : ∀ e ∈ s.db.trail case.id, e.kind ≠ .action) :
    allPassed ((req.context now case).checks s case.id) = true ↔ req.Permitted now := by
  have hexecuted : (req.context now case).fingerprint ∉
      (req.context now case).executedOn s case.id := by
    have hreplayed : (req.context now case).executedOn s case.id =
        executedFingerprints s case.id := if_pos rfl
    rw [hreplayed, mem_executedFingerprints]
    rintro ⟨e, he, haction, -⟩
    exact hnone e he haction
  have hclass : strip ((none : Option String).getD "") ≠ "risk_fraud" := by decide
  rw [checks_allPassed_iff]
  constructor
  · rintro ⟨-, hwindow, hcap, hmandate, hattempts, -⟩
    refine ⟨fun hcontact => ⟨hwindow hcontact, hcap hcontact⟩, fun hverb => ⟨?_, hattempts hverb⟩⟩
    obtain ⟨hrevoked, hexpired⟩ := hmandate hverb
    exact ⟨fun h => hrevoked (congrArg some h), fun h => hexpired (congrArg some h)⟩
  · rintro ⟨hcontact, hmoney⟩
    refine ⟨fun hfraud => absurd hfraud hclass, fun h => (hcontact h).1, fun h => (hcontact h).2,
      fun hverb => ?_, fun hverb => (hmoney hverb).2, hexecuted⟩
    obtain ⟨hrevoked, hexpired⟩ := (hmoney hverb).1
    exact ⟨fun h => hrevoked (Option.some.inj h), fun h => hexpired (Option.some.inj h)⟩

/-- The rows of a throwaway case by their kinds. -/
def GuardCheckRequest.story (req : GuardCheckRequest) (allowed : Bool) : List LedgerKind :=
  .event :: if req.optOut then [.stop]
    else List.replicate 6 .gateCheck ++ if allowed && req.forceExecute then [.action] else []

/-- The gates are not asked about a contact at a clock that has no time in India. -/
def GuardCheckRequest.Timely (req : GuardCheckRequest) (now : DateTime) : Prop :=
  req.optOut = true ∨ (isContactVerbOrChannel req.action = true → now.inIst = true)

theorem raisesOn_eq_false_iff {req : GuardCheckRequest} {now : DateTime} {case : CaseRow}
    (hrunning : isCaseStopped case = false) :
    (req.context now case).raisesOn case = false ↔ req.Timely now := by
  have hopt : (req.context now case).optOut = req.optOut := rfl
  have hraises : (req.context now case).raises =
      (isContactVerbOrChannel req.action && !now.inIst) := rfl
  rw [GuardContext.raisesOn, hrunning, hopt, hraises, GuardCheckRequest.Timely]
  cases req.optOut with
  | true => simp
  | false => simp

/-- What a request on its new case returns and leaves behind. -/
structure Checked (env : Environment) (req : GuardCheckRequest) (now : DateTime)
    (response : GuardCheckResponse) (t : Session) : Prop where
  caseId : response.caseId = env.newCaseId
  allowed : response.allowed = true ↔ req.optOut = false ∧ req.Permitted now
  executed : response.executed = (response.allowed && req.forceExecute)
  calls : response.executeCalls = if response.executed then [(req.verb, env.newCaseId)] else []
  status : response.caseStatus =
    if req.optOut then .stopped else if response.allowed then .opened else .blocked
  story : (t.db.trail env.newCaseId).map (·.kind) = req.story response.allowed

/-- What the pipeline makes of the new case is what the request says. -/
theorem checked_guardRun {env : Environment} {req : GuardCheckRequest} {now : DateTime}
    {utcnow : ℕ → DateTime} {db : Db} (hsound : Sound db) {s : Session} {ingested : IngestResult}
    (hown : OwnCase (openSession utcnow db) s env.newCaseId (req.event env) ingested
      (openedCase env.newCaseId (req.event env)))
    (hfresh : ingested.duplicate = false) (htimely : req.Timely now) :
    let case := openedCase env.newCaseId (req.event env)
    let run := guardRun s case (req.context now case) req.stub "phase6" []
    Checked env req now (.ofRun run) run.session := by
  intro case run
  have htrail := hown.trail hsound hfresh
  have hrunning : isCaseStopped case = false := rfl
  have hnone : ∀ e ∈ s.db.trail case.id, e.kind ≠ .action := by
    change ∀ e ∈ s.db.trail env.newCaseId, e.kind ≠ .action
    rw [htrail]
    intro e he
    rw [List.mem_singleton.1 he]
    nofun
  have hpermitted := checks_allPassed_iff_permitted req now hnone
  have hverdict := guardEffect_verdict s case (req.context now case) req.conduct "phase6" []
  obtain ⟨hsession, hcaseAfter⟩ : run.session = s.perform (guardEffect s case
      (req.context now case) req.conduct "phase6" []) ∧ run.case = (guardEffect s case
        (req.context now case) req.conduct "phase6" []).case :=
    guardRun_eq req.conducted hown.held
  have hcalls : run.session.calls =
      (guardEffect s case (req.context now case) req.conduct "phase6" []).calls := by
    rw [hsession, Session.perform_calls, hown.calls]
    exact List.nil_append _
  have hstays := hverdict.id req.conducted
  have hrows := hown.story hsound hfresh (hverdict.own req.conducted).1
  rw [← hsession] at hrows
  have hlet : LetThrough s case (req.context now case) →
      run.result.allowed = true ∧ run.result.executed = req.stub.isSome :=
    fun h => h.result req.stub
  have hrefused : ¬LetThrough s case (req.context now case) →
      run.result.allowed = false ∧ run.result.executed = false :=
    fun h => result_of_not_letThrough h req.stub
  generalize guardEffect s case (req.context now case) req.conduct "phase6" [] = e
    at hverdict hcaseAfter hcalls hstays hrows
  suffices hsuffices : (run.result.allowed = true ↔ req.optOut = false ∧ req.Permitted now) ∧
      run.result.executed = (run.result.allowed && req.forceExecute) ∧
      (e.calls.map fun c => (c.action.verb, c.caseId)) =
        (if run.result.executed then [(req.verb, env.newCaseId)] else []) ∧
      e.case.status =
        (if req.optOut then .stopped else if run.result.allowed then .opened else .blocked) ∧
      .event :: e.facts.map (·.kind) = req.story run.result.allowed by
    obtain ⟨hallowed, hexecuted, hmade, hstatus, hstory⟩ := hsuffices
    refine ⟨?_, hallowed, hexecuted, ?_, ?_, ?_⟩
    · exact (congrArg CaseRow.id hcaseAfter).trans hstays
    · rw [GuardCheckResponse.ofRun, hcalls]
      exact hmade
    · exact (congrArg CaseRow.status hcaseAfter).trans hstatus
    · rw [hrows]
      exact hstory
  rw [GuardCheckRequest.story]
  cases hverdict with
  | stopped stopped => cases hrunning.symm.trans stopped
  | raised _ opt raises =>
      have hquiet := (raisesOn_eq_false_iff hrunning).2 htimely
      simp [GuardContext.raisesOn, hrunning, opt, raises] at hquiet
  | optedOut _ opt =>
      have hopt : req.optOut = true := opt
      obtain ⟨hallowed, hexecuted⟩ := hrefused (not_letThrough_of_optOut opt)
      simp [hallowed, hexecuted, hopt, stoppedCase, StopReason.status, stopFact]
  | blocked _ opt _ refused =>
      have hopt : req.optOut = false := opt
      obtain ⟨hallowed, hexecuted⟩ := hrefused (not_letThrough_of_refused refused)
      have hforbidden : ¬req.Permitted now := by
        rw [← hpermitted, refused]
        exact Bool.false_ne_true
      simp [hallowed, hexecuted, hopt, hforbidden, gateFacts_kinds]
  | admitted _ opt returns passed nothing =>
      have hopt : req.optOut = false := opt
      obtain ⟨hallowed, hexecuted⟩ := hlet ⟨hrunning, opt, returns, passed⟩
      have hforce : req.forceExecute = false := by
        simpa [GuardCheckRequest.conduct] using nothing
      have hopened := (reopened_status hrunning).1
      have hstub : req.stub.isSome = false := by
        rw [GuardCheckRequest.stub, hforce]
        rfl
      rw [hstub] at hexecuted
      simp [hallowed, hexecuted, hopt, hpermitted.1 passed, hforce, hopened, gateFacts_kinds]
  | executed _ opt returns passed something =>
      have hopt : req.optOut = false := opt
      obtain ⟨hallowed, hexecuted⟩ := hlet ⟨hrunning, opt, returns, passed⟩
      have hforce : req.forceExecute = true := by
        by_contra hforce
        rw [GuardCheckRequest.conduct, if_neg hforce] at something
        cases something
      have hopened := (reopened_status hrunning).1
      have hstub : req.stub.isSome = true := by
        rw [GuardCheckRequest.stub, hforce]
        rfl
      rw [hstub] at hexecuted
      rw [GuardCheckRequest.conduct, if_pos hforce] at something
      cases something
      have haction : (req.context now case).action.verb = req.verb := rfl
      have hid' : case.id = env.newCaseId := rfl
      simp [hallowed, hexecuted, hopt, hpermitted.1 passed, hforce, hopened, gateFacts_kinds,
        actionFact, haction, hid']

/-- A request that has no encoding for its reason is not stored. -/
theorem guardCheck_of_not_encodes (utcnow : ℕ → DateTime) {db : Db} {env : Environment}
    {req : GuardCheckRequest} (hevent : db.processed.get? env.newEventId = none)
    (hamount : 0 ≤ req.amountPaise) (hreason : env.utf8.encodes req.rawErrorReason = false) :
    ∃ e, guardCheck env (openSession utcnow db) req = .error (.own (.store e)) := by
  have hunseen : ((openSession utcnow db).findProcessed (req.event env).eventId).isSome = false :=
    Option.isSome_eq_false_iff.2 (Option.isNone_iff_eq_none.2 hevent)
  have hrefused : storable env.utf8 (req.event env) = false := by
    rw [storable, show (req.event env).rawErrorReason = req.rawErrorReason from rfl, hreason,
      Bool.and_false]
  have hfault := faultOf_bindRiskEvent env.utf8 (openSession utcnow db) (req.event env)
  rw [hunseen, hrefused, Bool.or_false, Bool.and_false] at hfault
  obtain ⟨e, hbound, -⟩ := fault_eq_some_iff.1 hfault
  refine ⟨.raised e, ?_⟩
  simp only [guardCheck, if_neg (not_lt.2 hamount), openOwnCase, storeRiskEvent, hbound, raising,
    Except.mapError, bind, Except.bind]

/-- A request with a new event and a new case id returns the verdict of the gates on what the
request says, and its case, its calls and its rows agree with the verdict. It raises where its
reason has no encoding, or the gates are asked about a contact at a clock that has no time in
India. -/
theorem guard_check_verdict (utcnow : ℕ → DateTime) {db : Db} (hsound : Sound db)
    {env : Environment} {req : GuardCheckRequest}
    (hevent : db.processed.get? env.newEventId = none)
    (hcase : db.cases.get? env.newCaseId = none)
    (hkey : env.utf8.encodes env.newEventId = true) (hamount : 0 ≤ req.amountPaise)
    (hstorable : req.amountPaise.toNat < storableAmount) {now : DateTime}
    (hclock : req.clock env = .ok now) :
    (env.utf8.encodes req.rawErrorReason = true → req.Timely now → ∃ response t,
      guardCheck env (openSession utcnow db) req = .ok (response, t) ∧
        Checked env req now response t) ∧
    (env.utf8.encodes req.rawErrorReason = false ∨ ¬req.Timely now →
      ∃ e, guardCheck env (openSession utcnow db) req = .error e) := by
  cases hreason : env.utf8.encodes req.rawErrorReason with
  | false =>
      refine ⟨nofun, fun _ => ?_⟩
      obtain ⟨e, he⟩ := guardCheck_of_not_encodes utcnow hevent hamount hreason
      exact ⟨_, he⟩
  | true =>
      have hunseen : (openSession utcnow db).findProcessed (req.event env).eventId = none := hevent
      have hpayer : env.utf8.encodes "payer_demo" = true := env.utf8.encodes_of_isLow (by decide)
      have hbound : storable env.utf8 (req.event env) = true := by
        simp [storable, GuardCheckRequest.event, hpayer, hstorable, hreason, Utf8.encodesOpt]
      obtain ⟨ingested, s, hopen, hfresh, -⟩ := openOwnCase_of_fresh hkey hbound hunseen hcase
      have hown := openOwnCase_eq_ok hopen
      have hguarded : guardCheck env (openSession utcnow db) req =
          ((guardAndMaybeExecute s (openedCase env.newCaseId (req.event env))
            (req.context now (openedCase env.newCaseId (req.event env))) req.stub "phase6"
            []).mapError .raised).map fun run => (.ofRun run, run.session) := by
        simp only [guardCheck, if_neg (not_lt.2 hamount), hopen, Except.mapError, bind,
          Except.bind, hclock]
        cases guardAndMaybeExecute s _ _ req.stub "phase6" [] with
        | error e => rfl
        | ok run => rfl
      have hrunning : isCaseStopped (openedCase env.newCaseId (req.event env)) = false := rfl
      rw [hguarded, guardAndMaybeExecute_eq, ← raisesOn_eq_false_iff hrunning]
      constructor
      · intro _ htimely
        rw [if_neg (by simp [htimely])]
        exact ⟨_, _, rfl, checked_guardRun hsound hown hfresh
          ((raisesOn_eq_false_iff hrunning).1 htimely)⟩
      · rintro (hfalse | hraises)
        · cases hfalse
        · rw [if_pos (by simpa using hraises)]
          exact ⟨_, rfl⟩

/-- A request at a clock that the environment reads from its text. -/
theorem guard_check_verdict_first :
    let env : Environment :=
      { fromisoformat := fun _ => some nighttime
        now := daytime
        newEventId := "guard_demo_1"
        newCaseId := "case_1"
        getExecutor := fun _ _ _ _ => { ok := true } }
    let req : GuardCheckRequest := { nowIso := some "2026-08-21T18:30:00+00:00" }
    ∃ response t, guardCheck env (openSession (fun _ => daytime) Db.empty) req =
        .ok (response, t) ∧ Checked env req nighttime response t :=
  (guard_check_verdict (fun _ => daytime) sound_empty rfl rfl (Utf8.encodes_scalar _) (by decide)
    (by decide) rfl).1 (Utf8.encodes_scalar _) (Or.inr fun _ => by decide)

end RecoveryAgent.Api
