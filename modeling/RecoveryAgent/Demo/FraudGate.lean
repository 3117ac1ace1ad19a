import RecoveryAgent.Ai.Schemas
import RecoveryAgent.Api.OwnCase

/-!
# The fraud gate demo

`demo/fraud_gate.py`: a scripted model proposes a payment link for a suspected fraud, and the
gates refuse it.
-/

namespace RecoveryAgent.Demo

open Library Python Policy Ledger Guard Execute Ai Api Runs

/-- What the demo finds outside the program. The hash of the prompt bundle is one of a fixed
text. -/
structure FraudGateEnv where
  eventHex : String
  newCaseId : String
  now : DateTime
  promptHash : String

structure FraudGateResult where
  caseId : String
  eventId : String
  failureClass : String
  verb : ActionVerb
  allowed : Bool
  blockedBy : Option String
  gateSuccess : Bool
  model : String
  promptHash : String
  scriptedDemo : Bool

inductive FraudGateError where
  | own (e : OwnCaseError)
  | validation (fields : List String)

def demoModel : String := "scripted-demo-qwen3:8b"

namespace FraudGateEnv

def eventId (env : FraudGateEnv) : String := "ui_fraud_gate_" ++ env.eventHex

/-- The suspected fraud. -/
def event (env : FraudGateEnv) (amountPaise : ℤ) : RiskEvent where
  eventId := env.eventId
  source := .simulator
  occurredAt := env.now
  merchantId := "merch_demo"
  payerRef := "payer_fraud_demo"
  amountPaise := amountPaise.toNat
  rail := .card
  rawErrorReason := "risk_fraud"
  rawErrorCode := "FRAUD_SUSPECTED"

def audit (env : FraudGateEnv) : Fields :=
  [("model", .str demoModel), ("prompt_hash", .str env.promptHash)]

end FraudGateEnv

def fraudDiagnosis : Diagnosis where
  summary := "Suspected fraud — do not automate recovery contact."
  likelyClass := "risk_fraud"
  confidence := .fin (93 / 100)
  rationale :=
    "Scripted demo: the model wrongly proposes a payment link. " ++
    "The prohibited_recovery gate must block before any execute."
  unit := by decide +kernel

/-- The scripted proposal. -/
def badAction (amountPaise : ℤ) : Action where
  verb := .sendPaymentLink
  dayOffset := some 0
  channel := .link
  amountPaise := some amountPaise.toNat
  reasonCode := "AI_BAD_CONTACT_DEMO"
  policyVersion := "fraud-gate-demo"
  proposedBy := .llm
  failureClass := "risk_fraud"
  note := "scripted_model_proposes_contact_on_fraud"

/-- The rows of the scripted model. -/
def scriptedFacts (env : FraudGateEnv) (caseId : String) (amountPaise : ℤ) : List LedgerFact :=
  [{ caseId
     kind := .classification
     actor := .llm
     payload := fraudDiagnosis.modelDump ++ [("audit", .obj env.audit)]
     reasonCode := fraudDiagnosis.likelyClass
     policyVersion := "fraud-gate-demo" },
    { caseId
      kind := .decision
      actor := .llm
      payload :=
        [("proposal_raw", .obj (badAction amountPaise).modelDump),
          ("validated", .obj (badAction amountPaise).modelDump),
          ("scripted_demo", .bool true),
          ("audit", .obj env.audit)]
      reasonCode := (badAction amountPaise).reasonCode
      policyVersion := "fraud-gate-demo" }]

/-- The case as it goes to the gates. -/
def suspected (case : CaseRow) : CaseRow := { case with failureClass := some "risk_fraud" }

def fraudGateContext (amountPaise : ℤ) (case : CaseRow) : GuardContext where
  caseId := case.id
  action := badAction amountPaise
  now := daytime
  failureClass := some "risk_fraud"
  contactsUsed := case.contactsUsed
  attemptsUsed := case.attemptsUsed
  actionFingerprint := actionFingerprint case.id (badAction amountPaise)

theorem fraudGateContext_returns (amountPaise : ℤ) (case : CaseRow) :
    (fraudGateContext amountPaise case).raises = false := rfl

/-- `run_fraud_gate_demo`, up to the commit. All its texts are ASCII. -/
def runFraudGateDemo (env : FraudGateEnv) (s : Session) (amountPaise : ℤ) :
    Except FraudGateError (FraudGateResult × Session) :=
  if amountPaise < 0 then .error (.validation ["amount_paise"])
  else do
    let (_, case, s) ← (openOwnCase .scalar s env.newCaseId (env.event amountPaise)).mapError .own
    let s := s.record (scriptedFacts env case.id amountPaise)
    let case := suspected case
    let s := s.add case
    let pipe := guardRun s case (fraudGateContext amountPaise case) none
      "fraud-gate-demo" env.audit
    let result : FraudGateResult :=
      { caseId := case.id
        eventId := env.eventId
        failureClass := "risk_fraud"
        verb := (badAction amountPaise).verb
        allowed := pipe.result.allowed
        blockedBy := pipe.result.blockedBy
        gateSuccess := pipe.result.blockedBy = some "prohibited_recovery"
        model := demoModel
        promptHash := env.promptHash
        scriptedDemo := true }
    return (result, pipe.session)

/-- One run of the demo as a step over the database. An exception rolls it back. -/
def fraudGateStep (utcnow : ℕ → DateTime) (db : Db) (request : FraudGateEnv × ℤ) :
    Db × List ExecutorCall :=
  match runFraudGateDemo request.1 (openSession utcnow db) request.2 with
  | .ok (_, s) => (s.db, s.calls)
  | .error _ => (db, [])

/-!
## What a run does
-/

theorem continues_suspected (case : CaseRow) : Continues case (suspected case) :=
  ⟨rfl, rfl, rfl, rfl, rfl, rfl, le_rfl, le_rfl, fun h => h, fun h => h⟩

theorem scriptedFacts_own (env : FraudGateEnv) (caseId : String) (amountPaise : ℤ) :
    ∀ f ∈ scriptedFacts env caseId amountPaise, f.caseId = caseId := by
  simp [scriptedFacts]

/-- What the scripted model writes is one effect. -/
def scriptedEffect (env : FraudGateEnv) (case : CaseRow) (amountPaise : ℤ) : Effect where
  case := suspected case
  facts := scriptedFacts env case.id amountPaise

/-- The scripted rows are neither stops nor gate checks, and no outcomes. -/
theorem honest_scripted (env : FraudGateEnv) (case : CaseRow) (amountPaise : ℤ) :
    Honest case (scriptedEffect env case amountPaise) where
  tells := by
    intro trail htold
    have hquiet : Told case (trail ++
        (scriptedFacts env case.id amountPaise).map (·.toLedgerColumns)) :=
      htold.append_quiet (by simp [scriptedFacts]) (by simp [scriptedFacts])
    exact ⟨hquiet.status, hquiet.reason, hquiet.recovered⟩
  backs := by
    intro f hf hkind
    have hkinds : ∀ f ∈ scriptedFacts env case.id amountPaise, f.kind ≠ .outcome := by
      simp [scriptedFacts]
    exact absurd hkind (hkinds f hf)

section

variable {env : FraudGateEnv} {s t : Session} {amountPaise : ℤ} {result : FraudGateResult}

/-- A run that returns has sent its own case through the gates, with nothing to execute. -/
theorem runFraudGateDemo_eq_ok (h : runFraudGateDemo env s amountPaise = .ok (result, t)) :
    ∃ ingested case s', openOwnCase .scalar s env.newCaseId (env.event amountPaise) =
        .ok (ingested, case, s') ∧
      let pipe := guardRun (s'.perform (scriptedEffect env case amountPaise))
        (suspected case) (fraudGateContext amountPaise (suspected case)) none "fraud-gate-demo"
        env.audit
      t = pipe.session ∧ result.caseId = case.id ∧ result.allowed = pipe.result.allowed ∧
        result.blockedBy = pipe.result.blockedBy ∧
        result.gateSuccess = decide (pipe.result.blockedBy = some "prohibited_recovery") := by
  unfold runFraudGateDemo at h
  split at h
  · cases h
  · obtain ⟨⟨ingested, case, s'⟩, hopen, h⟩ := bind_eq_ok h
    have hown := openOwnCase_eq_ok (mapError_eq_ok_iff.1 hopen)
    have hid : (suspected case).id = case.id := rfl
    have hscripted : (s'.record (scriptedFacts env case.id amountPaise)).add (suspected case) =
        s'.perform (scriptedEffect env case amountPaise) := hown.held.record_add hid _
    simp only [hscripted] at h
    cases h
    exact ⟨ingested, case, s', mapError_eq_ok_iff.1 hopen, rfl, rfl, rfl, rfl, rfl⟩

/-- Whatever it finds, the demo calls nobody. -/
theorem runFraudGateDemo_written (h : runFraudGateDemo env s amountPaise = .ok (result, t)) :
    Written Honest s.db [] t.db ∧ t.calls = s.calls := by
  obtain ⟨ingested, case, s', hopen, rfl, -⟩ := runFraudGateDemo_eq_ok h
  have hown := openOwnCase_eq_ok hopen
  have hscripted : Written Honest s'.db []
      (s'.perform (scriptedEffect env case amountPaise)).db :=
    .performed hown.held
      ⟨continues_suspected case, scriptedFacts_own env case.id amountPaise⟩
      (honest_scripted env case amountPaise)
  have hheld : (s'.perform (scriptedEffect env case amountPaise)).Holds (suspected case) :=
    hown.held.perform rfl
  have hquiet : (guardRun (s'.perform (scriptedEffect env case amountPaise))
      (suspected case) (fraudGateContext amountPaise (suspected case)) none "fraud-gate-demo"
      env.audit).session.calls =
        (s'.perform (scriptedEffect env case amountPaise)).calls ++ [] := by
    rw [(guardRun_eq .none hheld).1, Session.perform_calls, calls_of_nothing]
  have hguarded := written_guarded hheld _ .none (fun _ hnone => by cases hnone) _ _ hquiet
  refine ⟨(hown.written.after hscripted).after hguarded, ?_⟩
  rw [hquiet, List.append_nil, Session.perform_calls, hown.calls]
  exact List.append_nil _

end

theorem fraudGateStep_written (utcnow : ℕ → DateTime) (db : Db) (request : FraudGateEnv × ℤ) :
    Written Honest db [] (fraudGateStep utcnow db request).1 ∧
      (fraudGateStep utcnow db request).2 = [] := by
  unfold fraudGateStep
  split
  · next result t h => exact runFraudGateDemo_written h
  · exact ⟨.refl db, rfl⟩

/-!
## The verdict
-/

/-- The first gate refuses the scripted link, whatever the case and the database hold. -/
theorem fraudGate_refused (s : Session) (case : CaseRow) (amountPaise : ℤ) :
    allPassed ((fraudGateContext amountPaise case).checks s case.id) = false ∧
      (((fraudGateContext amountPaise case).checks s case.id).find? fun c => !c.passed).map
        (·.name) = some "prohibited_recovery" := by
  have hclass : strip "risk_fraud" = "risk_fraud" := by decide
  have hgate : gateProhibitedRecovery ((fraudGateContext amountPaise case).gated s case.id) =
      ⟨"prohibited_recovery", false, "GATE_PROHIBITED"⟩ := by
    have hprohibited : ¬strip "risk_fraud" ∉ prohibitedFailureClasses := by
      rw [hclass]
      decide
    have hlink : ActionVerb.sendPaymentLink ≠ .escalateHuman := by decide
    exact (if_neg hprohibited).trans ((if_neg hlink).trans (if_pos rfl))
  have hchecks : (fraudGateContext amountPaise case).checks s case.id =
      gateProhibitedRecovery ((fraudGateContext amountPaise case).gated s case.id) ::
        (gateVerdicts ((fraudGateContext amountPaise case).gated s case.id)).tail := rfl
  rw [hchecks, hgate]
  exact ⟨rfl, rfl⟩

theorem fraudGate_not_letThrough (s : Session) (case : CaseRow) (amountPaise : ℤ) :
    ¬LetThrough s case (fraudGateContext amountPaise case) :=
  not_letThrough_of_refused (fraudGate_refused s case amountPaise).1

/-- The case of a demo run as it is left. -/
structure FraudRefused (db : Db) (caseId : String) : Prop where
  blocked : ∃ case, db.cases.get? caseId = some case ∧ case.status = .blocked ∧
    case.failureClass = some "risk_fraud" ∧ case.contactsUsed = 0 ∧ case.attemptsUsed = 0
  story : (db.trail caseId).map (·.kind) =
    [.event, .classification, .decision] ++ List.replicate 6 .gateCheck

/-- No run of the demo gets its link through or calls anybody, whatever case it is given; and a
run with a new event and a new case id returns, with the refusal of the first gate as its
success and a case that tells of it. -/
theorem fraud_gate_blocks (utcnow : ℕ → DateTime) {db : Db} (env : FraudGateEnv) (amountPaise : ℤ) :
    (∀ result t, runFraudGateDemo env (openSession utcnow db) amountPaise = .ok (result, t) →
      result.allowed = false ∧ t.calls = []) ∧
    (Sound db → db.processed.get? env.eventId = none → db.cases.get? env.newCaseId = none →
      0 ≤ amountPaise → amountPaise.toNat < storableAmount →
      ∃ result t, runFraudGateDemo env (openSession utcnow db) amountPaise = .ok (result, t) ∧
        result.caseId = env.newCaseId ∧ result.gateSuccess = true ∧
          FraudRefused t.db env.newCaseId) := by
  constructor
  · intro result t h
    obtain ⟨ingested, case, s, -, -, -, hallowed, -⟩ := runFraudGateDemo_eq_ok h
    rw [hallowed]
    exact ⟨(result_of_not_letThrough (fraudGate_not_letThrough _ _ _) none).1,
      (runFraudGateDemo_written h).2⟩
  · intro hsound hevent hcase hamount hstorable
    have hunseen : (openSession utcnow db).findProcessed (env.event amountPaise).eventId = none :=
      hevent
    obtain ⟨ingested, s, hopen, hfresh, -⟩ := openOwnCase_of_fresh (Utf8.encodes_scalar _)
      ((storable_scalar _).trans (decide_eq_true hstorable)) hunseen hcase
    have hown := openOwnCase_eq_ok hopen
    have htrail := hown.trail hsound hfresh
    have hreturned : ∃ result t, runFraudGateDemo env (openSession utcnow db) amountPaise =
        .ok (result, t) := by
      simp only [runFraudGateDemo, if_neg (not_lt.2 hamount), hopen, Except.mapError, bind,
        Except.bind]
      exact ⟨_, _, rfl⟩
    obtain ⟨result, t, h⟩ := hreturned
    obtain ⟨ingested', case, s', hopen', hsession, hid, -, -, hsuccess⟩ :=
      runFraudGateDemo_eq_ok h
    cases hopen.symm.trans hopen'
    set opened := openedCase env.newCaseId (env.event amountPaise)
    set s' := s.perform (scriptedEffect env opened amountPaise)
    set ctx := fraudGateContext amountPaise (suspected opened)
    have hheld : s'.Holds (suspected opened) := hown.held.perform rfl
    obtain ⟨hrefused, hfirst⟩ := fraudGate_refused s' (suspected opened) amountPaise
    refine ⟨result, t, h, hid, ?_, ?_⟩
    · rw [hsuccess, guardRun_of_blocked rfl rfl (fraudGateContext_returns _ _) hrefused]
      exact decide_eq_true hfirst
    · have hid' : ({ suspected opened with status := .blocked } : CaseRow).id =
          (suspected opened).id := rfl
      have hboth : t = s.perform
          { case := { suspected opened with status := .blocked }
            facts := scriptedFacts env opened.id amountPaise ++
              gateFacts s' opened.id ctx "fraud-gate-demo" env.audit } := by
        rw [hsession, guardRun_of_blocked rfl rfl (fraudGateContext_returns _ _) hrefused,
          hheld.record_add hid', Session.perform_perform]
        · rfl
        · rfl
      have hfacts : ∀ f ∈ scriptedFacts env opened.id amountPaise ++
          gateFacts s' opened.id ctx "fraud-gate-demo" env.audit, f.caseId = env.newCaseId := by
        intro f hf
        rcases List.mem_append.1 hf with hf | hf
        · exact scriptedFacts_own env _ amountPaise f hf
        · exact (mem_gateFacts hf).1
      refine ⟨⟨{ suspected opened with status := .blocked }, ?_, rfl, rfl, rfl, rfl⟩, ?_⟩
      · rw [hboth]
        exact hown.held.perform rfl
      · rw [hboth, hown.story hsound hfresh hfacts, List.map_append, gateFacts_kinds]
        rfl

theorem fraud_gate_blocks_first :
    ∃ result t, runFraudGateDemo ⟨"0123456789", "case_1", daytime, "a1b2"⟩
        (openSession (fun _ => daytime) Db.empty) 49900 = .ok (result, t) ∧
      result.caseId = "case_1" ∧ result.gateSuccess = true ∧ FraudRefused t.db "case_1" :=
  (fraud_gate_blocks (fun _ => daytime) ⟨"0123456789", "case_1", daytime, "a1b2"⟩ 49900).2
    sound_empty rfl rfl (by decide) (by decide)

end RecoveryAgent.Demo
