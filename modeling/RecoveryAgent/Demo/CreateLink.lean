import RecoveryAgent.Execute.Razorpay
import RecoveryAgent.Runs.Budget

/-!
# The case-page link button

`execute_link_for_case` of `demo/live_flow.py`, as `ui_create_link` calls it. The
default of `raw_error_reason` is the class that the gates see, whatever class
the row has stored.
-/

namespace RecoveryAgent.Demo

open Library Python Policy Ledger Guard Execute Runs

/-- What the button reports. -/
inductive LinkForCase where
  | caseNotFound
  | done (ok : Bool) (caseId : String) (allowed : Bool)
      (blockedBy externalId status : Option String)

def uiLinkAction (case : CaseRow) : Action where
  verb := .sendPaymentLink
  channel := .link
  amountPaise := some case.amountPaise
  dayOffset := some 0
  reasonCode := "UI_CREATE_LINK"

/-- `raw_error_reason or case.failure_class`. -/
def reasonOrClass (rawErrorReason : String) (case : CaseRow) : Option String :=
  if rawErrorReason = "" then case.failureClass else some rawErrorReason

def uiLinkContext (rawErrorReason : String) (case : CaseRow) : GuardContext where
  caseId := case.id
  action := uiLinkAction case
  now := daytime
  failureClass := reasonOrClass rawErrorReason case
  contactsUsed := case.contactsUsed
  attemptsUsed := case.attemptsUsed
  mandateState := some .active

/-- At the fixed clock of the button the gates return. -/
theorem uiLinkContext_returns (rawErrorReason : String) (case : CaseRow) :
    (uiLinkContext rawErrorReason case).raises = false := rfl

/-- `reasonOrClass or "unknown"` is the failure reason of the executor. -/
def uiLinkMeta (rawErrorReason : String) (case : CaseRow) : ExecuteMeta where
  failureReason :=
    if (reasonOrClass rawErrorReason case).getD "" = "" then "unknown"
    else (reasonOrClass rawErrorReason case).getD ""
  seed := case.id

def executeLinkForCase (executor : Executor) (s : Session) (caseId rawErrorReason : String) :
    LinkForCase × Session :=
  match s.getCase caseId with
  | none => (.caseNotFound, s)
  | some case =>
      let (pipe, outcome) := serviceRun s case (uiLinkContext rawErrorReason case) executor
        (some (uiLinkMeta rawErrorReason case)) "ui-demo"
      (.done (pipe.result.allowed && pipe.result.executed) case.id pipe.result.allowed
          pipe.result.blockedBy (outcome.bind (·.externalId)) (outcome.map (·.status)),
        pipe.session)

/-- Where `ui_create_link` sends the browser. -/
def redirectUrl (caseId : String) : LinkForCase → String
  | .caseNotFound => "/ui/cases/" ++ caseId
  | .done _ _ _ blockedBy externalId _ =>
      "/ui/cases/" ++ caseId ++
        (if externalId.getD "" ≠ "" then "?plink=" ++ externalId.getD ""
        else if blockedBy.getD "" ≠ "" then "?blocked=" ++ blockedBy.getD ""
        else "")

/-- `ui_create_link`: the button with its default reason, committed. -/
def uiCreateLink (executor : Executor) (utcnow : ℕ → DateTime) (db : Db) (caseId : String) :
    String × Db × List ExecutorCall :=
  let (result, s) := executeLinkForCase executor (openSession utcnow db) caseId "card_expired"
  (redirectUrl caseId result, s.db, s.calls)

/-- No executor is called, and the case gets no new outcome or action row. -/
def LinkWithheld (executor : Executor) (utcnow : ℕ → DateTime) (db : Db) (caseId : String) :
    Prop :=
  (uiCreateLink executor utcnow db caseId).2.2 = [] ∧
  ∃ rows, (uiCreateLink executor utcnow db caseId).2.1.history = db.history ++ rows ∧
    ∀ e ∈ rows, e.caseId = caseId → e.kind ≠ .outcome ∧ e.kind ≠ .action

/-- The fingerprint of the button's action on a case. -/
def uiLinkFingerprint (caseId : String) : String :=
  caseId ++ ":send_payment_link:0:link:UI_CREATE_LINK"

theorem uiLinkFingerprint_eq (case : CaseRow) :
    (uiLinkContext "card_expired" case).fingerprint = uiLinkFingerprint case.id := by
  have hzero : (Json.ofOptNat (some 0)).text?.getD "" = "0" := by decide
  have htail : ":" ++ ("send_payment_link" ++ (":" ++ ("0" ++ (":" ++ ("link" ++ (":" ++
      "UI_CREATE_LINK")))))) = ":send_payment_link:0:link:UI_CREATE_LINK" := by decide
  have hcomposed : (uiLinkContext "card_expired" case).fingerprint =
      composeFingerprint case.id "send_payment_link" (.ofOptNat (some 0)) "link"
        "UI_CREATE_LINK" := rfl
  rw [hcomposed, composeFingerprint, hzero, uiLinkFingerprint, ← htail]
  simp only [String.append_assoc]

/-- The gates pass exactly when the counters are below the caps and the link was
not sent before. The stored class is not asked. -/
theorem uiLink_allPassed_iff (s : Session) (case : CaseRow) :
    allPassed ((uiLinkContext "card_expired" case).checks s case.id) = true ↔
      case.contactsUsed < 2 ∧ case.attemptsUsed < 3 ∧
        uiLinkFingerprint case.id ∉ executedFingerprints s case.id := by
  have hclass : strip "card_expired" ≠ "risk_fraud" := by decide
  have hwindow : (9 : ℤ) ≤ daytime.istHour ∧ daytime.istHour < 21 := by decide
  have hexecuted : (uiLinkContext "card_expired" case).executedOn s case.id =
      executedFingerprints s case.id := if_pos rfl
  rw [checks_allPassed_iff, uiLinkFingerprint_eq, hexecuted]
  constructor
  · rintro ⟨-, -, hcontacts, -, hattempts, hidem⟩
    have hcontacts' : (case.contactsUsed : ℤ) < 2 := hcontacts rfl
    have hattempts' : (case.attemptsUsed : ℤ) < 3 :=
      hattempts (by simp [uiLinkContext, uiLinkAction])
    exact ⟨by omega, by omega, hidem⟩
  · rintro ⟨hcontacts, hattempts, hidem⟩
    refine ⟨fun hfraud => absurd hfraud hclass, fun _ => hwindow, fun _ => ?_, fun _ => ?_,
      fun _ => ?_, hidem⟩
    · change (case.contactsUsed : ℤ) < 2
      omega
    · simp [uiLinkContext]
    · change (case.attemptsUsed : ℤ) < 3
      omega

/-- On a stored case the button performs what the guard's verdict says. -/
theorem uiCreateLink_eq (executor : Executor) (utcnow : ℕ → DateTime) {db : Db} {caseId : String}
    {case : CaseRow} (hcase : db.cases.get? caseId = some case) :
    ∃ e, Verdict (openSession utcnow db) case (uiLinkContext "card_expired" case)
        (some (execConduct executor (uiLinkMeta "card_expired" case) "ui-demo")) "ui-demo" [] e ∧
      (uiCreateLink executor utcnow db caseId).2 =
        (((openSession utcnow db).perform e).db, e.calls) := by
  obtain ⟨-, hheld⟩ := holds_of_get? utcnow hcase
  have hload : (openSession utcnow db).getCase caseId = some case := hcase
  have hconducts := exec_conducts executor (uiLinkMeta "card_expired" case) "ui-demo"
  have hsession : (guardRun (openSession utcnow db) case
      (uiLinkContext "card_expired" case)
      (some (exec executor (uiLinkMeta "card_expired" case) "ui-demo")) "ui-demo" []).session =
        _ := (guardRun_eq (.some hconducts) hheld).1
  refine ⟨_, guardEffect_verdict .., ?_⟩
  simp only [uiCreateLink, executeLinkForCase, hload, serviceRun, Option.getD_some,
    hsession]
  rfl

/-- The button withholds the link exactly when the case is stopped, a counter is
at its cap, or the same link was sent before. -/
theorem link_withheld_iff (executor : Executor) (utcnow : ℕ → DateTime) (db : Db)
    (caseId : String) (case : CaseRow) (hcase : db.cases.get? caseId = some case) :
    LinkWithheld executor utcnow db caseId ↔
      isCaseStopped case = true ∨ 2 ≤ case.contactsUsed ∨ 3 ≤ case.attemptsUsed ∨
        uiLinkFingerprint caseId ∈ executedFingerprints (openSession utcnow db) caseId := by
  obtain ⟨hid, -⟩ := holds_of_get? utcnow hcase
  obtain ⟨e, hverdict, hstep⟩ := uiCreateLink_eq executor utcnow hcase
  have hpassed := uiLink_allPassed_iff (openSession utcnow db) case
  have hquiet : e.calls = [] → (∀ f ∈ e.facts, f.kind = .gateCheck) →
      LinkWithheld executor utcnow db caseId := by
    intro hcalls hkinds
    unfold LinkWithheld
    rw [hstep]
    refine ⟨hcalls, e.facts.map (·.toLedgerColumns), Session.perform_history _ _, ?_⟩
    intro row hrow _
    obtain ⟨f, hf, rfl⟩ := List.mem_map.1 hrow
    simp [hkinds f hf]
  rw [hid] at hpassed
  cases hverdict with
  | stopped stopped => exact iff_of_true (hquiet rfl (by simp)) (Or.inl stopped)
  | optedOut _ opt => cases opt
  | raised _ _ raises => cases (uiLinkContext_returns _ _).symm.trans raises
  | blocked running _ _ refused =>
      rw [hid] at refused
      rw [refused] at hpassed
      refine iff_of_true (hquiet rfl fun f hf => (mem_gateFacts hf).2.1) (Or.inr ?_)
      by_contra hroom
      push Not at hroom
      exact Bool.false_ne_true (hpassed.2 hroom)
  | admitted _ _ _ _ nothing => cases nothing
  | executed running _ _ passed _ =>
      rw [hid] at passed
      obtain ⟨hcontacts, hattempts, hidem⟩ := hpassed.1 passed
      refine iff_of_false ?_ ?_
      · rintro ⟨hcalls, -⟩
        rw [hstep] at hcalls
        cases hcalls
      · rintro (hstopped | hcontacts' | hattempts' | hidem')
        · rw [running] at hstopped
          cases hstopped
        · omega
        · omega
        · exact hidem hidem'

/-- A case whose stored class is fraud. -/
def fraudCase : CaseRow := { freshCase with failureClass := some "risk_fraud" }

def linkExecutor : Executor :=
  ({ keyId := "rzp_test_key"
     keySecret := "secret"
     newHex := "0123456789"
     getPayment := fun _ => .error "unreachable"
     postPaymentLink := fun _ => .created (some "plink_1") [] } : RazorpayExecutor).run

/-- A stopped fraud case gets no link. -/
theorem link_withheld_iff_stopped :
    LinkWithheld linkExecutor (fun _ => daytime)
        (Db.single { fraudCase with status := .stopped }) "case_1" ↔
      isCaseStopped { fraudCase with status := .stopped } = true ∨
        2 ≤ fraudCase.contactsUsed ∨ 3 ≤ fraudCase.attemptsUsed ∨
        uiLinkFingerprint "case_1" ∈ executedFingerprints
          (openSession (fun _ => daytime) (Db.single { fraudCase with status := .stopped }))
            "case_1" :=
  link_withheld_iff linkExecutor (fun _ => daytime)
    (Db.single { fraudCase with status := .stopped }) "case_1"
    { fraudCase with status := .stopped } rfl

/-- An open fraud case with nothing behind it gets a link. -/
theorem fraud_case_gets_link :
    (Db.single fraudCase).cases.get? "case_1" = some fraudCase ∧
      fraudCase.failureClass = some "risk_fraud" ∧
        ¬LinkWithheld linkExecutor (fun _ => daytime) (Db.single fraudCase) "case_1" := by
  refine ⟨rfl, rfl, ?_⟩
  rintro ⟨hcalls, -⟩
  have hcall : (uiCreateLink linkExecutor (fun _ => daytime) (Db.single fraudCase)
      "case_1").2.2.length = 1 := by decide
  rw [hcalls] at hcall
  cases hcall

end RecoveryAgent.Demo
