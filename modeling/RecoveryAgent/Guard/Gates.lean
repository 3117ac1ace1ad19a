import RecoveryAgent.Ledger.Reader
import RecoveryAgent.Python.Errors

/-!
# Gates

The context of `guard/context.py` and the gates of `guard/gates.py`. All gates
are evaluated, in order, even after one of them has refused; execution asks
whether all of them passed. Only the contact window may raise: for a contact it
tells the time in India, which some clocks of the years 1 and 9999 do not have
there. The context's `dnd_flag`, `case_status` and `stop_reason` are read by no
gate and are left out.
-/

namespace RecoveryAgent.Guard

open Python Policy Ledger

/-- Runtime facts for gate evaluation. -/
structure GuardContext where
  caseId : String
  action : Action
  now : DateTime
  attemptsUsed : ℤ := 0
  contactsUsed : ℤ := 0
  maxAttempts : ℤ := 3
  maxContacts : ℤ := 2
  mandateState : Option MandateState := some .active
  optOut : Bool := false
  contactWindowStartHourIst : ℤ := 9
  contactWindowEndHourIst : ℤ := 21
  executedFingerprints : Finset String := ∅
  actionFingerprint : String := ""
  failureClass : Option String := none

structure GateCheck where
  name : String
  passed : Bool
  reasonCode : String
  deriving DecidableEq, Repr

def GateCheck.gateResult (c : GateCheck) : GateResult := if c.passed then .passed else .blocked

def prohibitedFailureClasses : List String := ["risk_fraud"]

def isContactVerbOrChannel (a : Action) : Bool :=
  a.verb.isLink || a.channel ∈ [.sms, .email, .link]

def isContactAction (ctx : GuardContext) : Bool := isContactVerbOrChannel ctx.action

def isMoneyAction (ctx : GuardContext) : Bool :=
  ctx.action.verb ∈ [.scheduleRetry, .sendPaymentLink, .requestMandateUpdate]

/-- Blocks automated money movement and contact for prohibited classes. -/
def gateProhibitedRecovery (ctx : GuardContext) : GateCheck :=
  if strip (ctx.failureClass.getD "") ∉ prohibitedFailureClasses then
    ⟨"prohibited_recovery", true, "GATE_PROHIBITED_N_A"⟩
  else if ctx.action.verb = .escalateHuman then
    ⟨"prohibited_recovery", true, "GATE_PROHIBITED_ESCALATE_OK"⟩
  else if isMoneyAction ctx || isContactAction ctx then
    ⟨"prohibited_recovery", false, "GATE_PROHIBITED"⟩
  else ⟨"prohibited_recovery", true, "GATE_PROHIBITED_N_A"⟩

/-- The check of the contact window at an hour in India. -/
def contactWindowAt (ctx : GuardContext) (hour : ℤ) : GateCheck :=
  if isContactAction ctx then
    if ctx.contactWindowStartHourIst ≤ hour ∧ hour < ctx.contactWindowEndHourIst then
      ⟨"contact_window", true, "GATE_WINDOW_OK"⟩
    else ⟨"contact_window", false, "GATE_WINDOW"⟩
  else ⟨"contact_window", true, "GATE_WINDOW_N_A"⟩

/-- Blocks contact outside the permitted hours in India. -/
def gateContactWindow (ctx : GuardContext) : Except PyError GateCheck :=
  if isContactAction ctx then do
    let ist ← ctx.now.aware.astimezone istOffset
    return contactWindowAt ctx ist.hour
  else .ok ⟨"contact_window", true, "GATE_WINDOW_N_A"⟩

/-- Blocks contact when the contact budget is used up. -/
def gateFrequencyCap (ctx : GuardContext) : GateCheck :=
  if isContactAction ctx then
    if ctx.contactsUsed < ctx.maxContacts then ⟨"frequency_cap", true, "GATE_FREQ_OK"⟩
    else ⟨"frequency_cap", false, "GATE_FREQ"⟩
  else ⟨"frequency_cap", true, "GATE_FREQ_N_A"⟩

/-- Blocks money movement on a revoked or expired mandate. -/
def gateMandateValidity (ctx : GuardContext) : GateCheck :=
  if ctx.action.verb = .escalateHuman then ⟨"mandate_validity", true, "GATE_MANDATE_N_A"⟩
  else if !isMoneyAction ctx then ⟨"mandate_validity", true, "GATE_MANDATE_N_A"⟩
  else
    match ctx.mandateState with
    | none => ⟨"mandate_validity", true, "GATE_MANDATE_UNKNOWN_ALLOW"⟩
    | some state =>
        if state = .revoked ∨ state = .expired then ⟨"mandate_validity", false, "GATE_MANDATE"⟩
        else ⟨"mandate_validity", true, "GATE_MANDATE_OK"⟩

/-- Blocks further retries and contacts at the attempt ceiling. -/
def gateAttemptCap (ctx : GuardContext) : GateCheck :=
  if ctx.action.verb = .escalateHuman then ⟨"attempt_cap", true, "GATE_ATTEMPTS_N_A"⟩
  else if ctx.attemptsUsed < ctx.maxAttempts then ⟨"attempt_cap", true, "GATE_ATTEMPTS_OK"⟩
  else ⟨"attempt_cap", false, "GATE_ATTEMPTS"⟩

def fingerprintAction (ctx : GuardContext) : String := actionFingerprint ctx.caseId ctx.action

/-- The context's own fingerprint, else the composed one. -/
def GuardContext.fingerprint (ctx : GuardContext) : String :=
  if ctx.actionFingerprint = "" then fingerprintAction ctx else ctx.actionFingerprint

/-- Blocks an action whose fingerprint was already executed. -/
def gateIdempotency (ctx : GuardContext) : GateCheck :=
  if ctx.fingerprint ∈ ctx.executedFingerprints then ⟨"idempotency", false, "GATE_IDEM"⟩
  else ⟨"idempotency", true, "GATE_IDEM_OK"⟩

def defaultGates : List (GuardContext → Except PyError GateCheck) :=
  [fun ctx => .ok (gateProhibitedRecovery ctx), gateContactWindow,
    fun ctx => .ok (gateFrequencyCap ctx), fun ctx => .ok (gateMandateValidity ctx),
    fun ctx => .ok (gateAttemptCap ctx), fun ctx => .ok (gateIdempotency ctx)]

def gateNames : List String :=
  ["prohibited_recovery", "contact_window", "frequency_cap", "mandate_validity", "attempt_cap",
    "idempotency"]

/-- The context with its fingerprint filled in. -/
def GuardContext.stamped (ctx : GuardContext) : GuardContext :=
  { ctx with actionFingerprint := ctx.fingerprint }

/-- `run_gates`: the checks in order, and the context it has stamped. -/
def runGates (ctx : GuardContext) : Except PyError (List GateCheck × GuardContext) := do
  let checks ← defaultGates.mapM fun gate => gate ctx.stamped
  return (checks, ctx.stamped)

def allPassed (checks : List GateCheck) : Bool := checks.all fun c => c.passed

/-!
## Where the gates return
-/

/-- The action is a contact, and the clock has no time in India. -/
def GuardContext.raises (ctx : GuardContext) : Bool := isContactAction ctx && !ctx.now.inIst

/-- The checks where none of the gates raises. -/
def gateVerdicts (ctx : GuardContext) : List GateCheck :=
  [gateProhibitedRecovery ctx, contactWindowAt ctx ctx.now.istHour, gateFrequencyCap ctx,
    gateMandateValidity ctx, gateAttemptCap ctx, gateIdempotency ctx]

theorem gateContactWindow_eq (ctx : GuardContext) :
    gateContactWindow ctx =
      if ctx.raises then .error .overflowError else .ok (contactWindowAt ctx ctx.now.istHour) := by
  unfold gateContactWindow GuardContext.raises
  cases hcontact : isContactAction ctx with
  | false => simp [contactWindowAt, hcontact]
  | true =>
      rw [astimezone_istOffset]
      cases ctx.now.inIst with
      | false => rfl
      | true => rfl

/-- The gates raise where the contact window does, and return all the checks otherwise. -/
theorem runGates_eq (ctx : GuardContext) :
    runGates ctx =
      if ctx.raises then .error .overflowError
      else .ok (gateVerdicts ctx.stamped, ctx.stamped) := by
  have hstamped : ctx.stamped.raises = ctx.raises := rfl
  unfold runGates defaultGates
  simp only [List.mapM_cons, List.mapM_nil, gateContactWindow_eq, hstamped]
  cases ctx.raises with
  | false => rfl
  | true => rfl

/-!
## What the gates ask for
-/

theorem prohibitedRecovery_passed_iff {ctx : GuardContext} :
    (gateProhibitedRecovery ctx).passed = true ↔
      strip (ctx.failureClass.getD "") = "risk_fraud" → ctx.action.verb = .escalateHuman := by
  have hverb : ctx.action.verb ≠ .escalateHuman → isMoneyAction ctx = true := by
    cases h : ctx.action.verb <;> simp [isMoneyAction, h]
  unfold gateProhibitedRecovery prohibitedFailureClasses
  by_cases hclass : strip (ctx.failureClass.getD "") = "risk_fraud"
  · by_cases hesc : ctx.action.verb = .escalateHuman
    · simp [hclass, hesc]
    · simp [hclass, hesc, hverb hesc]
  · simp [hclass]

/-- A gate that asks `q` of the actions in `p` and passes the others. -/
theorem asked_passed_iff {p q : Prop} [Decidable p] [Decidable q] {name ok no other : String} :
    (if p then if q then (⟨name, true, ok⟩ : GateCheck) else ⟨name, false, no⟩
      else ⟨name, true, other⟩).passed = true ↔ (p → q) := by
  split
  · next h =>
      split
      · next hin => simp [hin]
      · next hout => simpa [h] using hout
  · next h => simp [h]

theorem contactWindow_passed_iff {ctx : GuardContext} {hour : ℤ} :
    (contactWindowAt ctx hour).passed = true ↔ isContactAction ctx = true →
      ctx.contactWindowStartHourIst ≤ hour ∧ hour < ctx.contactWindowEndHourIst :=
  asked_passed_iff

theorem frequencyCap_passed_iff {ctx : GuardContext} :
    (gateFrequencyCap ctx).passed = true ↔
      isContactAction ctx = true → ctx.contactsUsed < ctx.maxContacts :=
  asked_passed_iff

theorem mandateValidity_passed_iff {ctx : GuardContext} :
    (gateMandateValidity ctx).passed = true ↔ ctx.action.verb ≠ .escalateHuman →
      ctx.mandateState ≠ some .revoked ∧ ctx.mandateState ≠ some .expired := by
  have hverb : ctx.action.verb ≠ .escalateHuman → isMoneyAction ctx = true := by
    cases h : ctx.action.verb <;> simp [isMoneyAction, h]
  unfold gateMandateValidity
  by_cases hesc : ctx.action.verb = .escalateHuman
  · simp [hesc]
  · cases hstate : ctx.mandateState with
    | none => simp [hesc, hverb hesc]
    | some state => cases state <;> simp [hesc, hverb hesc]

theorem attemptCap_passed_iff {ctx : GuardContext} :
    (gateAttemptCap ctx).passed = true ↔
      ctx.action.verb ≠ .escalateHuman → ctx.attemptsUsed < ctx.maxAttempts := by
  unfold gateAttemptCap
  split
  · next h => simp [h]
  · next h =>
      split
      · next hin => simp [hin]
      · next hout => simpa [h] using hout

theorem idempotency_passed_iff {ctx : GuardContext} :
    (gateIdempotency ctx).passed = true ↔ ctx.fingerprint ∉ ctx.executedFingerprints := by
  unfold gateIdempotency
  split
  · next h => simp [h]
  · next h => simp [h]

theorem fingerprint_ne_empty (ctx : GuardContext) : ctx.fingerprint ≠ "" := by
  unfold GuardContext.fingerprint
  split
  · exact composeFingerprint_ne_empty _ _ _ _ _
  · next h => exact h

@[simp] theorem stamped_fingerprint (ctx : GuardContext) :
    ctx.stamped.fingerprint = ctx.fingerprint :=
  if_neg (fingerprint_ne_empty ctx)

theorem gateVerdicts_names (ctx : GuardContext) :
    (gateVerdicts ctx).map (·.name) = gateNames := by
  have hmandate : (gateMandateValidity ctx).name = "mandate_validity" := by
    unfold gateMandateValidity
    cases ctx.mandateState <;> simp only [apply_ite GateCheck.name, ite_self]
  simp only [gateVerdicts, gateNames, List.map_cons, List.map_nil, hmandate,
    gateProhibitedRecovery, contactWindowAt, gateFrequencyCap, gateAttemptCap,
    gateIdempotency, apply_ite GateCheck.name, ite_self]

theorem allPassed_gateVerdicts_iff {ctx : GuardContext} :
    allPassed (gateVerdicts ctx.stamped) = true ↔
      (gateProhibitedRecovery ctx).passed = true ∧
        (contactWindowAt ctx ctx.now.istHour).passed = true ∧
          (gateFrequencyCap ctx).passed = true ∧ (gateMandateValidity ctx).passed = true ∧
            (gateAttemptCap ctx).passed = true ∧ (gateIdempotency ctx).passed = true := by
  have hidem : (gateIdempotency ctx.stamped).passed = (gateIdempotency ctx).passed := by
    unfold gateIdempotency
    rw [stamped_fingerprint]
    rfl
  simp only [allPassed, gateVerdicts, List.all_cons, List.all_nil, Bool.and_eq_true, hidem,
    and_true]
  rfl

end RecoveryAgent.Guard
