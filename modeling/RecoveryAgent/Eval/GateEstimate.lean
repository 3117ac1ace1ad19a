import Mathlib.Algebra.Ring.Nat
import RecoveryAgent.Eval.Types
import RecoveryAgent.Guard.Fingerprints
import RecoveryAgent.Library.Quota

/-!
# The gate-block estimate

`eval/gate_estimate.py`: how many actions of the plans the gates would refuse, counted
with two counters and without a ledger. Beyond the gates that do not count, the estimate
is a quota of three actions to which every retry and at most two links are charged.
-/

namespace RecoveryAgent.Eval

open Python Policy Ledger Guard Library

def toAction (pa : PlannedAction) : Action where
  verb :=
    match pa.verb with
    | .scheduleRetry => .scheduleRetry
    | .sendPaymentLink => .sendPaymentLink
    | .genericNag => .sendPaymentLink
    | .noop => .escalateHuman
  dayOffset := some pa.dayOffset
  channel := if pa.verb ∈ [.sendPaymentLink, .genericNag] then .link else .none
  reasonCode := if pa.note = "" then "EVAL_PLAN" else pa.note
  proposedBy := .rulesFallback

/-- A revoked mandate is a structural stop for money. -/
def mandateOf (case : SimCase) : MandateState :=
  if case.visible.failureReason.value = "mandate_revoked" then .revoked else .active

/-- The context of one planned action, with the counters at hand. -/
def planContext (case : SimCase) (now : DateTime) (contacts attempts : ℕ) (action : Action) :
    GuardContext where
  caseId := case.visible.caseKey
  action
  now
  failureClass := some case.visible.failureReason.value
  contactsUsed := contacts
  attemptsUsed := attempts
  maxContacts := 2
  maxAttempts := 3
  mandateState := some (mandateOf case)

/-!
## The estimate
-/

/-- The variables of the loop. -/
structure Estimate where
  contacts : ℕ := 0
  attempts : ℕ := 0
  blocks : ℕ := 0

/-- What the checks of an action do to the variables. -/
def Estimate.after (e : Estimate) (action : Action) (checks : List GateCheck) : Estimate :=
  if !allPassed checks then { e with blocks := e.blocks + 1 }
  else if action.verb = .scheduleRetry then { e with attempts := e.attempts + 1 }
  else if action.verb ∈ [.sendPaymentLink, .requestMandateUpdate] then
    { e with contacts := e.contacts + 1, attempts := e.attempts + 1 }
  else e

/-- One round of the inner loop. -/
def estimateAction (now : DateTime) (case : SimCase) (e : Estimate) (pa : PlannedAction) :
    Except PyError Estimate :=
  if pa.verb = .noop then .ok e
  else do
    let action := toAction pa
    let (checks, _) ← runGates (planContext case now e.contacts e.attempts action)
    return e.after action checks

/-- `count_gate_blocks`. Without a clock it is a fixed daytime. -/
def countGateBlocks (cases : List SimCase) (planFn : PlanFn) (now : Option DateTime) :
    Except PyError ℕ :=
  cases.foldlM
    (fun blocks case => do
      let e ← (chronological (planFn case)).foldlM (estimateAction (now.getD daytime) case)
        { blocks }
      return e.blocks)
    0

/-!
## Where the gates return
-/

/-- The action contacts the customer, and the clock has no time in India. -/
def raisesAt (now : DateTime) (pa : PlannedAction) : Bool :=
  isContactVerbOrChannel (toAction pa) && !now.inIst

def PlanRaises (now : DateTime) (plan : List PlannedAction) : Prop :=
  ∃ pa ∈ plan, raisesAt now pa = true

/-- One round where the gates return. -/
def chargeAction (now : DateTime) (case : SimCase) (e : Estimate) (pa : PlannedAction) :
    Estimate :=
  if pa.verb = .noop then e
  else
    e.after (toAction pa)
      (gateVerdicts (planContext case now e.contacts e.attempts (toAction pa)).stamped)

theorem estimateAction_eq (now : DateTime) (case : SimCase) (e : Estimate) (pa : PlannedAction) :
    estimateAction now case e pa =
      if raisesAt now pa then .error .overflowError else .ok (chargeAction now case e pa) := by
  unfold estimateAction chargeAction
  by_cases hnoop : pa.verb = .noop
  · have hquiet : raisesAt now pa = false := by
      simp [raisesAt, toAction, hnoop, isContactVerbOrChannel, ActionVerb.isLink]
    simp [hnoop, hquiet]
  · have hraises : (planContext case now e.contacts e.attempts (toAction pa)).raises =
        raisesAt now pa := rfl
    simp only [if_neg hnoop, runGates_eq, hraises]
    cases raisesAt now pa with
    | true => rfl
    | false => rfl

theorem any_chronological {p : PlannedAction → Bool} (plan : List PlannedAction) :
    (chronological plan).any p = plan.any p := by
  rw [Bool.eq_iff_iff, List.any_eq_true, List.any_eq_true]
  simp only [mem_chronological]

/-- What the loop over one plan adds, where the gates return. -/
def caseBlocks (now : DateTime) (planFn : PlanFn) (case : SimCase) : ℕ :=
  ((chronological (planFn case)).foldl (chargeAction now case) {}).blocks

/-!
## What the gates let through
-/

/-- The gates that do not count let the action through. -/
def Eligible (now : DateTime) (case : SimCase) (a : Action) : Prop :=
  case.visible.failureReason ≠ .riskFraud ∧ case.visible.failureReason ≠ .mandateRevoked ∧
    (a.verb ≠ .scheduleRetry → 9 ≤ now.istHour ∧ now.istHour < 21)

instance (now : DateTime) (case : SimCase) (a : Action) : Decidable (Eligible now case a) :=
  inferInstanceAs (Decidable (_ ∧ _ ∧ _))

def isRetry (a : Action) : Bool := a.verb = .scheduleRetry

/-- The planned actions that only the counting gates can refuse, in order. -/
def eligible (now : DateTime) (case : SimCase) (actions : List PlannedAction) : List Action :=
  ((actions.filter fun pa => pa.verb ≠ .noop).map toAction).filter fun a => Eligible now case a

/-- A planned action is a retry, or a link by link. -/
theorem toAction_cases {pa : PlannedAction} (h : pa.verb ≠ .noop) :
    ((toAction pa).verb = .scheduleRetry ∧ (toAction pa).channel = .none) ∨
      ((toAction pa).verb = .sendPaymentLink ∧ (toAction pa).channel = .link) := by
  unfold toAction
  cases hverb : pa.verb with
  | noop => exact absurd hverb h
  | scheduleRetry => simp
  | sendPaymentLink => simp
  | genericNag => simp

/-- On one case the fingerprint tells planned actions apart. -/
theorem toAction_eq_of_fingerprint {caseId : String} {pa pb : PlannedAction}
    (h : actionFingerprint caseId (toAction pa) = actionFingerprint caseId (toAction pb)) :
    toAction pa = toAction pb := by
  obtain ⟨hverb, hday, hchannel, hreason⟩ := fields_of_actionFingerprint h
  have hshape : ∀ pc, toAction pc =
      { verb := (toAction pc).verb
        dayOffset := some pc.dayOffset
        channel := (toAction pc).channel
        reasonCode := (toAction pc).reasonCode } := fun _ => rfl
  rw [hshape pa, hshape pb, hverb, hchannel, hreason, Option.some.inj hday]

section

variable {now : DateTime} {case : SimCase}

/-- What the gates ask of a planned action, when these fingerprints are executed. -/
theorem planned_allPassed_iff {pa : PlannedAction} (h : pa.verb ≠ .noop) {contacts attempts : ℕ}
    {seen : Finset String} {ctx : GuardContext}
    (hctx : ctx = { planContext case now contacts attempts (toAction pa) with
      executedFingerprints := seen }) :
    allPassed (gateVerdicts ctx.stamped) = true ↔
      Eligible now case (toAction pa) ∧
        actionFingerprint case.visible.caseKey (toAction pa) ∉ seen ∧ attempts < 3 ∧
          (isRetry (toAction pa) = false → contacts < 2) := by
  have hclass : strip (ctx.failureClass.getD "") = "risk_fraud" ↔
      case.visible.failureReason = .riskFraud := by
    rw [hctx]
    change strip case.visible.failureReason.value = "risk_fraud" ↔ _
    cases case.visible.failureReason <;> decide
  have hmandate : (ctx.mandateState ≠ some .revoked ∧ ctx.mandateState ≠ some .expired) ↔
      case.visible.failureReason ≠ .mandateRevoked := by
    rw [hctx]
    change some (mandateOf case) ≠ some .revoked ∧ some (mandateOf case) ≠ some .expired ↔ _
    unfold mandateOf
    cases case.visible.failureReason <;> decide
  have hverb : ctx.action.verb ≠ .escalateHuman := by
    rw [hctx]
    rcases toAction_cases h with ⟨hverb, -⟩ | ⟨hverb, -⟩
    · simp [planContext, hverb]
    · simp [planContext, hverb]
  have hcontact : isContactAction ctx = true ↔ (toAction pa).verb ≠ .scheduleRetry := by
    rw [hctx]
    rcases toAction_cases h with ⟨hverb, hchannel⟩ | ⟨hverb, hchannel⟩
    · simp [isContactAction, isContactVerbOrChannel, planContext, hverb, hchannel,
        ActionVerb.isLink]
    · simp [isContactAction, isContactVerbOrChannel, planContext, hverb, ActionVerb.isLink]
  have hwindow : (ctx.contactWindowStartHourIst ≤ ctx.now.istHour ∧
      ctx.now.istHour < ctx.contactWindowEndHourIst) ↔ 9 ≤ now.istHour ∧ now.istHour < 21 := by
    rw [hctx]
    rfl
  have hcontacts : ctx.contactsUsed < ctx.maxContacts ↔ contacts < 2 := by
    rw [hctx]
    exact Int.ofNat_lt (n := contacts) (m := 2)
  have hattempts : ctx.attemptsUsed < ctx.maxAttempts ↔ attempts < 3 := by
    rw [hctx]
    exact Int.ofNat_lt (n := attempts) (m := 3)
  have hfingerprint : ctx.fingerprint ∉ ctx.executedFingerprints ↔
      actionFingerprint case.visible.caseKey (toAction pa) ∉ seen := by
    rw [hctx]
    rfl
  rw [allPassed_gateVerdicts_iff, prohibitedRecovery_passed_iff, contactWindow_passed_iff,
    frequencyCap_passed_iff, mandateValidity_passed_iff, attemptCap_passed_iff,
    Guard.idempotency_passed_iff, hclass, hcontact, hwindow, hcontacts, hattempts, hfingerprint,
    hmandate, Eligible]
  simp only [isRetry, decide_eq_false_iff_not, hverb, imp_false, ne_eq, not_false_eq_true,
    true_imp_iff]
  constructor
  · rintro ⟨risk, window, budget, mandate, attempts, fresh⟩
    exact ⟨⟨risk, mandate, window⟩, fresh, attempts, budget⟩
  · rintro ⟨⟨risk, mandate, window⟩, fresh, attempts, budget⟩
    exact ⟨risk, window, budget, mandate, attempts, fresh⟩

/-!
## The estimate counts jointly
-/

theorem eligible_noop {pa : PlannedAction} (h : pa.verb = .noop) (actions : List PlannedAction) :
    eligible now case (pa :: actions) = eligible now case actions := by
  simp [eligible, h]

theorem eligible_cons {pa : PlannedAction} (h : pa.verb ≠ .noop) (actions : List PlannedAction) :
    eligible now case (pa :: actions) =
      if Eligible now case (toAction pa) then toAction pa :: eligible now case actions
      else eligible now case actions := by
  by_cases heligible : Eligible now case (toAction pa)
  · simp [eligible, h, heligible]
  · simp [eligible, h, heligible]

theorem chargeAction_refused {pa : PlannedAction} (h : pa.verb ≠ .noop)
    (hrefused : ¬Eligible now case (toAction pa)) (e : Estimate) :
    chargeAction now case e pa = { e with blocks := e.blocks + 1 } := by
  have hblocked : ¬allPassed
      (gateVerdicts (planContext case now e.contacts e.attempts (toAction pa)).stamped) = true :=
    fun hpassed => hrefused ((planned_allPassed_iff h rfl).1 hpassed).1
  simp [chargeAction, Estimate.after, h, hblocked]

/-- One round on any other action charges it to the joint quota. -/
theorem chargeAction_charged {pa : PlannedAction} (h : pa.verb ≠ .noop)
    (heligible : Eligible now case (toAction pa)) (e : Estimate) :
    ⟨(chargeAction now case e pa).attempts, (chargeAction now case e pa).contacts⟩ =
        (Quota.joint isRetry 3 2 ⟨e.attempts, e.contacts⟩ (toAction pa)).1 ∧
      (chargeAction now case e pa).blocks +
        (Quota.joint isRetry 3 2 ⟨e.attempts, e.contacts⟩ (toAction pa)).2.length =
          e.blocks + 1 := by
  have hgates : allPassed
      (gateVerdicts (planContext case now e.contacts e.attempts (toAction pa)).stamped) = true ↔
        e.attempts < 3 ∧ (isRetry (toAction pa) = false → e.contacts < 2) := by
    have hnone : (planContext case now e.contacts e.attempts
        (toAction pa)).executedFingerprints = ∅ := rfl
    rw [planned_allPassed_iff h rfl, hnone]
    simp [heligible]
  by_cases hroom : e.attempts < 3 ∧ (isRetry (toAction pa) = false → e.contacts < 2)
  · have hpassed := hgates.2 hroom
    rcases toAction_cases h with ⟨hverb, -⟩ | ⟨hverb, -⟩
    · have hretry : isRetry (toAction pa) = true := decide_eq_true hverb
      rw [Quota.joint_of_main hretry hroom.1]
      simp [chargeAction, Estimate.after, h, hpassed, hverb]
    · have hretry : isRetry (toAction pa) = false := by simp [isRetry, hverb]
      rw [Quota.joint_of_side hretry ⟨hroom.1, hroom.2 hretry⟩]
      simp [chargeAction, Estimate.after, h, hpassed, hverb]
  · have hblocked := hgates.not.2 hroom
    rw [Quota.joint_of_full hroom]
    simp [chargeAction, Estimate.after, h, hblocked]

variable (now case) in
/-- The estimate blocks what the joint quota does not cover. -/
theorem estimate_blocks (e : Estimate) (actions : List PlannedAction) :
    (actions.foldl (chargeAction now case) e).blocks +
        (Run.emitted (Quota.joint isRetry 3 2) ⟨e.attempts, e.contacts⟩
          (eligible now case actions)).length =
      e.blocks + actions.countP fun pa => pa.verb ≠ .noop := by
  induction actions generalizing e with
  | nil => rfl
  | cons pa actions ih =>
      rw [List.foldl_cons]
      by_cases hnoop : pa.verb = .noop
      · have hidle : chargeAction now case e pa = e := if_pos hnoop
        rw [hidle, eligible_noop hnoop, ih, List.countP_cons_of_neg (by simp [hnoop])]
      · have hrest := ih (chargeAction now case e pa)
        rw [eligible_cons hnoop, List.countP_cons_of_pos (by simp [hnoop])]
        by_cases heligible : Eligible now case (toAction pa)
        · obtain ⟨hused, hblocks⟩ := chargeAction_charged hnoop heligible e
          rw [hused] at hrest
          rw [if_pos heligible, Run.emitted_cons, List.length_append]
          omega
        · rw [chargeAction_refused hnoop heligible] at hrest ⊢
          rw [if_neg heligible]
          simp only at hrest
          omega

end

/-- A plan adds its blocks to those counted before it. -/
theorem charged_from (now : DateTime) (planFn : PlanFn) (case : SimCase) (blocks : ℕ) :
    ((chronological (planFn case)).foldl (chargeAction now case) { blocks }).blocks =
      blocks + caseBlocks now planFn case := by
  have hzero : caseBlocks now planFn case +
      (Run.emitted (Quota.joint isRetry 3 2) ⟨0, 0⟩ (eligible now case
        (chronological (planFn case)))).length = 0 + _ :=
    estimate_blocks now case {} (chronological (planFn case))
  have hblocks := estimate_blocks now case { blocks } (chronological (planFn case))
  simp only at hblocks
  omega

/-- `count_gate_blocks` adds the cases up, unless a plan makes the gates raise. -/
theorem countGateBlocks_eq (cases : List SimCase) (planFn : PlanFn) (now : Option DateTime) :
    countGateBlocks cases planFn now =
      if cases.any fun case => (planFn case).any (raisesAt (now.getD daytime)) then
        .error .overflowError
      else .ok (cases.map (caseBlocks (now.getD daytime) planFn)).sum := by
  have hstep : ∀ (blocks : ℕ) (case : SimCase), True → (do
      let e ← (chronological (planFn case)).foldlM (estimateAction (now.getD daytime) case)
        { blocks }
      return e.blocks : Except PyError ℕ) =
        if (planFn case).any (raisesAt (now.getD daytime)) then .error .overflowError
        else .ok (blocks + caseBlocks (now.getD daytime) planFn case) := by
    intro blocks case _
    rw [foldlM_eq_ite (fun _ => True) (fun e pa _ => estimateAction_eq _ case e pa)
      (fun _ _ _ _ => trivial) _ trivial, any_chronological, ← charged_from]
    split
    · rfl
    · rfl
  have hsum : ∀ (list : List SimCase) (blocks : ℕ),
      list.foldl (fun blocks case => blocks + caseBlocks (now.getD daytime) planFn case) blocks =
        blocks + (list.map (caseBlocks (now.getD daytime) planFn)).sum := by
    intro list
    induction list with
    | nil => exact fun blocks => rfl
    | cons case list ih =>
        intro blocks
        rw [List.foldl_cons, ih, List.map_cons, List.sum_cons, Nat.add_assoc]
  rw [countGateBlocks, foldlM_eq_ite (fun _ => True) hstep (fun _ _ _ _ => trivial) _
    trivial, hsum, Nat.zero_add]

/-- The blocks of the estimate, in terms of the plan. -/
theorem caseBlocks_eq (now : DateTime) (planFn : PlanFn) (case : SimCase) :
    caseBlocks now planFn case +
        min 3 ((eligible now case (chronological (planFn case))).countP isRetry +
          min 2 ((eligible now case (chronological (planFn case))).countP fun a => !isRetry a)) =
      (chronological (planFn case)).countP fun pa => pa.verb ≠ .noop := by
  have hblocks := estimate_blocks now case {} (chronological (planFn case))
  rw [Quota.joint_length (Nat.zero_le 3) (Nat.zero_le 2), Nat.zero_add] at hblocks
  exact hblocks

end RecoveryAgent.Eval
