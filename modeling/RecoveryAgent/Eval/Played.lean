import Mathlib.Tactic.Ring
import RecoveryAgent.Eval.Costing

/-!
# What is priced is what was played

The costing rebuilds the played actions with a loop of its own. It ends up with the
actions that the simulator has processed, without those that do nothing, so every
retry and every contact is priced once.
-/

namespace RecoveryAgent.Eval

open Python Config

/-- The actions that do something. -/
def interventions (actions : List PlannedAction) : List PlannedAction :=
  actions.filter fun a => a.verb ≠ .noop

theorem interventions_eq_nil {actions : List PlannedAction}
    (hretries : actions.countP (fun a => isRetryVerb a.verb) = 0)
    (hcontacts : actions.countP (fun a => isContactVerb a.verb) = 0) :
    interventions actions = [] := by
  rw [List.countP_eq_zero] at hretries hcontacts
  rw [interventions, List.filter_eq_nil_iff]
  intro action haction
  have hretry := hretries action haction
  have hcontact := hcontacts action haction
  rcases verb_cases action.verb with ⟨h, -⟩ | ⟨-, h, -⟩ | ⟨-, -, h⟩
  · exact absurd h hretry
  · exact absurd h hcontact
  · simp [h]

theorem takeExecuted_retry {action : PlannedAction} (hretry : isRetryVerb action.verb = true)
    (retries contacts : ℕ) (rest : List PlannedAction) :
    takeExecuted (retries + 1) contacts (action :: rest) =
      if retries = 0 ∧ contacts = 0 then [action]
      else [action] ++ takeExecuted retries contacts rest := by
  simp [takeExecuted, hretry]

theorem takeExecuted_contact {action : PlannedAction} (hretry : isRetryVerb action.verb = false)
    (hcontact : isContactVerb action.verb = true) (retries contacts : ℕ)
    (rest : List PlannedAction) :
    takeExecuted retries (contacts + 1) (action :: rest) =
      if retries = 0 ∧ contacts = 0 then [action]
      else [action] ++ takeExecuted retries contacts rest := by
  simp [takeExecuted, hretry, hcontact]

theorem takeExecuted_noop {action : PlannedAction} (hretry : isRetryVerb action.verb = false)
    (hcontact : isContactVerb action.verb = false) (retries contacts : ℕ)
    (rest : List PlannedAction) :
    takeExecuted retries contacts (action :: rest) =
      if retries = 0 ∧ contacts = 0 then [] else [] ++ takeExecuted retries contacts rest := by
  simp [takeExecuted, hretry, hcontact]

theorem takeExecuted_prefix (played rest : List PlannedAction) :
    takeExecuted (played.countP fun a => isRetryVerb a.verb)
      (played.countP fun a => isContactVerb a.verb) (played ++ rest) = interventions played := by
  induction played with
  | nil =>
      cases rest with
      | nil => rfl
      | cons action rest => simp [takeExecuted, interventions]
  | cons action played ih =>
      have hstop : ∀ {retries contacts : ℕ},
          retries = played.countP (fun a => isRetryVerb a.verb) →
          contacts = played.countP (fun a => isContactVerb a.verb) →
          ∀ taken : List PlannedAction,
            (if retries = 0 ∧ contacts = 0 then taken
              else taken ++ takeExecuted retries contacts (played ++ rest)) =
                taken ++ interventions played := by
        rintro retries contacts rfl rfl taken
        split
        · next hspent => rw [interventions_eq_nil hspent.1 hspent.2, List.append_nil]
        · rw [ih]
      have hfilter : interventions (action :: played) =
          (if action.verb ≠ .noop then [action] else []) ++ interventions played := by
        unfold interventions
        rw [List.filter_cons]
        split <;> simp_all
      rw [List.cons_append, List.countP_cons, List.countP_cons, hfilter]
      rcases verb_cases action.verb with ⟨hretry, hcontact, hverb⟩ | ⟨hretry, hcontact, hverb⟩ |
        ⟨hretry, hcontact, hverb⟩
      · rw [if_pos hretry, if_neg (by simp [hcontact]), if_pos hverb, takeExecuted_retry hretry]
        exact hstop rfl rfl [action]
      · rw [if_neg (by simp [hretry]), if_pos hcontact, if_pos hverb,
          takeExecuted_contact hretry hcontact]
        exact hstop rfl rfl [action]
      · rw [if_neg (by simp [hretry]), if_neg (by simp [hcontact]), if_neg (by simp [hverb]),
          takeExecuted_noop hretry hcontact]
        exact hstop rfl rfl []

/-- The costing rebuilds what was processed. -/
theorem executedActions_runCase {G : Type*} (random : G → ℚ × G) (g : G) (case : SimCase)
    (planFn : PlanFn) :
    executedActions case (runCase random g case planFn) planFn =
      interventions (processed random g case planFn) := by
  obtain ⟨hretries, hcontacts⟩ := runCase_counts random g case planFn
  obtain ⟨rest, hrest⟩ := reached_prefix random case { rng := g } (chronological (planFn case))
  rw [executedActions, hretries, hcontacts, ← hrest]
  exact takeExecuted_prefix _ rest

theorem countP_interventions {p : PlannedAction → Bool}
    (hp : ∀ action : PlannedAction, action.verb = .noop → p action = false)
    (actions : List PlannedAction) : (interventions actions).countP p = actions.countP p := by
  rw [interventions, List.countP_filter]
  refine List.countP_congr fun action _ => ?_
  by_cases hnoop : action.verb = .noop
  · simp [hp action hnoop, hnoop]
  · simp [hnoop]

/-!
## The sums
-/

/-- By how many retries the scheme's cap is exceeded. -/
def excessRetries (costs : Costs) (retries : ℕ) : ℤ := max 0 ((retries : ℤ) - schemeCap costs)

def inappropriate (case : SimCase) (action : PlannedAction) : Bool :=
  isContactVerb action.verb && isInappropriateContact case action

/-- What the loop adds to its sums. -/
structure Charged (costs : Costs) (case : SimCase) (executed : List PlannedAction)
    (before after : Charges) : Prop where
  retryIndex : after.retryIndex =
    before.retryIndex + executed.countP fun a => isRetryVerb a.verb
  attemptCost : after.attemptCost = before.attemptCost +
    costs.pspFeeOnFailedAttempt * executed.countP (fun a => isRetryVerb a.verb) +
    costs.networkExcessRetryPenalty *
      (excessRetries costs after.retryIndex - excessRetries costs before.retryIndex) +
    costs.smsDlt * executed.countP (fun a => a.verb = .genericNag) +
    costs.whatsappUtility * executed.countP (fun a => a.verb = .sendPaymentLink)
  riskCost : after.riskCost = before.riskCost +
    paiseToInr case.visible.amountPaise * costs.issuerAuthDecayPctPerExcessAttempt *
      (excessRetries costs after.retryIndex - excessRetries costs before.retryIndex) +
    (if recoveryClassFor case.visible.failureReason = .prohibited then
      (costs.supportTicket + costs.churnProbPerInappropriateContact * costs.chargebackFee) *
        executed.countP (inappropriate case) else 0)
  customerCost : after.customerCost = before.customerCost +
    costs.churnProbPerInappropriateContact * costs.ltv * executed.countP (inappropriate case)

theorem excessRetries_succ (costs : Costs) (retries : ℕ) :
    excessRetries costs (retries + 1) - excessRetries costs retries =
      if schemeCap costs < (retries : ℤ) + 1 then 1 else 0 := by
  unfold excessRetries
  split
  · omega
  · omega

theorem charged_nil (costs : Costs) (case : SimCase) (sums : Charges) :
    Charged costs case [] sums sums where
  retryIndex := rfl
  attemptCost := by simp
  riskCost := by simp
  customerCost := by simp

/-- A retry is priced, and above the cap it is fined. -/
theorem charged_retry (costs : Costs) (case : SimCase) (sums : Charges) {action : PlannedAction}
    (hverb : action.verb = .scheduleRetry) :
    Charged costs case [action] sums (charge costs case sums action) := by
  have hexcess := congrArg (Int.cast : ℤ → ℚ) (excessRetries_succ costs sums.retryIndex)
  rw [Int.cast_sub] at hexcess
  unfold charge
  by_cases hover : schemeCap costs < (sums.retryIndex : ℤ) + 1
  · rw [if_pos hover] at hexcess
    constructor <;> simp [isRetryVerb, isContactVerb, inappropriate, hverb, hover, hexcess]
  · rw [if_neg hover] at hexcess
    constructor <;> simp [isRetryVerb, isContactVerb, inappropriate, hverb, hover, hexcess]

/-- A contact has the price of its verb. -/
theorem contactUnitCost_eq (costs : Costs) {verb : SimVerb} (h : isContactVerb verb = true) :
    contactUnitCost costs verb = costs.smsDlt * (if verb = .genericNag then 1 else 0) +
      costs.whatsappUtility * (if verb = .sendPaymentLink then 1 else 0) := by
  cases verb with
  | genericNag => simp [contactUnitCost]
  | sendPaymentLink => simp [contactUnitCost]
  | scheduleRetry => cases h
  | noop => cases h

theorem charged_contact (costs : Costs) (case : SimCase) (sums : Charges) {action : PlannedAction}
    (hretry : isRetryVerb action.verb = false) (hcontact : isContactVerb action.verb = true) :
    Charged costs case [action] sums (charge costs case sums action) := by
  have hprice := contactUnitCost_eq costs hcontact
  unfold charge
  by_cases hbad : isInappropriateContact case action = true
  · by_cases hclass : recoveryClassFor case.visible.failureReason = .prohibited
    · constructor <;> simp [List.countP_singleton, inappropriate, hretry, hcontact, hprice, hbad,
        hclass, add_assoc]
    · constructor <;> simp [List.countP_singleton, inappropriate, hretry, hcontact, hprice, hbad,
        hclass, add_assoc]
  · constructor <;> simp [List.countP_singleton, inappropriate, hretry, hcontact, hprice, hbad,
      add_assoc]

theorem charged_singleton (costs : Costs) (case : SimCase) (sums : Charges)
    (action : PlannedAction) :
    Charged costs case [action] sums (charge costs case sums action) := by
  cases hverb : action.verb with
  | scheduleRetry => exact charged_retry costs case sums hverb
  | genericNag => exact charged_contact costs case sums (by rw [hverb]; rfl) (by rw [hverb]; rfl)
  | sendPaymentLink =>
      exact charged_contact costs case sums (by rw [hverb]; rfl) (by rw [hverb]; rfl)
  | noop =>
      unfold charge
      constructor <;> simp [isRetryVerb, isContactVerb, inappropriate, hverb]

/-- Two runs of the loop, one after the other. -/
theorem Charged.trans {costs : Costs} {case : SimCase} {xs ys : List PlannedAction}
    {before between after : Charges} (h : Charged costs case xs before between)
    (h' : Charged costs case ys between after) : Charged costs case (xs ++ ys) before after where
  retryIndex := by rw [h'.retryIndex, h.retryIndex, List.countP_append, Nat.add_assoc]
  attemptCost := by
    rw [h'.attemptCost, h.attemptCost]
    simp only [List.countP_append, Nat.cast_add]
    ring
  riskCost := by
    rw [h'.riskCost, h.riskCost]
    simp only [List.countP_append, Nat.cast_add]
    split
    · ring
    · ring
  customerCost := by
    rw [h'.customerCost, h.customerCost]
    simp only [List.countP_append, Nat.cast_add]
    ring

theorem charged_foldl (costs : Costs) (case : SimCase) (executed : List PlannedAction)
    (sums : Charges) :
    Charged costs case executed sums (executed.foldl (charge costs case) sums) := by
  induction executed generalizing sums with
  | nil => exact charged_nil costs case sums
  | cons action rest ih =>
      exact (charged_singleton costs case sums action).trans (ih (charge costs case sums action))

theorem charged_charges (costs : Costs) (case : SimCase) (executed : List PlannedAction) :
    Charged costs case executed {} (charges costs case executed) :=
  charged_foldl costs case executed {}

/-!
## The prices
-/

/-- The simulator starts counting at the first retry, below every cap. -/
theorem excessRetries_zero {costs : Costs} (hcap : 0 ≤ schemeCap costs) :
    excessRetries costs 0 = 0 := by
  unfold excessRetries
  omega

/-- For every case, plan and stream of random numbers, the costing prices the
processed actions that do something, in their order; it sees the retries and the
contacts of the outcome; and for a cap that is not negative the penalty is charged
once for every retry above it, and the cap is breached when there is one. -/
theorem priced_as_played {G : Type*} (random : G → ℚ × G) (g : G) (case : SimCase)
    (planFn : PlanFn) :
    executedActions case (runCase random g case planFn) planFn =
        (processed random g case planFn).filter (fun a => a.verb ≠ .noop) ∧
      (executedActions case (runCase random g case planFn) planFn).countP
          (fun a => isRetryVerb a.verb) = (runCase random g case planFn).retries ∧
      (executedActions case (runCase random g case planFn) planFn).countP
          (fun a => isContactVerb a.verb) = (runCase random g case planFn).contacts ∧
      ∀ (costs : Costs) (label : String), 0 ≤ schemeCap costs →
        (computeCaseCosts costs case (runCase random g case planFn) planFn label).attemptCostInr =
            round (costs.pspFeeOnFailedAttempt * (runCase random g case planFn).retries +
              costs.networkExcessRetryPenalty *
                (max 0 ((runCase random g case planFn).retries - schemeCap costs) : ℤ) +
              costs.smsDlt * (processed random g case planFn).countP
                (fun a => a.verb = .genericNag) +
              costs.whatsappUtility * (processed random g case planFn).countP
                (fun a => a.verb = .sendPaymentLink)) 4 ∧
          ((computeCaseCosts costs case (runCase random g case planFn) planFn
              label).schemeCapBreach = true ↔
            0 < max 0 ((runCase random g case planFn).retries - schemeCap costs)) := by
  have hplayed := executedActions_runCase random g case planFn
  obtain ⟨hretries, hcontacts⟩ := runCase_counts random g case planFn
  have hseen : (executedActions case (runCase random g case planFn) planFn).countP
      (fun a => isRetryVerb a.verb) = (runCase random g case planFn).retries := by
    rw [hplayed, countP_interventions, hretries]
    intro action hnoop
    rw [hnoop]
    rfl
  refine ⟨hplayed, hseen, ?_, ?_⟩
  · rw [hplayed, countP_interventions, hcontacts]
    intro action hnoop
    rw [hnoop]
    rfl
  · intro costs label hcap
    have hcharged := charged_charges costs case
      (executedActions case (runCase random g case planFn) planFn)
    have hindex : (charges costs case
        (executedActions case (runCase random g case planFn) planFn)).retryIndex =
          (runCase random g case planFn).retries := by
      rw [hcharged.retryIndex, hseen]
      exact Nat.zero_add _
    constructor
    · have hnags := countP_interventions (p := fun a => a.verb = .genericNag)
        (by simp +contextual) (processed random g case planFn)
      have hlinks := countP_interventions (p := fun a => a.verb = .sendPaymentLink)
        (by simp +contextual) (processed random g case planFn)
      have hzero : excessRetries costs ({} : Charges).retryIndex = 0 := excessRetries_zero hcap
      unfold computeCaseCosts
      simp only
      rw [hcharged.attemptCost, hindex, hseen, hzero, hplayed, hnags, hlinks]
      simp [excessRetries]
    · unfold computeCaseCosts
      simp only [decide_eq_true_eq]
      omega

/-- A case on which no draw succeeds. -/
def brokeCase : SimCase where
  visible :=
    { caseKey := "sim_42_0000"
      payerRef := "payer_42_0000"
      amountPaise := 49900
      rail := "card"
      failureReason := .insufficientFunds }
  hidden :=
    { instrumentValid := true
      trueCreditDay := 1
      naturalRecoveryProb := 8 / 100
      baseContactResponseProb := 22 / 100 }
  failureDom := 15

/-- A scheme that allows two attempts and fines every further one. -/
def strictCosts : Costs :=
  { shippedCosts with maxAttemptsPerTransaction30d := 2, networkExcessRetryPenalty := 5 }

/-- The third retry of the ladder breaches a cap of two. -/
theorem priced_as_played_ladder :
    (computeCaseCosts strictCosts brokeCase
      (runCase (fun g : Unit => (1, g)) () brokeCase baselineB2) baselineB2
      "b2").schemeCapBreach = true := by
  have hpriced := priced_as_played (fun g : Unit => (1, g)) () brokeCase baselineB2
  have hcap : 0 ≤ schemeCap strictCosts := by decide
  exact (hpriced.2.2.2 strictCosts "b2" hcap).2.2 (by decide +kernel)

end RecoveryAgent.Eval
