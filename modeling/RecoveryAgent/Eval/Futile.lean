import RecoveryAgent.Eval.Outcomes

/-!
# Futile actions do not move the dice

A noop, or a retry that cannot succeed, draws no random number and tires no payer. The
other actions find the same dice whether it is played or not.
-/

namespace RecoveryAgent.Eval

open Library

/-- A noop, or a retry of a dead instrument or on a day without funds. -/
def futile (case : SimCase) (action : PlannedAction) : Bool :=
  action.verb = .noop ||
    isRetryVerb action.verb && (recoveryClassFor case.visible.failureReason = .customerAction ||
      !case.hidden.instrumentValid ||
      !fundsAvailableOnDay case (case.failureDom + action.dayOffset))

/-- The actions of a plan that are not futile. -/
def essential (case : SimCase) (plan : List PlannedAction) : List PlannedAction :=
  plan.filter fun action => !futile case action

/-- What an outcome says of the recovery. -/
structure Recovery where
  recovered : Bool
  recoveredPaise : ℤ
  contacts : ℕ
  natural : Bool
  deriving DecidableEq, Repr

def CaseOutcome.recovery (outcome : CaseOutcome) : Recovery where
  recovered := outcome.recovered
  recoveredPaise := outcome.recoveredPaise
  contacts := outcome.contacts
  natural := outcome.natural

section

variable {G : Type*} (random : G → ℚ × G)

/-- What the recovery and the later actions depend on. -/
def Play.dice (p : Play G) : G × ℕ × ℕ := (p.rng, p.fatigue, p.contacts)

/-- A retry that cannot succeed returns before it draws. -/
theorem tryRetry_futile {case : SimCase} {action : PlannedAction} (g : G)
    (hretry : isRetryVerb action.verb = true) (h : futile case action = true) :
    tryRetry random g case action.dayOffset = (false, g) := by
  have hverb : action.verb ≠ .noop := by
    intro hnoop
    rw [hnoop] at hretry
    cases hretry
  rw [futile, hretry, decide_eq_false hverb, Bool.false_or, Bool.true_and] at h
  unfold tryRetry
  by_cases hclass : recoveryClassFor case.visible.failureReason = .customerAction
  · rw [if_pos hclass]
  · rw [if_neg hclass]
    by_cases hvalid : case.hidden.instrumentValid = false
    · rw [if_pos hvalid]
    · rw [if_neg hvalid]
      have hfunds : fundsAvailableOnDay case (case.failureDom + action.dayOffset) = false := by
        simpa [hclass, hvalid] using h
      rw [if_pos hfunds]

/-- A futile action recovers nothing and leaves the dice as they are. -/
theorem playAction_futile {case : SimCase} (p : Play G) (action : PlannedAction)
    (h : futile case action = true) :
    (playAction random case p action).2 = false ∧
      (playAction random case p action).1.dice = p.dice := by
  unfold playAction
  by_cases hretry : isRetryVerb action.verb = true
  · rw [if_pos hretry, tryRetry_futile random p.rng hretry h]
    exact ⟨rfl, rfl⟩
  · rw [if_neg hretry]
    have hnoop : action.verb = .noop := by simpa [futile, hretry] using h
    rw [hnoop, if_neg (by decide)]
    exact ⟨rfl, rfl⟩

theorem playAction_dice {case : SimCase} (p q : Play G) (action : PlannedAction)
    (h : p.dice = q.dice) :
    (playAction random case p action).2 = (playAction random case q action).2 ∧
      (playAction random case p action).1.dice = (playAction random case q action).1.dice := by
  simp only [Play.dice, Prod.mk.injEq] at h
  obtain ⟨hrng, hfatigue, hcontacts⟩ := h
  unfold playAction Play.dice
  rw [hrng, hfatigue]
  by_cases hretry : isRetryVerb action.verb = true
  · rw [if_pos hretry, if_pos hretry]
    simp only
    rw [hcontacts]
    exact ⟨trivial, rfl⟩
  · rw [if_neg hretry, if_neg hretry]
    split
    · simp only
      rw [hcontacts]
      exact ⟨trivial, rfl⟩
    · simp only
      rw [hcontacts]
      exact ⟨trivial, rfl⟩

/-!
## One case
-/

/-- Sorting leaves the essential actions in the order of the essential plan. -/
theorem essential_chronological (case : SimCase) (plan : List PlannedAction) :
    essential case (chronological plan) = chronological (essential case plan) := by
  have : IsTrans PlannedAction fun a b => a.dayOffset ≤ b.dayOffset :=
    ⟨fun _ _ _ hab hbc => le_trans hab hbc⟩
  have : Std.Total fun a b : PlannedAction => a.dayOffset ≤ b.dayOffset :=
    ⟨fun _ _ => le_total _ _⟩
  exact Halting.filter_insertionSort _ _ plan

/-- The loop ends as it does on the essential actions alone. -/
theorem playOut_essential (case : SimCase) (p : Play G) (plan : List PlannedAction) :
    (playOut random case p (chronological plan)).2 =
        (playOut random case p (chronological (essential case plan))).2 ∧
      (playOut random case p (chronological plan)).1.dice =
        (playOut random case p (chronological (essential case plan))).1.dice := by
  rw [← essential_chronological]
  exact Halting.run_filter (playAction random case) Play.dice (futile case)
    (playAction_dice random) (playAction_futile random) rfl _

/-- Plans that differ in futile actions only recover the case alike, unless one of them has no
action at all. -/
theorem recovery_of_essential (g : G) {case : SimCase} {planFn planFn' : PlanFn}
    (hessential : essential case (planFn case) = essential case (planFn' case))
    (hempty : planFn case = [] ↔ planFn' case = []) :
    (runCase random g case planFn).recovery = (runCase random g case planFn').recovery := by
  by_cases hplan : planFn case = []
  · have hplan' := hempty.1 hplan
    unfold runCase
    rw [hplan, hplan']
  · have hplan' : planFn' case ≠ [] := fun h => hplan (hempty.2 h)
    obtain ⟨hrecovered, hdice⟩ := playOut_essential random case { rng := g } (planFn case)
    obtain ⟨hrecovered', hdice'⟩ := playOut_essential random case { rng := g } (planFn' case)
    rw [hessential] at hrecovered hdice
    have hcontacts := congrArg (fun dice : G × ℕ × ℕ => dice.2.2) (hdice.trans hdice'.symm)
    simp only [Play.dice] at hcontacts
    rw [runCase_of_plan random g hplan, runCase_of_plan random g hplan']
    unfold CaseOutcome.recovery playedOutcome
    rw [hrecovered.trans hrecovered'.symm, hcontacts]

/-- Futile actions do not move the dice: one inserted anywhere into a plan that has an action
leaves the recovery of the case unchanged, and two policies that differ in such actions only
recover the same cases of every batch. -/
theorem futile_actions_inert (seeded : String → G) (planFn planFn' : PlanFn) :
    (∀ (g : G) (case : SimCase) (before after : List PlannedAction) (action : PlannedAction),
      futile case action = true → planFn case = before ++ after → planFn case ≠ [] →
      planFn' case = before ++ action :: after →
      (runCase random g case planFn').recovery = (runCase random g case planFn).recovery) ∧
    ∀ (seed : ℤ) (cases : List SimCase),
      (∀ case ∈ cases, essential case (planFn case) = essential case (planFn' case) ∧
        (planFn case = [] ↔ planFn' case = [])) →
      (runBatch random seeded seed cases planFn').map CaseOutcome.recovery =
        (runBatch random seeded seed cases planFn).map CaseOutcome.recovery := by
  constructor
  · intro g case before after action hfutile hplan hne hplan'
    apply recovery_of_essential
    · rw [hplan, hplan', essential, essential, List.filter_append, List.filter_append,
        List.filter_cons_of_neg (by simp [hfutile])]
    · exact iff_of_false (by simp [hplan']) hne
  · intro seed cases hcases
    rw [runBatch, runBatch, List.map_map, List.map_map]
    apply List.map_congr_left
    intro case hcase
    obtain ⟨hessential, hempty⟩ := hcases case hcase
    exact (recovery_of_essential random _ hessential hempty).symm

end

/-- A payer whose card has expired. -/
def expiredCase : SimCase where
  visible :=
    { caseKey := "sim_42_0001"
      payerRef := "payer_42_0001"
      amountPaise := 49900
      rail := "card"
      failureReason := .cardExpired }
  hidden :=
    { instrumentValid := false
      trueCreditDay := 1
      naturalRecoveryProb := 8 / 100
      baseContactResponseProb := 22 / 100 }
  failureDom := 15

/-- A retry of the expired card in front of its link, and nothing but a noop after it. -/
theorem futile_actions_inert_expired :
    let plan : PlanFn := fun _ => [{ verb := .sendPaymentLink, dayOffset := 1 }]
    let retried : PlanFn := fun _ =>
      [{ verb := .scheduleRetry, dayOffset := 0 }, { verb := .sendPaymentLink, dayOffset := 1 }]
    let idle : PlanFn := fun _ =>
      [{ verb := .sendPaymentLink, dayOffset := 1 }, { verb := .noop, dayOffset := 2 }]
    (runCase (fun g : Unit => (0, g)) () expiredCase retried).recovery =
        (runCase (fun g : Unit => (0, g)) () expiredCase plan).recovery ∧
      (runBatch (fun g : Unit => (0, g)) (fun _ => ()) 42 [expiredCase] idle).map
          CaseOutcome.recovery =
        (runBatch (fun g : Unit => (0, g)) (fun _ => ()) 42 [expiredCase] plan).map
          CaseOutcome.recovery := by
  intro plan retried idle
  have hplan : plan expiredCase ≠ [] := List.cons_ne_nil _ _
  constructor
  · exact (futile_actions_inert (fun g : Unit => (0, g)) (fun _ => ()) plan retried).1 ()
      expiredCase [] _ _ (by decide) rfl hplan rfl
  · refine (futile_actions_inert (fun g : Unit => (0, g)) (fun _ => ()) plan idle).2 42
      [expiredCase] ?_
    intro case hcase
    rw [List.mem_singleton.1 hcase]
    exact ⟨by decide, iff_of_false hplan (List.cons_ne_nil _ _)⟩

end RecoveryAgent.Eval
