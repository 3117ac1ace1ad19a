import RecoveryAgent.Eval.Types

/-!
# Playing a policy

`eval/payer_model.py` and `eval/simulate.py`: a plan is played in chronological order
against the hidden truth until something recovers the case. The generator of random
numbers is a parameter: `random` draws one number and leaves the generator behind it.
-/

namespace RecoveryAgent.Eval

/-!
## The payer
-/

/-- The answer to a contact gets rarer with every contact before it. -/
def responseProb (base : ℚ) (contactsSoFar : ℕ) : ℚ := base * (55 / 100) ^ contactsSoFar

/-- `funds_available_on_day`: transient failures do not ask for funds, and the others
find them on the credit day and the two days after it. -/
def fundsAvailableOnDay (case : SimCase) (absoluteDom : ℤ) : Bool :=
  if case.visible.failureReason ∈ [.issuerTransient, .gatewayTimeout] then true
  else if case.visible.failureReason = .riskFraud then true
  else if case.hidden.instrumentValid = false then false
  else
    let credit := case.hidden.trueCreditDay
    let day := (absoluteDom - 1) % 28 + 1
    day ∈ [credit, credit % 28 + 1, (credit + 1) % 28 + 1]

section

variable {G : Type*} (random : G → ℚ × G)

def tryRetry (g : G) (case : SimCase) (dayOffset : ℕ) : Bool × G :=
  if recoveryClassFor case.visible.failureReason = .customerAction then (false, g)
  else if case.hidden.instrumentValid = false then (false, g)
  else if fundsAvailableOnDay case (case.failureDom + dayOffset) = false then (false, g)
  else
    let (draw, g) := random g
    (draw < case.hidden.retrySuccessIfFunded, g)

/-- `try_contact`, after so many contacts. -/
def tryContact (g : G) (case : SimCase) (contactsSoFar : ℕ) : Bool × G :=
  let (draw, g) := random g
  (draw < responseProb case.hidden.baseContactResponseProb contactsSoFar, g)

def tryNaturalRecovery (g : G) (case : SimCase) : Bool × G :=
  let (draw, g) := random g
  (draw < case.hidden.naturalRecoveryProb, g)

/-!
## The simulator
-/

/-- The variables of the loop. -/
structure Play (G : Type*) where
  rng : G
  fatigue : ℕ := 0
  contacts : ℕ := 0
  retries : ℕ := 0
  wastedAttempts : ℕ := 0
  notes : List String := []

/-- One round of the loop: what it leaves, and whether the case is recovered. -/
def playAction (case : SimCase) (p : Play G) (action : PlannedAction) : Play G × Bool :=
  if isRetryVerb action.verb then
    let (ok, rng) := tryRetry random p.rng case action.dayOffset
    ({ p with
        rng
        retries := p.retries + 1
        wastedAttempts := p.wastedAttempts +
          if recoveryClassFor case.visible.failureReason = .customerAction then 1 else 0
        notes := p.notes ++
          [s!"retry@{action.dayOffset}:" ++ if ok then "ok" else "fail"] }, ok)
  else if isContactVerb action.verb then
    let (ok, rng) := tryContact random p.rng case p.fatigue
    ({ p with
        rng
        fatigue := p.fatigue + 1
        contacts := p.contacts + 1
        notes := p.notes ++
          [s!"contact@{action.dayOffset}:" ++ if ok then "ok" else "fail"] }, ok)
  else ({ p with notes := p.notes ++ [s!"noop@{action.dayOffset}"] }, false)

/-- The outcome when the loop ends. -/
def playedOutcome (case : SimCase) (p : Play G) (recovered : Bool) : CaseOutcome where
  caseKey := case.visible.caseKey
  recovered
  recoveredPaise := if recovered then case.visible.amountPaise else 0
  contacts := p.contacts
  retries := p.retries
  wastedAttempts := p.wastedAttempts
  notes := p.notes

/-- The loop. It stops at the first recovery. -/
def playActions (case : SimCase) : Play G → List PlannedAction → CaseOutcome
  | p, [] => playedOutcome case p false
  | p, action :: rest =>
      let (p, recovered) := playAction random case p action
      if recovered then playedOutcome case p true else playActions case p rest

/-- `run_case`. Without a plan the case may still recover by itself. -/
def runCase (g : G) (case : SimCase) (planFn : PlanFn) : CaseOutcome :=
  match chronological (planFn case) with
  | [] =>
      let (recovered, _) := tryNaturalRecovery random g case
      { caseKey := case.visible.caseKey
        recovered
        recoveredPaise := if recovered then case.visible.amountPaise else 0
        contacts := 0
        retries := 0
        natural := recovered
        notes := [if recovered then "natural_recovery" else "no_action_no_natural"] }
  | actions => playActions random case { rng := g } actions

/-- `run_batch`: every case has a generator of its own, seeded by a text. -/
def runBatch (seeded : String → G) (seed : ℤ) (cases : List SimCase) (planFn : PlanFn) :
    List CaseOutcome :=
  cases.map fun case => runCase random (seeded s!"{seed}:{case.visible.caseKey}") case planFn

theorem playActions_caseKey (case : SimCase) (p : Play G) (actions : List PlannedAction) :
    (playActions random case p actions).caseKey = case.visible.caseKey := by
  induction actions generalizing p with
  | nil => rfl
  | cons action rest ih =>
      unfold playActions
      simp only
      split
      · rfl
      · exact ih _

theorem runCase_caseKey (g : G) (case : SimCase) (planFn : PlanFn) :
    (runCase random g case planFn).caseKey = case.visible.caseKey := by
  unfold runCase
  split
  · rfl
  · exact playActions_caseKey random case _ _

/-!
## What was played
-/

/-- The actions that the loop comes to before it stops. -/
def reached (case : SimCase) : Play G → List PlannedAction → List PlannedAction
  | _, [] => []
  | p, action :: rest =>
      let (p, recovered) := playAction random case p action
      if recovered then [action] else action :: reached case p rest

/-- The actions that `run_case` has processed. -/
def processed (g : G) (case : SimCase) (planFn : PlanFn) : List PlannedAction :=
  reached random case { rng := g } (chronological (planFn case))

/-- The plan is processed from its first action on. -/
theorem reached_prefix (case : SimCase) (p : Play G) (actions : List PlannedAction) :
    reached random case p actions <+: actions := by
  induction actions generalizing p with
  | nil => exact List.prefix_rfl
  | cons action rest ih =>
      unfold reached
      simp only
      split
      · exact List.prefix_append [action] rest
      · exact (List.prefix_cons_inj action).2 (ih _)

theorem playAction_counts (case : SimCase) (p : Play G) (action : PlannedAction) :
    (playAction random case p action).1.retries =
        p.retries + (if isRetryVerb action.verb then 1 else 0) ∧
      (playAction random case p action).1.contacts =
        p.contacts + (if isContactVerb action.verb then 1 else 0) := by
  unfold playAction
  rcases verb_cases action.verb with ⟨hretry, hcontact, -⟩ | ⟨hretry, hcontact, -⟩ |
    ⟨hretry, hcontact, -⟩
  · simp [hretry, hcontact]
  · simp [hretry, hcontact]
  · simp [hretry, hcontact]

/-- The loop counts the retries and the contacts that it comes to. -/
theorem playActions_counts (case : SimCase) (p : Play G) (actions : List PlannedAction) :
    (playActions random case p actions).retries =
        p.retries + (reached random case p actions).countP (fun a => isRetryVerb a.verb) ∧
      (playActions random case p actions).contacts =
        p.contacts + (reached random case p actions).countP fun a => isContactVerb a.verb := by
  induction actions generalizing p with
  | nil => exact ⟨rfl, rfl⟩
  | cons action rest ih =>
      obtain ⟨hretries, hcontacts⟩ := playAction_counts random case p action
      unfold playActions reached
      simp only
      split
      · rw [List.countP_singleton, List.countP_singleton]
        exact ⟨hretries, hcontacts⟩
      · obtain ⟨ihretries, ihcontacts⟩ := ih (playAction random case p action).1
        rw [List.countP_cons, List.countP_cons, ihretries, ihcontacts, hretries, hcontacts]
        exact ⟨by omega, by omega⟩

theorem runCase_counts (g : G) (case : SimCase) (planFn : PlanFn) :
    (runCase random g case planFn).retries =
        (processed random g case planFn).countP (fun a => isRetryVerb a.verb) ∧
      (runCase random g case planFn).contacts =
        (processed random g case planFn).countP fun a => isContactVerb a.verb := by
  unfold runCase processed
  cases hplan : chronological (planFn case) with
  | nil => exact ⟨rfl, rfl⟩
  | cons action rest =>
      obtain ⟨hretries, hcontacts⟩ :=
        playActions_counts random case { rng := g } (action :: rest)
      rw [Nat.zero_add] at hretries hcontacts
      exact ⟨hretries, hcontacts⟩

end

end RecoveryAgent.Eval
