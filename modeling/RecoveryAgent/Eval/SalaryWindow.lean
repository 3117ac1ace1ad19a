import RecoveryAgent.Eval.Simulate
import RecoveryAgent.Policy.Engine

/-!
# The salary window

The planner of `policy/timing.py` counts days from the failure to the pay days of a
month of 28 days, and the payer of `eval/payer_model.py` has funds on the credit day and
the two days after it. Both calendars repeat after 28 days, so the two sides meet
according to the day of the month of the failure. With four retries for five pay days
they do not always meet.
-/

namespace RecoveryAgent.Eval

open Policy

def dayOfMonth (day : ℤ) : ℤ := (day - 1) % 28 + 1

/-- The three funded days after a credit, in a month of 28 days. -/
def fundedDays (credit : ℤ) : List ℤ := [credit, credit % 28 + 1, (credit + 1) % 28 + 1]

/-- The plan rises day by day from the day after the failure, and one of its days is
funded. -/
structure HitsFunds (case : SimCase) (failureDom : ℤ) (offsets : List ℤ) : Prop where
  rising : offsets.Pairwise (· < ·)
  later : ∀ o ∈ offsets, 1 ≤ o
  funded : ∃ o ∈ offsets, fundsAvailableOnDay case (failureDom + o) = true

/-- The credit days that the plan without a hint meets: the fifth pay day is cut off, and
only its neighbours among the first four make up for it. -/
structure Reached (failureDom credit : ℤ) : Prop where
  fifth : dayOfMonth failureDom = 5 → credit ≠ 3
  sixth : dayOfMonth failureDom = 6 → credit ≠ 4
  seventh : dayOfMonth failureDom = 7 → credit ≠ 4 ∧ credit ≠ 5
  later : 8 ≤ dayOfMonth failureDom → credit ≤ 5

/-- Without funds at first, a payer with a valid instrument has them in the window of the
credit day. -/
theorem fundsAvailableOnDay_iff {case : SimCase}
    (hreason : case.visible.failureReason = .insufficientFunds)
    (hvalid : case.hidden.instrumentValid = true) (day : ℤ) :
    fundsAvailableOnDay case day = true ↔
      dayOfMonth day ∈ fundedDays case.hidden.trueCreditDay := by
  simp [fundsAvailableOnDay, hreason, hvalid, dayOfMonth, fundedDays]

/-!
## Both calendars repeat
-/

theorem dayOfMonth_add_emod (failureDom o : ℤ) :
    dayOfMonth (failureDom % 28 + o) = dayOfMonth (failureDom + o) := by
  unfold dayOfMonth
  omega

theorem dayOfMonth_emod (failureDom : ℤ) :
    dayOfMonth (failureDom % 28) = dayOfMonth failureDom := by
  unfold dayOfMonth
  omega

theorem reached_emod_iff (failureDom credit : ℤ) :
    Reached (failureDom % 28) credit ↔ Reached failureDom credit := by
  constructor
  · rintro ⟨hfifth, hsixth, hseventh, hlater⟩
    rw [dayOfMonth_emod] at hfifth hsixth hseventh hlater
    exact ⟨hfifth, hsixth, hseventh, hlater⟩
  · rintro ⟨hfifth, hsixth, hseventh, hlater⟩
    rw [← dayOfMonth_emod] at hfifth hsixth hseventh hlater
    exact ⟨hfifth, hsixth, hseventh, hlater⟩

theorem salaryWindowOffsets_emod (failureDom : ℤ) (observedCreditDay : Option ℤ) :
    salaryWindowOffsets (failureDom % 28) observedCreditDay =
      salaryWindowOffsets failureDom observedCreditDay := by
  have hdays : ∀ target : ℤ, (target - failureDom % 28) % 28 = (target - failureDom) % 28 := by
    intro target
    omega
  unfold salaryWindowOffsets
  simp only [hdays]

/-- What the plan is asked for, on the days of the month. -/
def HitsWindow (credit failureDom : ℤ) (offsets : List ℤ) : Prop :=
  offsets.Pairwise (· < ·) ∧ (∀ o ∈ offsets, 1 ≤ o) ∧
    ∃ o ∈ offsets, dayOfMonth (failureDom + o) ∈ fundedDays credit

instance (credit failureDom : ℤ) (offsets : List ℤ) :
    Decidable (HitsWindow credit failureDom offsets) :=
  inferInstanceAs (Decidable (_ ∧ _ ∧ _))

theorem hitsFunds_iff {case : SimCase}
    (hreason : case.visible.failureReason = .insufficientFunds)
    (hvalid : case.hidden.instrumentValid = true) (failureDom : ℤ) (offsets : List ℤ) :
    HitsFunds case failureDom offsets ↔
      HitsWindow case.hidden.trueCreditDay failureDom offsets := by
  have hfunds := fundsAvailableOnDay_iff hreason hvalid
  constructor
  · rintro ⟨hrising, hlater, hfunded⟩
    simp only [hfunds] at hfunded
    exact ⟨hrising, hlater, hfunded⟩
  · rintro ⟨hrising, hlater, hfunded⟩
    simp only [← hfunds] at hfunded
    exact ⟨hrising, hlater, hfunded⟩

theorem hitsWindow_emod_iff (credit failureDom : ℤ) (observedCreditDay : Option ℤ) :
    HitsWindow credit (failureDom % 28)
        (offsetsForTiming "salary_window" (failureDom % 28) observedCreditDay 4) ↔
      HitsWindow credit failureDom
        (offsetsForTiming "salary_window" failureDom observedCreditDay 4) := by
  have hoffsets : offsetsForTiming "salary_window" (failureDom % 28) observedCreditDay 4 =
      offsetsForTiming "salary_window" failureDom observedCreditDay 4 := by
    unfold offsetsForTiming
    rw [salaryWindowOffsets_emod]
  unfold HitsWindow
  simp only [hoffsets, dayOfMonth_add_emod]

/-!
## One month
-/

instance (failureDom credit : ℤ) : Decidable (Reached failureDom credit) :=
  decidable_of_iff
    ((dayOfMonth failureDom = 5 → credit ≠ 3) ∧ (dayOfMonth failureDom = 6 → credit ≠ 4) ∧
      (dayOfMonth failureDom = 7 → credit ≠ 4 ∧ credit ≠ 5) ∧
        (8 ≤ dayOfMonth failureDom → credit ≤ 5))
    ⟨fun h => ⟨h.1, h.2.1, h.2.2.1, h.2.2.2⟩, fun h => ⟨h.fifth, h.sixth, h.seventh, h.later⟩⟩

/-- A day of the month and a credit day, as numbers below 28 and below 7. -/
theorem exists_fin (failureDom : ℤ) {credit : ℤ} (hcredit : 1 ≤ credit ∧ credit ≤ 7) :
    ∃ (day : Fin 28) (i : Fin 7), failureDom % 28 = day.val ∧ credit = i.val + 1 := by
  refine ⟨⟨(failureDom % 28).toNat, by omega⟩, ⟨(credit - 1).toNat, by omega⟩, ?_, ?_⟩
  · simp only
    omega
  · simp only
    omega

/-- With the right hint every plan of the month hits the window. -/
theorem hitsWindow_observed : ∀ (day : Fin 28) (i : Fin 7),
    HitsWindow (i.val + 1) day.val
      (offsetsForTiming "salary_window" day.val (some (i.val + 1)) 4) := by
  decide +kernel

/-- Without a hint the plans of the month hit the windows that they reach. -/
theorem hitsWindow_unobserved : ∀ (day : Fin 28) (i : Fin 7),
    HitsWindow (i.val + 1) day.val (offsetsForTiming "salary_window" day.val none 4) ↔
      Reached day.val (i.val + 1) := by
  decide +kernel

/-- The salary plan with four retries hits a funded day exactly when the credit day was
observed, or is one that the plan without a hint reaches. -/
theorem salary_plan_funded_iff (case : SimCase)
    (hreason : case.visible.failureReason = .insufficientFunds)
    (hvalid : case.hidden.instrumentValid = true)
    (hcredit : 1 ≤ case.hidden.trueCreditDay ∧ case.hidden.trueCreditDay ≤ 7)
    (observedCreditDay : Option ℤ)
    (hobserved : observedCreditDay = none ∨ observedCreditDay = some case.hidden.trueCreditDay)
    (failureDom : ℤ) :
    HitsFunds case failureDom
        (offsetsForTiming "salary_window" failureDom observedCreditDay 4) ↔
      (observedCreditDay = none → Reached failureDom case.hidden.trueCreditDay) := by
  obtain ⟨day, i, hday, hi⟩ := exists_fin failureDom hcredit
  rw [hitsFunds_iff hreason hvalid, ← hitsWindow_emod_iff, ← reached_emod_iff, hday, hi]
  rw [hi] at hobserved
  rcases hobserved with rfl | rfl
  · rw [hitsWindow_unobserved day i]
    simp
  · simp [hitsWindow_observed day i]

/-- A failure on the fifteenth of a payer whose salary comes on the seventh. -/
def latePayer : SimCase where
  visible :=
    { caseKey := "sim_1_0001"
      payerRef := "payer_1_0001"
      amountPaise := 49900
      rail := "card"
      failureReason := .insufficientFunds }
  hidden :=
    { instrumentValid := true
      trueCreditDay := 7
      naturalRecoveryProb := 8 / 100
      baseContactResponseProb := 22 / 100 }
  failureDom := 15

/-- With its credit day observed, the plan of this payer hits a funded day. -/
theorem salary_plan_funded_iff_observed :
    HitsFunds latePayer 15 (offsetsForTiming "salary_window" 15 (some 7) 4) :=
  (salary_plan_funded_iff latePayer rfl rfl (by decide) (some 7) (Or.inr rfl) 15).2 nofun

/-- Without the hint it retries on the first, the second, the third and the fifth, and
never meets the salary. -/
theorem late_payer_missed :
    ¬HitsFunds latePayer 15 (offsetsForTiming "salary_window" 15 none 4) := by
  rintro ⟨-, -, hfunded⟩
  revert hfunded
  decide

end RecoveryAgent.Eval
