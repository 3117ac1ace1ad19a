import RecoveryAgent.Ai.Provenance
import RecoveryAgent.Eval.Bridge
import RecoveryAgent.Eval.SalaryWindow
import RecoveryAgent.Policy.Rows

/-!
# The plans of the rules

The days of a decision are counted from unvalidated values, modulo a month of 28 days.
Whatever they are, the days of a plan rise, stay within a month and pass the bound of the
simulator; only the score may fail, on integers that no float can hold.
-/

namespace RecoveryAgent.Eval

open Library Python Policy Diagnose Ai

/-!
## The days rise
-/

/-- An observed credit day counts by its distance from the failure. -/
theorem salaryWindowOffsets_some (failureDom day : ℤ) :
    salaryWindowOffsets failureDom (some day) =
      salaryWindowOffsets 0 (some ((day - failureDom) % 28)) := by
  have hdelta : ((day - failureDom) % 28 - 0) % 28 = (day - failureDom) % 28 := by omega
  unfold salaryWindowOffsets
  simp only [hdelta]

theorem exists_fin28 (day : ℤ) : ∃ i : Fin 28, day % 28 = i.val :=
  ⟨⟨(day % 28).toNat, by omega⟩, by simp only; omega⟩

theorem salary_rising_unobserved : ∀ i : Fin 28,
    (salaryWindowOffsets i.val none).Pairwise (· < ·) ∧
      4 ≤ (salaryWindowOffsets i.val none).length := by
  decide +kernel

theorem salary_rising_observed : ∀ i : Fin 28,
    (salaryWindowOffsets 0 (some i.val)).Pairwise (· < ·) ∧
      3 ≤ (salaryWindowOffsets 0 (some i.val)).length := by
  decide +kernel

theorem salaryWindowOffsets_rising (failureDom : ℤ) (observedCreditDay : Option ℤ) :
    (salaryWindowOffsets failureDom observedCreditDay).Pairwise (· < ·) ∧
      0 < (salaryWindowOffsets failureDom observedCreditDay).length := by
  cases observedCreditDay with
  | none =>
      obtain ⟨i, hi⟩ := exists_fin28 failureDom
      obtain ⟨hrising, hlength⟩ := salary_rising_unobserved i
      rw [← salaryWindowOffsets_emod, hi]
      exact ⟨hrising, by omega⟩
  | some day =>
      obtain ⟨i, hi⟩ := exists_fin28 (day - failureDom)
      obtain ⟨hrising, hlength⟩ := salary_rising_observed i
      rw [salaryWindowOffsets_some, hi]
      exact ⟨hrising, by omega⟩

theorem offsetsForTiming_rising (timing : String) (failureDom : ℤ) (observedCreditDay : Option ℤ)
    (maxRetries : ℤ) :
    (offsetsForTiming timing failureDom observedCreditDay maxRetries).Pairwise (· < ·) := by
  have htake : ∀ {offs : List ℤ} {n : ℕ}, offs.Pairwise (· < ·) →
      (offs.take n).Pairwise (· < ·) := fun h => h.sublist (List.take_sublist _ _)
  unfold offsetsForTiming
  simp only
  split
  · exact htake (salaryWindowOffsets_rising failureDom observedCreditDay).1
  · split
    · exact htake (by decide)
    · split
      · exact List.pairwise_singleton _ _
      · split
        · decide
        · split
          · exact List.Pairwise.nil
          · exact htake (List.pairwise_singleton _ _)

/-- The days of an outline rise, for every row of a taxonomy. -/
theorem outline_rising (row : TaxonomyRow) (failureDom : ℤ) (observedCreditDay : Option ℤ) :
    ((row.outline failureDom observedCreditDay).map Prod.snd).Pairwise (· < ·) := by
  unfold TaxonomyRow.outline
  split
  · exact List.pairwise_singleton _ _
  · split
    · split
      · exact List.pairwise_pair.2 (Nat.succ_pos 2)
      · exact List.pairwise_singleton _ _
    · rw [List.map_map, List.pairwise_map]
      have hwithin := offsetsForTiming_within row.timing' failureDom observedCreditDay
        row.maxRetries'
      refine (offsetsForTiming_rising row.timing' failureDom observedCreditDay
        row.maxRetries').imp_of_mem fun {off off'} hoff _ hlt => ?_
      have hlow := (hwithin off hoff).1
      change off.toNat < off'.toNat
      omega

/-- A row whose verb and timing leave something to plan. -/
def plans (row : TaxonomyRow) : Bool :=
  row.escalates || row.verb'.isLink || row.timing' = "immediate_contact" ||
    row.timing' = "spaced_then_link" || decide (0 < row.maxRetries')

theorem outline_ne_nil {row : TaxonomyRow} (h : plans row = true) (failureDom : ℤ)
    (observedCreditDay : Option ℤ) : row.outline failureDom observedCreditDay ≠ [] := by
  have hsalary := (salaryWindowOffsets_rising failureDom observedCreditDay).2
  unfold plans at h
  unfold TaxonomyRow.outline
  by_cases hescalates : row.escalates = true
  · rw [if_pos hescalates]
    exact List.cons_ne_nil _ _
  · rw [if_neg hescalates]
    by_cases hlink : row.verb'.isLink = true
    · rw [if_pos hlink]
      exact List.cons_ne_nil _ _
    · rw [if_neg hlink, ← List.length_pos_iff, List.length_map]
      simp only [hescalates, hlink, Bool.false_or, Bool.or_eq_true, decide_eq_true_eq] at h
      have hnone : row.timing' ≠ "none" := by
        intro hnone
        exact hescalates (by simp [TaxonomyRow.escalates, hnone])
      unfold offsetsForTiming
      simp only
      split
      · rw [List.length_take]
        grind
      · split
        · rw [List.length_take]
          grind
        · split
          · decide
          · split
            · decide
            · rw [List.length_take]
              grind

/-!
## What a decision is
-/

/-- A plan that the simulator takes as it stands, without its escalations. -/
structure WellFormed (actions : List Action) : Prop where
  nonempty : actions ≠ []
  within : ∀ action ∈ actions, ∃ day, action.dayOffset = some day ∧ day ≤ 29
  rising : (actions.map fun action => action.dayOffset.getD 0).Pairwise (· < ·)
  planned : ∃ plan, decisionToPlannedActions actions = some plan ∧
    plan.map (fun pa => (some pa.verb, pa.dayOffset)) =
      (actions.filter fun action => action.verb ≠ .escalateHuman).map
        fun action => (simVerbOf action.verb, action.dayOffset.getD 0)

/-- Only escalations are not planned. -/
theorem simVerbOf_eq_none_iff (verb : ActionVerb) :
    simVerbOf verb = none ↔ verb = .escalateHuman := by
  cases verb <;> simp [simVerbOf]

/-- Actions within the horizon are planned one by one, without the escalations. -/
theorem decisionToPlannedActions_eq {actions : List Action}
    (h : ∀ action ∈ actions, action.dayOffset.getD 0 ≤ 60) :
    ∃ plan, decisionToPlannedActions actions = some plan ∧
      plan.map (fun pa => (some pa.verb, pa.dayOffset)) =
        (actions.filter fun action => action.verb ≠ .escalateHuman).map
          fun action => (simVerbOf action.verb, action.dayOffset.getD 0) := by
  induction actions with
  | nil => exact ⟨[], rfl, rfl⟩
  | cons action actions ih =>
      obtain ⟨rest, hrest, hmap⟩ := ih fun b hb => h b (List.mem_cons_of_mem action hb)
      have hday := h action List.mem_cons_self
      unfold decisionToPlannedActions
      cases hverb : simVerbOf action.verb with
      | none =>
          have hescalate := (simVerbOf_eq_none_iff action.verb).1 hverb
          rw [List.filter_cons_of_neg (by simp [hescalate])]
          exact ⟨rest, hrest, hmap⟩
      | some verb =>
          have hplanned : action.verb ≠ .escalateHuman := by
            intro hescalate
            rw [(simVerbOf_eq_none_iff action.verb).2 hescalate] at hverb
            cases hverb
          rw [List.filter_cons_of_pos (by simp [hplanned]), List.map_cons, ← hmap, hrest]
          simp only [PlannedAction.validated, dif_pos hday]
          refine ⟨_, rfl, ?_⟩
          rw [List.map_cons, hverb]

section

variable (engine : PolicyEngine) (failureClass : String) {cfg : TaxonomyRow} (amountPaise : ℕ)
  (score : ℚ) (failureDom : ℤ) (observedCreditDay : Option ℤ) (proposedBy : ProposedBy)

/-- The plan of a row that leaves something to plan is well formed. -/
theorem wellFormed_actionsFromClassCfg (h : plans cfg = true) :
    WellFormed (engine.actionsFromClassCfg failureClass cfg amountPaise score failureDom
      observedCreditDay proposedBy) := by
  have houtline := map_actionsFromClassCfg engine failureClass cfg amountPaise score failureDom
    observedCreditDay proposedBy
  have hbound : ∀ action ∈ engine.actionsFromClassCfg failureClass cfg amountPaise score
      failureDom observedCreditDay proposedBy, action.dayOffset.getD 0 ≤ 29 :=
    fun _ haction => PolicyEngine.day_of_mem_actionsFromClassCfg haction
  generalize engine.actionsFromClassCfg failureClass cfg amountPaise score failureDom
    observedCreditDay proposedBy = actions at houtline hbound
  have hdays : actions.map Action.dayOffset =
      (cfg.outline failureDom observedCreditDay).map fun p => some p.2 := by
    have hsnd := congrArg (List.map Prod.snd) houtline
    rw [List.map_map, List.map_map] at hsnd
    exact hsnd
  constructor
  · intro hnil
    rw [hnil] at hdays
    exact outline_ne_nil h failureDom observedCreditDay (List.map_eq_nil_iff.1 hdays.symm)
  · intro action haction
    have hmem : action.dayOffset ∈ actions.map Action.dayOffset := List.mem_map_of_mem haction
    rw [hdays] at hmem
    obtain ⟨p, -, hp⟩ := List.mem_map.1 hmem
    have hday := hbound action haction
    rw [← hp] at hday ⊢
    exact ⟨p.2, rfl, hday⟩
  · have hmap := congrArg (List.map fun day : Option ℕ => day.getD 0) hdays
    rw [List.map_map, List.map_map] at hmap
    change (actions.map ((fun day : Option ℕ => day.getD 0) ∘ Action.dayOffset)).Pairwise (· < ·)
    rw [hmap]
    exact outline_rising cfg failureDom observedCreditDay
  · exact decisionToPlannedActions_eq fun action haction =>
      (hbound action haction).trans (by decide)

end

/-!
## The rules
-/

theorem plans_shipped (failureClass : String) :
    plans (PolicyEngine.shipped.classConfig failureClass) = true := by
  have hrows : ∀ row ∈ Policy.shipped.classes.map Prod.snd, plans row = true := by decide
  exact hrows _ (PolicyEngine.shipped.classConfig_mem failureClass)

/-- `decide`, with the conversions to floats that its score begins with. -/
def tryDecide (engine : PolicyEngine) (rawReason rawCode : String) (amountPaise : ℕ)
    (contactsUsed tenureDays failureDom : ℤ) (observedCreditDay : Option ℤ) :
    Except PyError DecisionBundle := do
  let _ ← toFloat amountPaise
  let _ ← toFloat tenureDays
  let _ ← toFloat (max 0 contactsUsed)
  return engine.decide rawReason rawCode amountPaise contactsUsed tenureDays failureDom
    observedCreditDay

theorem tryDecide_eq_ok_iff (engine : PolicyEngine) (rawReason rawCode : String)
    (amountPaise : ℕ) (contactsUsed tenureDays failureDom : ℤ) (observedCreditDay : Option ℤ)
    (bundle : DecisionBundle) :
    tryDecide engine rawReason rawCode amountPaise contactsUsed tenureDays failureDom
        observedCreditDay = .ok bundle ↔
      (amountPaise < floatOverflow ∧ tenureDays.natAbs < floatOverflow ∧
        contactsUsed.toNat < floatOverflow) ∧
      bundle = engine.decide rawReason rawCode amountPaise contactsUsed tenureDays failureDom
        observedCreditDay := by
  have hcontacts : (max 0 contactsUsed).natAbs = contactsUsed.toNat := by omega
  have hamount := toFloat_eq_ok_iff amountPaise
  have htenure := toFloat_eq_ok_iff tenureDays
  have hused := toFloat_eq_ok_iff (max 0 contactsUsed)
  rw [hcontacts] at hused
  rw [Int.natAbs_natCast] at hamount
  rw [← hamount, ← htenure, ← hused]
  constructor
  · intro h
    obtain ⟨amount, hamount, h⟩ := bind_eq_ok h
    obtain ⟨tenure, htenure, h⟩ := bind_eq_ok h
    obtain ⟨contacts, hcontacts, h⟩ := bind_eq_ok h
    exact ⟨⟨⟨amount, hamount⟩, ⟨tenure, htenure⟩, contacts, hcontacts⟩, (Except.ok.inj h).symm⟩
  · rintro ⟨⟨⟨amount, hamount⟩, ⟨tenure, htenure⟩, contacts, hcontacts⟩, rfl⟩
    simp only [tryDecide, hamount, htenure, hcontacts]
    rfl

/-- The rules decide with a well-formed plan exactly when the three integers that they score
fit into floats; the failure day and the hint may be any integers. -/
theorem rules_decisions_well_formed (rawReason rawCode : String) (amountPaise : ℕ)
    (contactsUsed tenureDays failureDom : ℤ) (observedCreditDay : Option ℤ) :
    (∃ bundle, tryDecide PolicyEngine.shipped rawReason rawCode amountPaise contactsUsed tenureDays
        failureDom observedCreditDay = .ok bundle ∧ WellFormed bundle.actions) ↔
      amountPaise < floatOverflow ∧ tenureDays.natAbs < floatOverflow ∧
        contactsUsed.toNat < floatOverflow := by
  simp only [tryDecide_eq_ok_iff]
  constructor
  · rintro ⟨bundle, ⟨hfits, -⟩, -⟩
    exact hfits
  · intro hfits
    refine ⟨_, ⟨hfits, rfl⟩, ?_⟩
    obtain ⟨score, hactions⟩ := PolicyEngine.decide_actions PolicyEngine.shipped rawReason rawCode
      amountPaise contactsUsed tenureDays failureDom observedCreditDay
    rw [hactions]
    exact wellFormed_actionsFromClassCfg _ _ _ _ _ _ _ (plans_shipped _)

/-- A tenure that no float holds. -/
theorem decision_overflows :
    tryDecide PolicyEngine.shipped "insufficient_funds" "" 49900 0 (2 ^ 1024) 15 none =
      .error .overflowError := by
  have hamount : toFloat (49900 : ℕ) = .ok 49900 := by
    unfold toFloat
    rw [if_pos (by decide +kernel)]
    rfl
  have htenure : toFloat (2 ^ 1024) = .error .overflowError := by
    unfold toFloat
    rw [if_neg (by decide +kernel)]
  simp only [tryDecide, hamount, htenure]
  rfl

end RecoveryAgent.Eval
