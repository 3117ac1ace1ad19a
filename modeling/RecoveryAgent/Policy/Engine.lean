import RecoveryAgent.Diagnose.Rules

/-!
# The policy engine

`policy/timing.py` and `policy/engine.py`: day offsets, the rules decision, and
`validate_proposal`, which bounds what the model proposes.
-/

namespace RecoveryAgent.Policy

open Python Diagnose

/-!
## Timing
-/

/-- `salary_window_offsets`: near the observed credit day, or fanned out over
the usual pay days. -/
def salaryWindowOffsets (failureDom : ℤ) (observedCreditDay : Option ℤ) : List ℤ :=
  match observedCreditDay with
  | none =>
      let candidates := [1, 2, 3, 5, 7].foldl (fun (acc : List ℤ) target =>
        let delta := (target - failureDom) % 28
        let delta := if delta = 0 then 1 else delta
        if delta ∈ acc then acc else acc ++ [delta]) []
      (candidates.insertionSort (· ≤ ·)).take 4
  | some day =>
      let delta := (day - failureDom) % 28
      let delta := if delta = 0 then 1 else delta
      let offs := [delta, delta + 1, delta + 2]
      let offs := if 4 ≤ delta then max 1 (delta / 2) :: offs else offs
      offs.foldl (fun out o => if o ∉ out ∧ 0 ≤ o then out ++ [o] else out) []

def offsetsForTiming (timing : String) (failureDom : ℤ) (observedCreditDay : Option ℤ)
    (maxRetries : ℤ) : List ℤ :=
  let budget := (max 0 maxRetries).toNat
  if timing = "salary_window" then (salaryWindowOffsets failureDom observedCreditDay).take budget
  else if timing = "short_backoff" then [0, 1].take budget
  else if timing = "immediate_contact" then [0]
  else if timing = "spaced_then_link" then [2, 4]
  else if timing = "none" then []
  else [1].take budget

/-- What a loop keeps of the offsets it has collected holds of them at its end. -/
theorem forall_mem_foldl {P : ℤ → Prop} {add : List ℤ → ℤ → List ℤ} {xs : List ℤ}
    (hadd : ∀ acc, ∀ x ∈ xs, (∀ off ∈ acc, P off) → ∀ off ∈ add acc x, P off) {acc : List ℤ}
    (hacc : ∀ off ∈ acc, P off) : ∀ off ∈ xs.foldl add acc, P off := by
  induction xs generalizing acc with
  | nil => exact hacc
  | cons x xs ih =>
      apply ih fun acc y hy => hadd acc y (List.mem_cons_of_mem x hy)
      exact hadd acc x List.mem_cons_self hacc

/-- The days to a day of the month, none of them being read as one. -/
theorem delta_within (target failureDom : ℤ) :
    1 ≤ (if (target - failureDom) % 28 = 0 then 1 else (target - failureDom) % 28) ∧
      (if (target - failureDom) % 28 = 0 then 1 else (target - failureDom) % 28) ≤ 27 := by
  split
  · decide
  · omega

theorem salaryWindowOffsets_within (failureDom : ℤ) (observedCreditDay : Option ℤ) :
    ∀ off ∈ salaryWindowOffsets failureDom observedCreditDay, 0 ≤ off ∧ off ≤ 29 := by
  cases observedCreditDay with
  | none =>
      intro off hoff
      have hmem := (List.mem_insertionSort _).1 (List.mem_of_mem_take hoff)
      apply forall_mem_foldl (P := fun off => 0 ≤ off ∧ off ≤ 29) ?_ (by simp) off hmem
      intro acc target _ hacc off hoff
      have hdelta := delta_within target failureDom
      simp only at hoff
      generalize (if (target - failureDom) % 28 = 0 then 1
        else (target - failureDom) % 28) = delta at hdelta hoff
      split at hoff
      · exact hacc off hoff
      · rcases List.mem_append.1 hoff with hoff | hoff
        · exact hacc off hoff
        · rw [List.mem_singleton.1 hoff]
          omega
  | some day =>
      have hdelta := delta_within day failureDom
      unfold salaryWindowOffsets
      simp only
      generalize (if (day - failureDom) % 28 = 0 then 1
        else (day - failureDom) % 28) = delta at hdelta ⊢
      apply forall_mem_foldl (P := fun off => 0 ≤ off ∧ off ≤ 29) ?_ (by simp)
      intro acc o ho hacc off hoff
      have hwithin : 0 ≤ o ∧ o ≤ 29 := by
        split at ho
        · simp only [List.mem_cons, List.not_mem_nil, or_false] at ho
          omega
        · simp only [List.mem_cons, List.not_mem_nil, or_false] at ho
          omega
      split at hoff
      · rcases List.mem_append.1 hoff with hoff | hoff
        · exact hacc off hoff
        · rw [List.mem_singleton.1 hoff]
          exact hwithin
      · exact hacc off hoff

/-- No timing looks back before the failure, or further than a month ahead. -/
theorem offsetsForTiming_within (timing : String) (failureDom : ℤ)
    (observedCreditDay : Option ℤ) (maxRetries : ℤ) :
    ∀ off ∈ offsetsForTiming timing failureDom observedCreditDay maxRetries,
      0 ≤ off ∧ off ≤ 29 := by
  have hsalary := salaryWindowOffsets_within failureDom observedCreditDay
  have htake : ∀ {offs : List ℤ} {n : ℕ}, (∀ off ∈ offs, 0 ≤ off ∧ off ≤ 29) →
      ∀ off ∈ offs.take n, 0 ≤ off ∧ off ≤ 29 :=
    fun h off hoff => h off (List.mem_of_mem_take hoff)
  unfold offsetsForTiming
  simp only
  split
  · exact htake hsalary
  · split
    · exact htake (by decide)
    · split
      · decide
      · split
        · decide
        · split
          · simp
          · exact htake (by decide)

/-!
## The engine
-/

structure PolicyEngine where
  taxonomy : Taxonomy
  classifier : Classifier

namespace PolicyEngine

def policyVersion (engine : PolicyEngine) : String := engine.taxonomy.version

/-- The engine over the shipped taxonomy and classifier. -/
def shipped : PolicyEngine := ⟨Policy.shipped, Classifier.shipped⟩

/-- The row of a class; an unknown class has the row of `ambiguous`. -/
def classConfig (engine : PolicyEngine) (failureClass : String) : TaxonomyRow :=
  match engine.taxonomy.classes.lookup failureClass with
  | some row => row
  | none => (engine.taxonomy.classes.lookup "ambiguous").get engine.taxonomy.hasAmbiguous

/-- `_actions_from_class_cfg`. The offsets are never negative, so they are the
day offsets of the actions as they stand. -/
def actionsFromClassCfg (engine : PolicyEngine) (failureClass : String) (cfg : TaxonomyRow)
    (amountPaise : ℕ) (score : ℚ) (failureDom : ℤ) (observedCreditDay : Option ℤ)
    (proposedBy : ProposedBy) : List Action :=
  let verb := cfg.defaultVerb.getD .escalateHuman
  let allowContact := cfg.allowContact'
  let timingName := cfg.timing'
  let action : Action :=
    { verb
      amountPaise := some amountPaise
      reasonCode := cfg.reasonCode.getD (upper failureClass)
      policyVersion := engine.policyVersion
      proposedBy
      failureClass
      score := some score }
  if verb = .escalateHuman ∨ timingName = "none" then
    [{ action with
        verb := .escalateHuman
        amountPaise := none
        dayOffset := some 0
        note := "escalate_or_no_auto" }]
  else if verb.isLink then
    let first : Action :=
      { action with
        channel := if allowContact then .link else .none
        dayOffset := some 0
        note := "dead_instrument_fix_path" }
    let followUp : Action :=
      { action with
        verb := .sendPaymentLink
        channel := .link
        dayOffset := some 3
        note := "dead_instrument_followup_link" }
    if allowContact then [first, followUp] else [first]
  else
    (offsetsForTiming timingName failureDom observedCreditDay cfg.maxRetries').map fun off =>
      if timingName = "spaced_then_link" ∧ 4 ≤ off ∧ allowContact then
        { action with
          verb := .sendPaymentLink
          channel := .link
          dayOffset := some off.toNat
          note := "spaced_link" }
      else
        { action with
          verb := .scheduleRetry
          dayOffset := some off.toNat
          note := "retry_offset_" ++ toString off }

def decide (engine : PolicyEngine) (rawReason rawCode : String) (amountPaise : ℕ)
    (contactsUsed tenureDays failureDom : ℤ) (observedCreditDay : Option ℤ) : DecisionBundle :=
  let clf := engine.classifier.classify rawReason rawCode
  let cfg := engine.classConfig clf.failureClass
  let category := cfg.category'
  let score := recoverabilityScore category amountPaise contactsUsed tenureDays
    engine.taxonomy.scoring
  { failureClass := clf.failureClass
    category
    score
    effortBand := Diagnose.effortBand score engine.taxonomy.effortBands
    actions := engine.actionsFromClassCfg clf.failureClass cfg amountPaise score failureDom
      observedCreditDay .rulesFallback
    classificationMatchedOn := clf.matchedOn
    policyVersion := engine.policyVersion }

theorem decide_failureClass (engine : PolicyEngine) (rawReason rawCode : String)
    (amountPaise : ℕ) (contactsUsed tenureDays failureDom : ℤ) (observedCreditDay : Option ℤ) :
    (engine.decide rawReason rawCode amountPaise contactsUsed tenureDays failureDom
      observedCreditDay).failureClass =
        (engine.classifier.classify rawReason rawCode).failureClass := by
  simp only [decide]

theorem decide_actions (engine : PolicyEngine) (rawReason rawCode : String)
    (amountPaise : ℕ) (contactsUsed tenureDays failureDom : ℤ) (observedCreditDay : Option ℤ) :
    ∃ score, (engine.decide rawReason rawCode amountPaise contactsUsed tenureDays failureDom
      observedCreditDay).actions =
        engine.actionsFromClassCfg (engine.classifier.classify rawReason rawCode).failureClass
          (engine.classConfig (engine.classifier.classify rawReason rawCode).failureClass)
          amountPaise score failureDom observedCreditDay .rulesFallback := by
  simp only [decide]
  exact ⟨_, rfl⟩

theorem actionsFromClassCfg_of_escalate (engine : PolicyEngine) {failureClass : String}
    {cfg : TaxonomyRow} (hverb : cfg.defaultVerb.getD .escalateHuman = .escalateHuman)
    (amountPaise : ℕ) (score : ℚ) (failureDom : ℤ) (observedCreditDay : Option ℤ)
    (proposedBy : ProposedBy) :
    ∃ action, engine.actionsFromClassCfg failureClass cfg amountPaise score failureDom
      observedCreditDay proposedBy = [action] ∧ action.verb = .escalateHuman := by
  unfold actionsFromClassCfg
  rw [hverb, if_pos (Or.inl rfl)]
  exact ⟨_, rfl, rfl⟩

/-- The rules open with a link on a class of this row. -/
def opensWithLink (cfg : TaxonomyRow) : Bool :=
  (cfg.defaultVerb.getD .escalateHuman).isLink && cfg.timing' ≠ "none"

/-- What the first action of a class is, if it has any. -/
theorem head_actionsFromClassCfg (engine : PolicyEngine) (failureClass : String)
    (cfg : TaxonomyRow) (amountPaise : ℕ) (score : ℚ) (failureDom : ℤ)
    (observedCreditDay : Option ℤ) (proposedBy : ProposedBy) {other : Action}
    (hother : other.verb = .escalateHuman) :
    ((engine.actionsFromClassCfg failureClass cfg amountPaise score failureDom observedCreditDay
      proposedBy).head?.getD other).verb.isLink = opensWithLink cfg := by
  unfold actionsFromClassCfg opensWithLink
  by_cases hescalate : cfg.defaultVerb.getD .escalateHuman = .escalateHuman ∨ cfg.timing' = "none"
  · rw [if_pos hescalate]
    rcases hescalate with hverb | htiming
    · rw [hverb]
      rfl
    · rw [htiming, decide_eq_false (by simp), Bool.and_false]
      rfl
  · rw [if_neg hescalate]
    push Not at hescalate
    obtain ⟨hverb, htiming⟩ := hescalate
    rw [decide_eq_true htiming, Bool.and_true]
    cases hlink : (cfg.defaultVerb.getD .escalateHuman).isLink with
    | true =>
        rw [if_pos rfl]
        split
        · exact hlink
        · exact hlink
    | false =>
        rw [if_neg (by simp)]
        -- the second of the spaced offsets is a link, but it is never the first
        by_cases hspaced : cfg.timing' = "spaced_then_link"
        · rw [hspaced]
          rfl
        · cases offsetsForTiming cfg.timing' failureDom observedCreditDay cfg.maxRetries' with
          | nil =>
              change other.verb.isLink = false
              rw [hother]
              rfl
          | cons off offs =>
              rw [List.map_cons, if_neg fun h => hspaced h.1]
              rfl

/-- No action of a decision is further ahead than a month. -/
theorem day_of_mem_actionsFromClassCfg {engine : PolicyEngine} {failureClass : String}
    {cfg : TaxonomyRow} {amountPaise : ℕ} {score : ℚ} {failureDom : ℤ}
    {observedCreditDay : Option ℤ} {proposedBy : ProposedBy} {action : Action}
    (h : action ∈ engine.actionsFromClassCfg failureClass cfg amountPaise score failureDom
      observedCreditDay proposedBy) : action.dayOffset.getD 0 ≤ 29 := by
  unfold actionsFromClassCfg at h
  simp only at h
  split at h
  · rw [List.mem_singleton.1 h]
    exact Nat.zero_le 29
  · split at h
    · split at h
      · rcases List.mem_cons.1 h with rfl | h
        · exact Nat.zero_le 29
        · rw [List.mem_singleton.1 h]
          exact Nat.le_add_right 3 26
      · rw [List.mem_singleton.1 h]
        exact Nat.zero_le 29
    · obtain ⟨off, hoff, rfl⟩ := List.mem_map.1 h
      have hwithin := offsetsForTiming_within cfg.timing' failureDom observedCreditDay
        cfg.maxRetries' off hoff
      split
      · exact Int.toNat_le.2 hwithin.2
      · exact Int.toNat_le.2 hwithin.2

/-- `validate_proposal`: the proposal, stamped, with its verb and channel
repaired where the class forbids them. -/
def validateProposal (engine : PolicyEngine) (proposal : Action) (failureClass : String)
    (amountPaise : ℕ) (score : ℚ) : Action :=
  let cfg := engine.classConfig failureClass
  let allowContact := cfg.allowContact'
  let repaired : Action :=
    { proposal with
      policyVersion := engine.policyVersion
      failureClass
      score := some score
      proposedBy := .llm }
  if cfg.category' = "stop" then
    { repaired with
      verb := .escalateHuman
      channel := .none
      reasonCode := "RISK_ESCALATE"
      note := "validator_forced_escalate" }
  else if cfg.category' = "dead" ∧ proposal.verb = .scheduleRetry then
    { repaired with
      verb := cfg.defaultVerb.getD .sendPaymentLink
      channel := if allowContact then .link else .none
      dayOffset := some 0
      note := "validator_blocked_retry_on_dead" }
  else if allowContact = false ∧ proposal.verb.isLink = true then
    { repaired with
      verb := if 0 < cfg.maxRetries' then .scheduleRetry else .escalateHuman
      channel := .none
      note := "validator_blocked_contact" }
  else if repaired.amountPaise = none ∧ repaired.verb ≠ .escalateHuman then
    { repaired with amountPaise := some amountPaise }
  else repaired

end PolicyEngine

end RecoveryAgent.Policy
