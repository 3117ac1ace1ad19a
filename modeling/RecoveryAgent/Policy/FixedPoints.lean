import RecoveryAgent.Policy.Engine

/-!
# Fixed points of the validator

A taxonomy row is read twice: by the planner of the rules and by `validate_proposal`.
An action that asks for no repair is settled, and the validator only stamps it. On a
coherent row the planner emits settled actions, and what the validator returns is
settled unless a repair has left the amount open.
-/

namespace RecoveryAgent.Policy

/-- No repair of the validator applies to the action. -/
structure Settled (cfg : TaxonomyRow) (action : Action) : Prop where
  stopped : cfg.category' = "stop" →
    action.verb = .escalateHuman ∧ action.channel = .none ∧ action.reasonCode = "RISK_ESCALATE"
  dead : cfg.category' = "dead" → action.verb ≠ .scheduleRetry
  silent : cfg.allowContact' = false → action.verb.isLink = false
  priced : action.amountPaise = none → action.verb = .escalateHuman

/-- The planner and the validator read the row alike: a stopped class is escalated under
the code that the validator gives it, a dead class is repaired to a link it allows, and a
silent class does not open with a link. -/
structure Coherent (cfg : TaxonomyRow) : Prop where
  stopped : cfg.category' = "stop" → cfg.defaultVerb.getD .escalateHuman = .escalateHuman ∧
    cfg.reasonCode = some "RISK_ESCALATE" ∧ cfg.maxRetries' ≤ 0
  dead : cfg.category' = "dead" →
    cfg.allowContact' = true ∧ (cfg.defaultVerb.getD .sendPaymentLink).isLink = true
  silent : cfg.allowContact' = false → (cfg.defaultVerb.getD .escalateHuman).isLink = false

/-- The proposals that the validator completes in one go: without an amount, a proposal
is neither a retry of a dead class nor a link that is turned into a retry. -/
def Completed (cfg : TaxonomyRow) (proposal : Action) : Prop :=
  proposal.amountPaise = none →
    ¬(cfg.category' = "dead" ∧ proposal.verb = .scheduleRetry) ∧
      ¬(cfg.allowContact' = false ∧ proposal.verb.isLink = true ∧ 0 < cfg.maxRetries')

namespace PolicyEngine

/-- Every class has one of the rows of the taxonomy. -/
theorem classConfig_mem (engine : PolicyEngine) (failureClass : String) :
    engine.classConfig failureClass ∈ engine.taxonomy.classes.map Prod.snd := by
  have hlookup : ∀ {key : String} {row : TaxonomyRow},
      engine.taxonomy.classes.lookup key = some row →
        row ∈ engine.taxonomy.classes.map Prod.snd := by
    intro key row h
    obtain ⟨before, after, hsplit, -⟩ := List.lookup_eq_some_iff.1 h
    rw [hsplit]
    simp
  unfold classConfig
  split
  · next row h => exact hlookup h
  · exact hlookup (Option.some_get engine.taxonomy.hasAmbiguous).symm

theorem coherent_shipped (failureClass : String) :
    Coherent (shipped.classConfig failureClass) := by
  have hrows : ∀ cfg ∈ Policy.shipped.classes.map Prod.snd,
      (cfg.category' = "stop" → cfg.defaultVerb.getD .escalateHuman = .escalateHuman ∧
        cfg.reasonCode = some "RISK_ESCALATE" ∧ cfg.maxRetries' ≤ 0) ∧
      (cfg.category' = "dead" →
        cfg.allowContact' = true ∧ (cfg.defaultVerb.getD .sendPaymentLink).isLink = true) ∧
      (cfg.allowContact' = false → (cfg.defaultVerb.getD .escalateHuman).isLink = false) := by
    decide
  obtain ⟨hstopped, hdead, hsilent⟩ := hrows _ (shipped.classConfig_mem failureClass)
  exact ⟨hstopped, hdead, hsilent⟩

section

variable (engine : PolicyEngine) (failureClass : String) (amountPaise : ℕ) (score : ℚ)

/-- What the validator writes on every action. -/
def stamp (action : Action) : Action :=
  { action with
    policyVersion := engine.policyVersion
    failureClass
    score := some score
    proposedBy := .llm
    note :=
      if (engine.classConfig failureClass).category' = "stop" then "validator_forced_escalate"
      else action.note }

/-- A settled action is only stamped. -/
theorem validateProposal_of_settled {action : Action}
    (h : Settled (engine.classConfig failureClass) action) :
    engine.validateProposal action failureClass amountPaise score =
      engine.stamp failureClass score action := by
  have hdead : ¬((engine.classConfig failureClass).category' = "dead" ∧
      action.verb = .scheduleRetry) := fun hretry => h.dead hretry.1 hretry.2
  have hsilent : ¬((engine.classConfig failureClass).allowContact' = false ∧
      action.verb.isLink = true) := by
    rintro ⟨hforbidden, hlink⟩
    rw [h.silent hforbidden] at hlink
    cases hlink
  have hpriced : ¬(action.amountPaise = none ∧ action.verb ≠ .escalateHuman) :=
    fun hopen => hopen.2 (h.priced hopen.1)
  unfold validateProposal stamp
  simp only
  by_cases hstop : (engine.classConfig failureClass).category' = "stop"
  · obtain ⟨hverb, hchannel, hreason⟩ := h.stopped hstop
    rw [if_pos hstop, if_pos hstop, ← hverb, ← hchannel, ← hreason]
  · rw [if_neg hstop, if_neg hstop, if_neg hdead, if_neg hsilent, if_neg hpriced]

theorem stamp_validateProposal (proposal : Action) :
    engine.stamp failureClass score
        (engine.validateProposal proposal failureClass amountPaise score) =
      engine.validateProposal proposal failureClass amountPaise score := by
  unfold validateProposal stamp
  simp only
  by_cases hstop : (engine.classConfig failureClass).category' = "stop"
  · simp only [if_pos hstop]
  · simp only [if_neg hstop]
    split
    · rfl
    · split
      · rfl
      · split
        · rfl
        · rfl

/-!
## The planner
-/

theorem failureClass_of_mem_actionsFromClassCfg {cfg : TaxonomyRow} {failureDom : ℤ}
    {observedCreditDay : Option ℤ} {proposedBy : ProposedBy} {action : Action}
    (h : action ∈ engine.actionsFromClassCfg failureClass cfg amountPaise score failureDom
      observedCreditDay proposedBy) : action.failureClass = failureClass := by
  unfold actionsFromClassCfg at h
  simp only at h
  split at h
  · rw [List.mem_singleton.1 h]
  · split at h
    · split at h
      · rcases List.mem_cons.1 h with rfl | h
        · rfl
        · rw [List.mem_singleton.1 h]
      · rw [List.mem_singleton.1 h]
    · obtain ⟨off, -, rfl⟩ := List.mem_map.1 h
      split
      · rfl
      · rfl

theorem settled_of_mem_actionsFromClassCfg {cfg : TaxonomyRow} (hcfg : Coherent cfg)
    {failureDom : ℤ} {observedCreditDay : Option ℤ} {proposedBy : ProposedBy} {action : Action}
    (h : action ∈ engine.actionsFromClassCfg failureClass cfg amountPaise score failureDom
      observedCreditDay proposedBy) : Settled cfg action := by
  have hpriced : ∀ {verb : ActionVerb}, some amountPaise = none → verb = .escalateHuman := nofun
  unfold actionsFromClassCfg at h
  simp only at h
  split at h
  · rw [List.mem_singleton.1 h]
    refine ⟨fun hstop => ⟨rfl, rfl, ?_⟩, fun _ => nofun, fun _ => rfl, fun _ => rfl⟩
    rw [(hcfg.stopped hstop).2.1]
    rfl
  · next hmoney =>
      push Not at hmoney
      have hrunning : cfg.category' ≠ "stop" := fun hstop => hmoney.1 (hcfg.stopped hstop).1
      split at h
      · next hlink =>
          -- a row that opens with a link allows contact, so both links are settled
          have hallow : cfg.allowContact' ≠ false := by
            intro hforbidden
            rw [hcfg.silent hforbidden] at hlink
            cases hlink
          have hsettled : ∀ {a : Action}, a.verb.isLink = true → a.amountPaise = some amountPaise →
              Settled cfg a := by
            intro a ha hamount
            refine ⟨fun hstop => absurd hstop hrunning, fun _ hretry => ?_,
              fun hforbidden => absurd hforbidden hallow, fun hnone => ?_⟩
            · rw [hretry] at ha
              cases ha
            · rw [hamount] at hnone
              cases hnone
          split at h
          · rcases List.mem_cons.1 h with rfl | h
            · exact hsettled hlink rfl
            · rw [List.mem_singleton.1 h]
              exact hsettled rfl rfl
          · rw [List.mem_singleton.1 h]
            exact hsettled hlink rfl
      · next hretries =>
          have halive : cfg.category' ≠ "dead" := by
            intro hdead
            have hlink := (hcfg.dead hdead).2
            cases hverb : cfg.defaultVerb with
            | none => exact hmoney.1 (by rw [hverb]; rfl)
            | some verb =>
                rw [hverb] at hlink hretries
                exact hretries hlink
          obtain ⟨off, -, rfl⟩ := List.mem_map.1 h
          split
          · next hspaced =>
              refine ⟨fun hstop => absurd hstop hrunning, fun _ => nofun, fun hforbidden => ?_,
                hpriced⟩
              rw [hspaced.2.2] at hforbidden
              cases hforbidden
          · exact ⟨fun hstop => absurd hstop hrunning, fun hdead => absurd hdead halive,
              fun _ => rfl, hpriced⟩

end

/-- The validator has left an action as it was proposed. -/
structure Unchanged (validated action : Action) : Prop where
  verb : validated.verb = action.verb
  channel : validated.channel = action.channel
  dayOffset : validated.dayOffset = action.dayOffset
  amountPaise : validated.amountPaise = action.amountPaise
  reasonCode : validated.reasonCode = action.reasonCode

/-- With the shipped taxonomy the validator returns every action of the rules with its
verb, channel, day, amount and reason. -/
theorem rules_are_fixed_points (rawReason rawCode : String) (amountPaise : ℕ)
    (contactsUsed tenureDays failureDom : ℤ) (observedCreditDay : Option ℤ) (score : ℚ) :
    ∀ action ∈ (shipped.decide rawReason rawCode amountPaise contactsUsed tenureDays
        failureDom observedCreditDay).actions,
      Unchanged
        (shipped.validateProposal action
          (shipped.decide rawReason rawCode amountPaise contactsUsed tenureDays failureDom
            observedCreditDay).failureClass amountPaise score)
        action := by
  intro action haction
  obtain ⟨planned, hactions⟩ := shipped.decide_actions rawReason rawCode amountPaise contactsUsed
    tenureDays failureDom observedCreditDay
  rw [shipped.decide_failureClass]
  rw [hactions] at haction
  have hsettled := settled_of_mem_actionsFromClassCfg _ _ _ _ (coherent_shipped _) haction
  rw [validateProposal_of_settled _ _ _ _ hsettled]
  exact ⟨rfl, rfl, rfl, rfl, rfl⟩

/-- The first action for an expired card is a link, and the validator leaves it. -/
theorem rules_are_fixed_points_expired :
    ∃ action, (shipped.decide "card_expired" "" 49900 0 0 15 none).actions.head? = some action ∧
      action.verb = .sendPaymentLink ∧
        Unchanged (shipped.validateProposal action "card_expired" 49900 0) action := by
  refine ⟨_, rfl, rfl, ?_⟩
  exact rules_are_fixed_points "card_expired" "" 49900 0 0 15 none 0 _ (List.mem_of_mem_head? rfl)

/-!
## The validator on its own results
-/

section

variable (engine : PolicyEngine) (failureClass : String) (amountPaise : ℕ) (score : ℚ)

/-- On a coherent row the result of the validator is settled, except that its amount may
be open. -/
theorem settled_validateProposal (hcfg : Coherent (engine.classConfig failureClass))
    (proposal : Action) :
    Settled (engine.classConfig failureClass)
        (engine.validateProposal proposal failureClass amountPaise score) ↔
      ((engine.validateProposal proposal failureClass amountPaise score).verb ≠ .escalateHuman →
        (engine.validateProposal proposal failureClass amountPaise score).amountPaise ≠ none) := by
  constructor
  · exact fun h hverb hopen => hverb (h.priced hopen)
  · intro hpriced
    have hopen : (engine.validateProposal proposal failureClass amountPaise score).amountPaise =
        none → (engine.validateProposal proposal failureClass amountPaise score).verb =
          .escalateHuman := by
      intro hnone
      by_contra hverb
      exact hpriced hverb hnone
    clear hpriced
    unfold validateProposal at hopen ⊢
    simp only at hopen ⊢
    generalize engine.classConfig failureClass = cfg at hcfg hopen ⊢
    by_cases hstop : cfg.category' = "stop"
    · have halive : cfg.category' ≠ "dead" := by
        rw [hstop]
        decide
      rw [if_pos hstop] at hopen ⊢
      exact ⟨fun _ => ⟨rfl, rfl, rfl⟩, fun hdead => absurd hdead halive, fun _ => rfl, hopen⟩
    · rw [if_neg hstop] at hopen ⊢
      split
      · next hretry =>
          rw [if_pos hretry] at hopen
          obtain ⟨hallow, hlink⟩ := hcfg.dead hretry.1
          refine ⟨fun h => absurd h hstop, fun _ hverb => ?_, fun hforbidden => ?_, hopen⟩
          · simp only at hverb
            rw [hverb] at hlink
            cases hlink
          · rw [hallow] at hforbidden
            cases hforbidden
      · next hretry =>
          rw [if_neg hretry] at hopen
          split
          · next hmuted =>
              rw [if_pos hmuted] at hopen
              refine ⟨fun h => absurd h hstop, fun hdead => ?_, fun _ => ?_, hopen⟩
              · rw [(hcfg.dead hdead).1] at hmuted
                cases hmuted.1
              · simp only
                split
                · rfl
                · rfl
          · next hmuted =>
              rw [if_neg hmuted] at hopen
              have hkept : ∀ amount, (amount = none → proposal.verb = .escalateHuman) →
                  Settled cfg
                    { proposal with
                      amountPaise := amount
                      policyVersion := engine.policyVersion
                      failureClass
                      score := some score
                      proposedBy := .llm } := by
                intro amount hamount
                refine ⟨fun h => absurd h hstop, fun hdead hverb => hretry ⟨hdead, hverb⟩,
                  fun hforbidden => ?_, hamount⟩
                exact Bool.eq_false_iff.2 fun hlink => hmuted ⟨hforbidden, hlink⟩
              split
              · exact hkept _ nofun
              · next hfilled =>
                  rw [if_neg hfilled] at hopen
                  exact hkept _ hopen

/-- On a coherent row the result has an amount, or needs none, exactly when the validator
completes the proposal in one go. -/
theorem completed_iff (hcfg : Coherent (engine.classConfig failureClass)) (proposal : Action) :
    ((engine.validateProposal proposal failureClass amountPaise score).verb ≠ .escalateHuman →
        (engine.validateProposal proposal failureClass amountPaise score).amountPaise ≠ none) ↔
      Completed (engine.classConfig failureClass) proposal := by
  unfold validateProposal Completed
  simp only
  generalize engine.classConfig failureClass = cfg at hcfg ⊢
  by_cases hstop : cfg.category' = "stop"
  · have hspent : ¬0 < cfg.maxRetries' := Int.not_lt.2 (hcfg.stopped hstop).2.2
    simp [hstop, hspent]
  · rw [if_neg hstop]
    split
    · next hretry =>
        have hmoney : cfg.defaultVerb.getD .sendPaymentLink ≠ .escalateHuman := by
          intro hverb
          have hlink := (hcfg.dead hretry.1).2
          rw [hverb] at hlink
          cases hlink
        simp [hretry, hmoney]
    · next hretry =>
        split
        · next hmuted =>
            by_cases hbudget : 0 < cfg.maxRetries'
            · simp [hretry, hmuted, hbudget]
            · simp [hretry, hmuted, hbudget]
        · next hmuted =>
            have hquiet : ¬(cfg.allowContact' = false ∧ proposal.verb.isLink = true ∧
                0 < cfg.maxRetries') := fun h => hmuted ⟨h.1, h.2.1⟩
            simp only [hretry, hquiet, not_false_eq_true, and_self, implies_true, iff_true]
            split
            · nofun
            · next hfilled => exact fun hverb hnone => hfilled ⟨hnone, hverb⟩

end

/-- With the shipped taxonomy, validating a result again changes nothing and every result
other than an escalation has an amount, exactly when the proposal has an amount or asks
for no repair that skips the amount. -/
theorem validator_settles_iff (proposal : Action) (failureClass : String) (amountPaise : ℕ)
    (score : ℚ) :
    (shipped.validateProposal (shipped.validateProposal proposal failureClass amountPaise score)
          failureClass amountPaise score =
        shipped.validateProposal proposal failureClass amountPaise score ∧
      ((shipped.validateProposal proposal failureClass amountPaise score).verb ≠ .escalateHuman →
        (shipped.validateProposal proposal failureClass amountPaise score).amountPaise ≠ none)) ↔
      Completed (shipped.classConfig failureClass) proposal := by
  have hcfg := coherent_shipped failureClass
  rw [← completed_iff shipped failureClass amountPaise score hcfg]
  constructor
  · exact fun h => h.2
  · intro hpriced
    have hsettled := (settled_validateProposal shipped failureClass amountPaise score hcfg
      proposal).2 hpriced
    refine ⟨?_, hpriced⟩
    rw [validateProposal_of_settled shipped failureClass amountPaise score hsettled,
      stamp_validateProposal]

/-- A retry of an expired card that leaves the amount open. -/
def openRetry : Action where
  verb := .scheduleRetry

/-- The repair of a retry skips the amount: the result is a link without one, which the
next validation fills in. -/
theorem open_retry_not_settled :
    ¬(shipped.validateProposal
          (shipped.validateProposal openRetry "card_expired" 49900 0)
          "card_expired" 49900 0 =
        shipped.validateProposal openRetry "card_expired" 49900 0 ∧
      ((shipped.validateProposal openRetry "card_expired" 49900 0).verb ≠
          .escalateHuman →
        (shipped.validateProposal openRetry "card_expired" 49900 0).amountPaise ≠
          none)) := by
  rintro ⟨-, hpriced⟩
  exact hpriced (by decide) (by decide)

end PolicyEngine

end RecoveryAgent.Policy
