import RecoveryAgent.Guard.Gates
import RecoveryAgent.Policy.Engine

/-!
# What the validator lets through

A proposal that `validate_proposal` has bounded should be legal for its class. Each of
its early returns repairs one field and skips the later checks, so whether the result
is legal depends on the row of the class and on the proposal.
-/

namespace RecoveryAgent.Policy

open Guard

/-- An action is legal for a class of this row: a stopped class is escalated without a
channel, a dead class and a class without a budget are not retried, and a class that
forbids contact is not contacted in the sense of the gates. -/
structure Legal (cfg : TaxonomyRow) (action : Action) : Prop where
  stopped : cfg.category' = "stop" → action.verb = .escalateHuman ∧ action.channel = .none
  dead : cfg.category' = "dead" → action.verb ≠ .scheduleRetry
  budgeted : action.verb = .scheduleRetry → 0 < cfg.maxRetries'
  silent : cfg.allowContact' = false → isContactVerbOrChannel action = false

/-- The proposals that the validator makes legal. The class is stopped, or: a retry of
a dead class finds a default verb that is no retry, and no link where contact is
forbidden; any other retry has a budget, and no channel where contact is forbidden; an
escalation has no channel where contact is forbidden; and a link is not turned into a
retry of a dead class. -/
def Repairable (cfg : TaxonomyRow) (proposal : Action) : Prop :=
  cfg.category' = "stop" ∨
    match proposal.verb with
    | .scheduleRetry =>
        if cfg.category' = "dead" then
          cfg.defaultVerb.getD .sendPaymentLink ≠ .scheduleRetry ∧
            (cfg.allowContact' = true ∨ (cfg.defaultVerb.getD .sendPaymentLink).isLink = false)
        else 0 < cfg.maxRetries' ∧ (cfg.allowContact' = true ∨ proposal.channel = .none)
    | .escalateHuman => cfg.allowContact' = true ∨ proposal.channel = .none
    | _ => cfg.allowContact' = true ∨ (cfg.category' = "dead" → cfg.maxRetries' ≤ 0)

theorem isContactVerbOrChannel_eq_false_iff (action : Action) :
    isContactVerbOrChannel action = false ↔
      action.verb.isLink = false ∧ action.channel = .none := by
  unfold isContactVerbOrChannel
  rw [Bool.or_eq_false_iff]
  cases action.channel <;> simp

namespace PolicyEngine

variable (engine : PolicyEngine) (proposal : Action) (failureClass : String) (amountPaise : ℕ)
  (score : ℚ)

/-- What the validator makes of the verb and the channel. -/
def bounded (cfg : TaxonomyRow) (proposal : Action) : ActionVerb × Channel :=
  if cfg.category' = "stop" then (.escalateHuman, .none)
  else if cfg.category' = "dead" ∧ proposal.verb = .scheduleRetry then
    (cfg.defaultVerb.getD .sendPaymentLink, if cfg.allowContact' then .link else .none)
  else if cfg.allowContact' = false ∧ proposal.verb.isLink = true then
    (if 0 < cfg.maxRetries' then .scheduleRetry else .escalateHuman, .none)
  else (proposal.verb, proposal.channel)

theorem validateProposal_bounded :
    ((engine.validateProposal proposal failureClass amountPaise score).verb,
      (engine.validateProposal proposal failureClass amountPaise score).channel) =
        bounded (engine.classConfig failureClass) proposal := by
  unfold validateProposal bounded
  simp only
  split
  · rfl
  · split
    · rfl
    · split
      · rfl
      · split <;> rfl

end PolicyEngine

/-- Legality is about the verb and the channel alone. -/
theorem legal_iff_of_bounded {cfg : TaxonomyRow} {action : Action} {verb : ActionVerb}
    {channel : Channel} (h : (action.verb, action.channel) = (verb, channel)) :
    Legal cfg action ↔
      (cfg.category' = "stop" → verb = .escalateHuman ∧ channel = .none) ∧
      (cfg.category' = "dead" → verb ≠ .scheduleRetry) ∧
      (verb = .scheduleRetry → 0 < cfg.maxRetries') ∧
      (cfg.allowContact' = false → verb.isLink = false ∧ channel = .none) := by
  obtain ⟨rfl, rfl⟩ := Prod.mk.inj h
  rw [← isContactVerbOrChannel_eq_false_iff]
  constructor
  · rintro ⟨hstopped, hdead, hbudgeted, hsilent⟩
    exact ⟨hstopped, hdead, hbudgeted, hsilent⟩
  · rintro ⟨hstopped, hdead, hbudgeted, hsilent⟩
    exact ⟨hstopped, hdead, hbudgeted, hsilent⟩

section

variable {cfg : TaxonomyRow} {proposal action : Action}

/-- A retry of a dead class becomes the default verb. -/
theorem legal_iff_of_dead (hdead : cfg.category' = "dead")
    (hretry : proposal.verb = .scheduleRetry)
    (h : (action.verb, action.channel) = (cfg.defaultVerb.getD .sendPaymentLink,
      if cfg.allowContact' then .link else .none)) : Legal cfg action ↔ Repairable cfg proposal := by
  have hstop : cfg.category' ≠ "stop" := by
    rw [hdead]
    decide
  unfold Repairable
  rw [legal_iff_of_bounded h, hretry]
  simp only [if_pos hdead, hstop, false_or]
  generalize cfg.defaultVerb.getD .sendPaymentLink = verb
  constructor
  · rintro ⟨-, hnever, -, hsilent⟩
    refine ⟨hnever hdead, ?_⟩
    cases hallow : cfg.allowContact' with
    | false => exact Or.inr (hsilent hallow).1
    | true => exact Or.inl rfl
  · rintro ⟨hnever, hquiet⟩
    refine ⟨nofun, fun _ => hnever, fun hverb => absurd hverb hnever, fun hforbidden => ?_⟩
    rw [hforbidden] at hquiet ⊢
    exact ⟨hquiet.resolve_left Bool.false_ne_true, rfl⟩

/-- A link where contact is forbidden becomes a retry, or the escalation without a budget. -/
theorem legal_iff_of_muted (hstop : cfg.category' ≠ "stop") (hforbidden : cfg.allowContact' = false)
    (hlink : proposal.verb.isLink = true)
    (h : (action.verb, action.channel) =
      (if 0 < cfg.maxRetries' then .scheduleRetry else .escalateHuman, .none)) :
    Legal cfg action ↔ Repairable cfg proposal := by
  have hrepairable : Repairable cfg proposal ↔ (cfg.category' = "dead" → cfg.maxRetries' ≤ 0) := by
    unfold Repairable
    rcases (ActionVerb.isLink_iff _).1 hlink with hverb | hverb
    · simp [hverb, hstop, hforbidden]
    · simp [hverb, hstop, hforbidden]
  rw [legal_iff_of_bounded h, hrepairable]
  by_cases hbudget : 0 < cfg.maxRetries'
  · have hover : ¬cfg.maxRetries' ≤ 0 := Int.not_le.2 hbudget
    simp [hstop, hbudget, hover, ActionVerb.isLink]
  · have hspent : cfg.maxRetries' ≤ 0 := Int.not_lt.1 hbudget
    simp [hstop, hbudget, hspent, ActionVerb.isLink]

/-- What the validator keeps is legal as it was proposed. -/
theorem legal_iff_of_kept (hstop : cfg.category' ≠ "stop")
    (hretry : ¬(cfg.category' = "dead" ∧ proposal.verb = .scheduleRetry))
    (hmuted : ¬(cfg.allowContact' = false ∧ proposal.verb.isLink = true))
    (h : (action.verb, action.channel) = (proposal.verb, proposal.channel)) :
    Legal cfg action ↔ Repairable cfg proposal := by
  unfold Repairable
  rw [legal_iff_of_bounded h]
  cases hverb : proposal.verb with
  | scheduleRetry =>
      have halive : cfg.category' ≠ "dead" := fun hdead => hretry ⟨hdead, hverb⟩
      cases cfg.allowContact' with
      | false => simp [halive, hstop, ActionVerb.isLink]
      | true => simp [halive, hstop, ActionVerb.isLink]
  | escalateHuman =>
      cases cfg.allowContact' with
      | false => simp [hstop, ActionVerb.isLink]
      | true => simp [hstop, ActionVerb.isLink]
  | sendPaymentLink =>
      have hallow : cfg.allowContact' = true := by
        simpa [hverb, ActionVerb.isLink] using hmuted
      simp [hallow, hstop]
  | requestMandateUpdate =>
      have hallow : cfg.allowContact' = true := by
        simpa [hverb, ActionVerb.isLink] using hmuted
      simp [hallow, hstop]

end

/-- For every taxonomy, class and proposal, the validated action is legal exactly when
the proposal is one that the validator can make legal. -/
theorem legal_validateProposal_iff (engine : PolicyEngine) (proposal : Action)
    (failureClass : String) (amountPaise : ℕ) (score : ℚ) :
    Legal (engine.classConfig failureClass)
        (engine.validateProposal proposal failureClass amountPaise score) ↔
      Repairable (engine.classConfig failureClass) proposal := by
  have hbounded := engine.validateProposal_bounded proposal failureClass amountPaise score
  generalize engine.validateProposal proposal failureClass amountPaise score = action at hbounded ⊢
  generalize engine.classConfig failureClass = cfg at hbounded ⊢
  unfold PolicyEngine.bounded at hbounded
  by_cases hstop : cfg.category' = "stop"
  · rw [if_pos hstop] at hbounded
    rw [legal_iff_of_bounded hbounded]
    simp [Repairable, hstop, ActionVerb.isLink]
  · rw [if_neg hstop] at hbounded
    by_cases hretry : cfg.category' = "dead" ∧ proposal.verb = .scheduleRetry
    · rw [if_pos hretry] at hbounded
      exact legal_iff_of_dead hretry.1 hretry.2 hbounded
    · rw [if_neg hretry] at hbounded
      by_cases hmuted : cfg.allowContact' = false ∧ proposal.verb.isLink = true
      · rw [if_pos hmuted] at hbounded
        exact legal_iff_of_muted hstop hmuted.1 hmuted.2 hbounded
      · rw [if_neg hmuted] at hbounded
        exact legal_iff_of_kept hstop hretry hmuted hbounded

/-- A silent retry of a class whose retries are to be silent, proposed with a text
message. -/
def textedRetry : Action where
  verb := .scheduleRetry
  channel := .sms

/-- The shipped taxonomy lets a retry keep its text message although contact is
forbidden, and lets a class without a budget be retried. -/
theorem not_legal_texted_retry :
    ¬ Legal (PolicyEngine.shipped.classConfig "insufficient_funds")
        (PolicyEngine.shipped.validateProposal textedRetry "insufficient_funds" 49900 0) ∧
      ¬ Legal (PolicyEngine.shipped.classConfig "ambiguous")
        (PolicyEngine.shipped.validateProposal textedRetry "ambiguous" 49900 0) := by
  constructor
  · intro h
    exact absurd (h.silent (by decide)) (by decide)
  · intro h
    exact absurd (h.budgeted (by decide)) (by decide)

end RecoveryAgent.Policy
