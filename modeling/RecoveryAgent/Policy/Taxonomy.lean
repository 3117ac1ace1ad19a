import RecoveryAgent.Policy.Schemas

/-!
# The taxonomy

`taxonomy.yaml`: for every failure class a row of category, verb, contact
permission, retry budget and timing, plus the scoring knobs and effort bands.
A key that a row leaves out is `none`; the readers supply the defaults the
engine gives to `cfg.get`. A default verb outside `ActionVerb` has no value
here, as building the enum from it raises.
-/

namespace RecoveryAgent.Policy

/-- One failure class. -/
structure TaxonomyRow where
  category : Option String := none
  defaultVerb : Option ActionVerb := none
  allowContact : Option Bool := none
  maxRetries : Option ℤ := none
  timing : Option String := none
  reasonCode : Option String := none
  deriving DecidableEq, Repr

/-- The scoring knobs, with the defaults of `recoverability_score`. -/
structure Scoring where
  baseByCategory : List (String × ℚ) := []
  valueWeightPer1000Inr : ℚ := 2 / 100
  valueWeightCap : ℚ := 10 / 100
  fatiguePenaltyPerContact : ℚ := 8 / 100
  tenureBonusPer365Days : ℚ := 3 / 100
  tenureBonusCap : ℚ := 6 / 100
  deriving DecidableEq, Repr

/-- A taxonomy has a row for `ambiguous`, which unknown classes fall back
to. -/
structure Taxonomy where
  version : String
  classes : List (String × TaxonomyRow)
  scoring : Scoring
  effortBands : List (String × ℚ)
  hasAmbiguous : (classes.lookup "ambiguous").isSome

namespace TaxonomyRow

def category' (row : TaxonomyRow) : String := row.category.getD "ambiguous"

def allowContact' (row : TaxonomyRow) : Bool := row.allowContact.getD false

def maxRetries' (row : TaxonomyRow) : ℤ := row.maxRetries.getD 0

def timing' (row : TaxonomyRow) : String := row.timing.getD "none"

end TaxonomyRow

def Taxonomy.hasClass (t : Taxonomy) (failureClass : String) : Bool :=
  (t.classes.lookup failureClass).isSome

/-- The shipped `taxonomy.yaml`. -/
def shipped : Taxonomy where
  version := "2026-08-26-metrics-s1"
  classes :=
    [("insufficient_funds",
        { category := some "time_shiftable"
          defaultVerb := some .scheduleRetry
          allowContact := some false
          maxRetries := some 4
          timing := some "salary_window"
          reasonCode := some "NSF_SALARY_WINDOW" }),
      ("issuer_transient",
        { category := some "transient"
          defaultVerb := some .scheduleRetry
          allowContact := some false
          maxRetries := some 2
          timing := some "short_backoff"
          reasonCode := some "TRANSIENT_QUICK_RETRY" }),
      ("gateway_timeout",
        { category := some "transient"
          defaultVerb := some .scheduleRetry
          allowContact := some false
          maxRetries := some 2
          timing := some "short_backoff"
          reasonCode := some "TIMEOUT_RECONCILE_RETRY" }),
      ("card_expired",
        { category := some "dead"
          defaultVerb := some .sendPaymentLink
          allowContact := some true
          maxRetries := some 0
          timing := some "immediate_contact"
          reasonCode := some "DEAD_CARD_LINK" }),
      ("token_invalid",
        { category := some "dead"
          defaultVerb := some .sendPaymentLink
          allowContact := some true
          maxRetries := some 0
          timing := some "immediate_contact"
          reasonCode := some "DEAD_TOKEN_LINK" }),
      ("mandate_revoked",
        { category := some "dead"
          defaultVerb := some .requestMandateUpdate
          allowContact := some true
          maxRetries := some 0
          timing := some "immediate_contact"
          reasonCode := some "DEAD_MANDATE_UPDATE" }),
      ("risk_fraud",
        { category := some "stop"
          defaultVerb := some .escalateHuman
          allowContact := some false
          maxRetries := some 0
          timing := some "none"
          reasonCode := some "RISK_ESCALATE" }),
      ("do_not_honour",
        { category := some "ambiguous"
          defaultVerb := some .scheduleRetry
          allowContact := some true
          maxRetries := some 1
          timing := some "spaced_then_link"
          reasonCode := some "DNH_SPACED" }),
      ("ambiguous",
        { category := some "ambiguous"
          defaultVerb := some .escalateHuman
          allowContact := some false
          maxRetries := some 0
          timing := some "none"
          reasonCode := some "AMBIGUOUS_ESCALATE" })]
  scoring :=
    { baseByCategory :=
        [("time_shiftable", 72 / 100), ("transient", 65 / 100), ("dead", 55 / 100),
          ("ambiguous", 40 / 100), ("stop", 5 / 100)] }
  effortBands := [("low", 0), ("medium", 45 / 100), ("high", 70 / 100)]
  hasAmbiguous := by decide

/-- A class of the shipped taxonomy is one of the nine. -/
theorem mem_of_hasClass_shipped {c : String} (h : shipped.hasClass c = true) :
    c ∈ ["insufficient_funds", "issuer_transient", "gateway_timeout", "card_expired",
      "token_invalid", "mandate_revoked", "risk_fraud", "do_not_honour", "ambiguous"] := by
  obtain ⟨row, hrow⟩ := Option.isSome_iff_exists.1 h
  obtain ⟨l₁, l₂, hsplit, -⟩ := List.lookup_eq_some_iff.1 hrow
  have hmem : c ∈ shipped.classes.map Prod.fst := by
    rw [hsplit]
    simp
  exact hmem

end RecoveryAgent.Policy
