import Mathlib.Algebra.Order.Ring.Unbundled.Rat
import Mathlib.Data.List.Sort
import RecoveryAgent.Policy.Taxonomy

/-!
# Rules diagnosis

The deterministic classifier of `diagnose/classifier.py`, with the fixture it
ships with, and the scoring of `diagnose/scoring.py` in exact arithmetic.
-/

namespace RecoveryAgent.Diagnose

open Python Policy

/-- Result of rules classification. -/
structure Classification where
  failureClass : String
  matchedOn : String
  rawReason : String
  rawCode : String
  confidence : ℚ
  deriving DecidableEq, Repr

/-- The two lookup tables of the classifier. -/
structure Classifier where
  byReason : List (String × String)
  byCode : List (String × Option String)

namespace Classifier

/-- Building the tables from a fixture. Of two keys with one normal form the
later wins, so the lists are read from their end. -/
def ofFixture (byReason : List (String × String)) (byCode : List (String × Option String)) :
    Classifier where
  byReason := (byReason.map fun kv => (lower kv.1, kv.2)).reverse
  byCode := (byCode.map fun kv => (upper kv.1, kv.2)).reverse

def classify (c : Classifier) (rawReason rawCode : String) : Classification :=
  let reason := lower (strip rawReason)
  let code := upper (strip rawCode)
  match if reason = "" then none else c.byReason.lookup reason with
  | some failureClass => ⟨failureClass, "reason", rawReason, rawCode, 1⟩
  | none =>
      match if code = "" then none else c.byCode.lookup code with
      | some (some failureClass) =>
          if failureClass = "" then ⟨"ambiguous", "ambiguous", rawReason, rawCode, 0⟩
          else ⟨failureClass, "code", rawReason, rawCode, 8 / 10⟩
      | _ => ⟨"ambiguous", "ambiguous", rawReason, rawCode, 0⟩

/-- The shipped `decline_codes.json`. -/
def shipped : Classifier :=
  ofFixture
    [("insufficient_funds", "insufficient_funds"),
      ("card_expired", "card_expired"),
      ("card_declined", "do_not_honour"),
      ("payment_failed", "do_not_honour"),
      ("do_not_honour", "do_not_honour"),
      ("issuer_decline", "do_not_honour"),
      ("gateway_timeout", "gateway_timeout"),
      ("gateway_error", "issuer_transient"),
      ("bank_technical_error", "issuer_transient"),
      ("issuer_transient", "issuer_transient"),
      ("token_invalid", "token_invalid"),
      ("card_reissued", "token_invalid"),
      ("mandate_revoked", "mandate_revoked"),
      ("mandate_cancelled", "mandate_revoked"),
      ("payment_risk_check_failed", "risk_fraud"),
      ("risk_fraud", "risk_fraud"),
      ("fraud", "risk_fraud")]
    [("BAD_REQUEST_ERROR", none),
      ("GATEWAY_ERROR", some "issuer_transient"),
      ("SERVER_ERROR", some "issuer_transient")]

/-- The class is a value of one of the tables, or `ambiguous`. -/
theorem classify_failureClass (c : Classifier) (rawReason rawCode : String) :
    (c.classify rawReason rawCode).failureClass ∈ c.byReason.map Prod.snd ∨
      some (c.classify rawReason rawCode).failureClass ∈ c.byCode.map Prod.snd ∨
      (c.classify rawReason rawCode).failureClass = "ambiguous" := by
  have hlookup : ∀ {β : Type} {key : String} {value : β} {table : List (String × β)},
      (if key = "" then none else table.lookup key) = some value →
        value ∈ table.map Prod.snd := by
    intro β key value table h
    split at h
    · cases h
    · obtain ⟨l₁, l₂, hsplit, -⟩ := List.lookup_eq_some_iff.1 h
      rw [hsplit]
      simp
  unfold classify
  simp only
  split
  · next h => exact Or.inl (hlookup h)
  · split
    · next h =>
        split
        · exact Or.inr (Or.inr rfl)
        · exact Or.inr (Or.inl (hlookup h))
    · exact Or.inr (Or.inr rfl)

/-- Every class the shipped classifier returns has a row in the shipped
taxonomy. -/
theorem hasClass_classify_shipped (rawReason rawCode : String) :
    Policy.shipped.hasClass (shipped.classify rawReason rawCode).failureClass = true := by
  have hreason : ∀ c ∈ shipped.byReason.map Prod.snd, Policy.shipped.hasClass c = true := by
    decide
  have hcode : ∀ c ∈ shipped.byCode.map Prod.snd,
      ∀ d ∈ c, Policy.shipped.hasClass d = true := by
    decide
  rcases classify_failureClass shipped rawReason rawCode with h | h | h
  · exact hreason _ h
  · exact hcode _ h _ rfl
  · rw [h]
    decide

end Classifier

/-- `recoverability_score`: base of the category plus capped value and tenure
terms minus the contact penalty, clipped to `[0, 1]` and rounded. -/
def recoverabilityScore (category : String) (amountPaise contactsUsed tenureDays : ℤ)
    (scoring : Scoring) : ℚ :=
  let base := (scoring.baseByCategory.lookup category).getD (4 / 10)
  let inr : ℚ := amountPaise / 100
  let valueWeight := min scoring.valueWeightCap (inr / 1000 * scoring.valueWeightPer1000Inr)
  let tenureBonus :=
    min scoring.tenureBonusCap ((tenureDays : ℚ) / 365 * scoring.tenureBonusPer365Days)
  let fatigue := scoring.fatiguePenaltyPerContact * (max 0 contactsUsed : ℤ)
  Python.round (min 1 (max 0 (base + valueWeight + tenureBonus - fatigue))) 4

/-- The order of `sort(reverse=True)` on pairs of minimum score and name. -/
def bandAbove (a b : String × ℚ) : Bool :=
  decide (b.2 < a.2) || (decide (a.2 = b.2) && decide (b.1 ≤ a.1))

/-- `effort_band`: the name of the first band, from the highest down, whose
minimum the score reaches. -/
def effortBand (score : ℚ) (bands : List (String × ℚ)) : String :=
  match (bands.insertionSort fun a b => bandAbove a b).find? fun band => band.2 ≤ score with
  | some band => band.1
  | none => "low"

end RecoveryAgent.Diagnose
