import Mathlib.Data.List.Sort
import RecoveryAgent.Config.Loader

/-!
# The cost table

What `get_cost` of `config/costs.py` gives of the loaded parameters while overrides are in
force, and the form of `api/routes_ui.py` that they come from. The code reads twelve keys, and
to it the loaded document and the overrides are one table.
-/

namespace RecoveryAgent.Config

open Library Python

/-- `_overrides`, with whatever floats are posted. -/
abbrev PostedOverrides := List (String × PyFloat)

/-- Overrides that are all numbers. -/
def Overrides.posted (overrides : Overrides) : PostedOverrides :=
  overrides.map fun entry => (entry.1, .fin entry.2)

/-- `get_cost`, under the overrides in force. -/
def getCost (params : CostParams) (overrides : PostedOverrides) (key : String) :
    Except CostsError CostParam :=
  match params.lookup key with
  | none => .error (.unknownKey key ((params.map Prod.fst).insertionSort (· ≤ ·)))
  | some base =>
      match overrides.lookup key with
      | some value => .ok { base with value }
      | none => .ok base

def getCostValue (params : CostParams) (overrides : PostedOverrides) (key : String) :
    Except CostsError PyFloat :=
  (getCost params overrides key).map (·.value)

def costNumber (params : CostParams) (overrides : PostedOverrides) (key : String) : Option ℚ :=
  match getCostValue params overrides key with
  | .ok (.fin q) => some q
  | _ => none

/-- The table of what the code reads. -/
def costTable (value : String → Option ℚ) : Option Costs := do
  let pspFeeOnFailedAttempt ← value "attempt.psp_fee_on_failed_attempt"
  let smsDlt ← value "attempt.sms_dlt"
  let whatsappUtility ← value "attempt.whatsapp_utility"
  let email ← value "attempt.email"
  let networkExcessRetryPenalty ← value "attempt.network_excess_retry_penalty"
  let mdrPct ← value "success.mdr_pct"
  let chargebackFee ← value "risk.chargeback_fee"
  let supportTicket ← value "risk.support_ticket"
  let issuerAuthDecayPctPerExcessAttempt ← value "risk.issuer_auth_decay_pct_per_excess_attempt"
  let churnProbPerInappropriateContact ← value "customer.churn_prob_per_inappropriate_contact"
  let ltv ← value "customer.ltv"
  let maxAttemptsPerTransaction30d ← value "scheme_limits.max_attempts_per_transaction_30d"
  return {
    pspFeeOnFailedAttempt
    smsDlt
    whatsappUtility
    email
    networkExcessRetryPenalty
    mdrPct
    chargebackFee
    supportTicket
    issuerAuthDecayPctPerExcessAttempt
    churnProbPerInappropriateContact
    ltv
    maxAttemptsPerTransaction30d }

theorem getCostValue_under (params : CostParams) (overrides : PostedOverrides) (key : String) :
    getCostValue params overrides key =
      (getCostValue params [] key).map fun base => (overrides.lookup key).getD base := by
  unfold getCostValue getCost
  cases params.lookup key with
  | none => rfl
  | some base => cases overrides.lookup key <;> rfl

theorem lookup_posted (overrides : Overrides) (key : String) :
    overrides.posted.lookup key = (overrides.lookup key).map .fin := by
  induction overrides with
  | nil => rfl
  | cons entry overrides ih =>
      obtain ⟨k, value⟩ := entry
      rw [Overrides.posted, List.map_cons, lookup_cons_eq, lookup_cons_eq]
      split
      · rfl
      · exact ih

theorem costNumber_overridden {params : CostParams} {key : String} {base : ℚ}
    (h : costNumber params [] key = some base) (overrides : Overrides) :
    costNumber params overrides.posted key = some (overrides.value key base) := by
  unfold costNumber Overrides.value at *
  rw [getCostValue_under, lookup_posted]
  cases hvalue : getCostValue params [] key with
  | error e =>
      rw [hvalue] at h
      cases h
  | ok value =>
      rw [hvalue] at h
      cases value with
      | fin q =>
          cases h
          cases overrides.lookup key <;> rfl
      | _ => cases h

theorem costTable_under {params : CostParams} {file : Costs}
    (h : costTable (costNumber params []) = some file) (overrides : Overrides) :
    costTable (costNumber params overrides.posted) = some (file.under overrides) := by
  have hunder := fun {key : String} {base : ℚ} (h : costNumber params [] key = some base) =>
    costNumber_overridden h overrides
  unfold costTable at h ⊢
  simp only [Option.bind_eq_bind, Option.bind_eq_some_iff, Option.pure_def,
    Option.some.injEq] at h
  obtain ⟨psp, hpsp, sms, hsms, whatsapp, hwhatsapp, email, hemail, excess, hexcess, mdr, hmdr,
    chargeback, hchargeback, ticket, hticket, decay, hdecay, churn, hchurn, ltv, hltv, attempts,
    hattempts, rfl⟩ := h
  rw [hunder hpsp, hunder hsms, hunder hwhatsapp, hunder hemail, hunder hexcess, hunder hmdr,
    hunder hchargeback, hunder hticket, hunder hdecay, hunder hchurn, hunder hltv,
    hunder hattempts]
  rfl

theorem costTable_shipped : costTable (costNumber shippedParams []) = some shippedCosts := by
  decide +kernel

/-!
## The assumptions panel
-/

def editableCostKeys : List String :=
  ["attempt.sms_dlt", "attempt.whatsapp_utility", "attempt.email", "success.mdr_pct",
    "customer.churn_prob_per_inappropriate_contact", "customer.ltv", "risk.support_ticket",
    "risk.chargeback_fee"]

/-- The field of a key in the form. -/
def costField (key : String) : String :=
  "cost_" ++ String.ofList (key.toList.flatMap fun c => if c = '.' then ['_', '_'] else [c])

/-- What the form says of a key; what is blank or no float says nothing. -/
def postedCost (floatOfText : String → Option PyFloat) (form : String → Option String)
    (key : String) : Option PyFloat :=
  ((form (costField key)).filter fun raw => strip raw ≠ "").bind floatOfText

def parseCostOverrides (floatOfText : String → Option PyFloat)
    (form : String → Option String) : PostedOverrides :=
  editableCostKeys.filterMap fun key =>
    (postedCost floatOfText form key).map fun value => (key, value)

section

variable {floatOfText : String → Option PyFloat} {form : String → Option String}

theorem lookup_filterMap_map {α : Type*} {f : String → Option α} (keys : List String)
    (key : String) :
    (keys.filterMap fun key => (f key).map fun value => (key, value)).lookup key =
      if key ∈ keys then f key else none := by
  induction keys with
  | nil => rfl
  | cons k keys ih =>
      rw [List.filterMap_cons]
      cases hk : f k with
      | none =>
          simp only [Option.map_none, ih, List.mem_cons]
          by_cases hkey : key = k
          · rw [hkey, hk, ite_self, ite_self]
          · simp only [hkey, false_or]
      | some value =>
          simp only [Option.map_some, lookup_cons_eq, ih, List.mem_cons]
          by_cases hkey : key = k
          · simp only [hkey, if_true, true_or, hk]
          · simp only [hkey, if_false, false_or]

/-- The overrides of a form are what it says of the editable keys. -/
theorem lookup_parseCostOverrides (key : String) :
    (parseCostOverrides floatOfText form).lookup key =
      if key ∈ editableCostKeys then postedCost floatOfText form key else none :=
  lookup_filterMap_map editableCostKeys key

/-- The value of a key under a form: the posted one, for an editable key. -/
theorem getCostValue_posted (params : CostParams) (key : String) :
    getCostValue params (parseCostOverrides floatOfText form) key =
      (getCostValue params [] key).map fun base =>
        if key ∈ editableCostKeys then (postedCost floatOfText form key).getD base else base := by
  rw [getCostValue_under, lookup_parseCostOverrides]
  split <;> rfl

/-- Whatever is posted, also infinities and what is no number, the code reads the posted values
in the place of the editable ones, and the others cannot be reached from the form. A form whose
values are all numbers moves the loaded table by them. -/
theorem form_moves_editable_costs {params : CostParams} {file : Costs}
    (h : costTable (costNumber params []) = some file) :
    (∀ key, getCostValue params (parseCostOverrides floatOfText form) key =
      (getCostValue params [] key).map fun base =>
        if key ∈ editableCostKeys then (postedCost floatOfText form key).getD base else base) ∧
    (∀ overrides : Overrides, parseCostOverrides floatOfText form = overrides.posted →
      costTable (costNumber params (parseCostOverrides floatOfText form)) =
        some (file.under overrides) ∧
      ∀ key ∉ editableCostKeys, ∀ base, overrides.value key base = base) := by
  refine ⟨getCostValue_posted params, fun overrides hposted => ⟨?_, fun key hkey base => ?_⟩⟩
  · rw [hposted]
    exact costTable_under h overrides
  · have hlookup := @lookup_parseCostOverrides floatOfText form key
    rw [hposted, lookup_posted, if_neg hkey, Option.map_eq_none_iff] at hlookup
    rw [Overrides.value, hlookup]
    rfl

end

def halfRupeeForm (field : String) : Option String :=
  if field = "cost_attempt__sms_dlt" then some "0.5" else none

/-- That form, over the shipped document. -/
theorem form_moves_editable_costs_sms :
    getCostValue shippedParams (parseCostOverrides (fun _ => some (.fin (1 / 2))) halfRupeeForm)
        "attempt.sms_dlt" = .ok (.fin (1 / 2)) ∧
      costTable (costNumber shippedParams
        (parseCostOverrides (fun _ => some (.fin (1 / 2))) halfRupeeForm)) =
          some { shippedCosts with smsDlt := 1 / 2 } := by
  obtain ⟨hvalues, htable⟩ := @form_moves_editable_costs (fun _ => some (.fin (1 / 2)))
    halfRupeeForm shippedParams shippedCosts costTable_shipped
  constructor
  · rw [hvalues]
    decide +kernel
  · obtain ⟨hunder, -⟩ := htable [("attempt.sms_dlt", 1 / 2)] (by decide +kernel)
    rw [hunder]
    rfl

end RecoveryAgent.Config
