import RecoveryAgent.Python.Values

/-!
# Actions

The closed verbs and channels, the `Action` that the model proposes and the
rules emit, and the `DecisionBundle` of one rules decision.
-/

namespace RecoveryAgent.Policy

open Python

/-- The interventions that exist. -/
inductive ActionVerb where
  | scheduleRetry
  | sendPaymentLink
  | requestMandateUpdate
  | escalateHuman
  deriving DecidableEq, Repr

inductive Channel where
  | none
  | sms
  | email
  | link
  deriving DecidableEq, Repr

inductive ProposedBy where
  | llm
  | rulesFallback
  deriving DecidableEq, Repr

namespace ActionVerb

def value : ActionVerb → String
  | scheduleRetry => "schedule_retry"
  | sendPaymentLink => "send_payment_link"
  | requestMandateUpdate => "request_mandate_update"
  | escalateHuman => "escalate_human"

/-- The verb with a given value, as the enum is read from JSON. -/
def ofValue? (s : String) : Option ActionVerb :=
  [scheduleRetry, sendPaymentLink, requestMandateUpdate, escalateHuman].find?
    fun v => v.value = s

/-- The two verbs that reach the payer with a link. -/
def isLink : ActionVerb → Bool
  | sendPaymentLink => true
  | requestMandateUpdate => true
  | _ => false

@[simp] theorem ofValue?_value (v : ActionVerb) : ofValue? v.value = some v := by
  cases v <;> decide

theorem isLink_iff (v : ActionVerb) :
    v.isLink = true ↔ v = sendPaymentLink ∨ v = requestMandateUpdate := by
  cases v <;> simp [isLink]

end ActionVerb

namespace Channel

def value : Channel → String
  | none => "none"
  | sms => "sms"
  | email => "email"
  | link => "link"

def ofValue? (s : String) : Option Channel :=
  [none, sms, email, link].find? fun c => c.value = s

@[simp] theorem ofValue?_value (c : Channel) : ofValue? c.value = some c := by
  cases c <;> decide

end Channel

def ProposedBy.value : ProposedBy → String
  | llm => "llm"
  | rulesFallback => "rules_fallback"

/-- One bounded intervention. `day_offset` and `amount_paise` are validated to
be non-negative; `when` is never set. -/
structure Action where
  verb : ActionVerb
  dayOffset : Option ℕ := none
  channel : Channel := .none
  amountPaise : Option ℕ := none
  reasonCode : String := ""
  policyVersion : String := "unset"
  proposedBy : ProposedBy := .rulesFallback
  failureClass : String := ""
  score : Option ℚ := none
  note : String := ""
  deriving DecidableEq, Repr

def Action.modelDump (a : Action) : Fields :=
  [("verb", .str a.verb.value),
    ("when", .null),
    ("day_offset", .ofOptNat a.dayOffset),
    ("channel", .str a.channel.value),
    ("amount_paise", .ofOptNat a.amountPaise),
    ("reason_code", .str a.reasonCode),
    ("policy_version", .str a.policyVersion),
    ("proposed_by", .str a.proposedBy.value),
    ("failure_class", .str a.failureClass),
    ("score", (a.score.map fun q => Json.float (.fin q)).getD .null),
    ("note", .str a.note)]

/-- What the dump holds under the four fields a fingerprint is made of. -/
theorem Action.modelDump_get? (a : Action) :
    a.modelDump.get? "verb" = some (.str a.verb.value) ∧
      a.modelDump.get? "day_offset" = some (.ofOptNat a.dayOffset) ∧
      a.modelDump.get? "channel" = some (.str a.channel.value) ∧
      a.modelDump.get? "reason_code" = some (.str a.reasonCode) :=
  ⟨rfl, rfl, rfl, rfl⟩

/-- Everything the rules produce for one case. -/
structure DecisionBundle where
  failureClass : String
  category : String
  score : ℚ
  effortBand : String
  actions : List Action
  classificationMatchedOn : String
  policyVersion : String
  deriving DecidableEq, Repr

end RecoveryAgent.Policy
