import RecoveryAgent.Policy.Engine

/-!
# What the model has to answer

`ai/schemas.py`: the answers that the code demands of the language model, and
how pydantic reads them from whatever JSON came back.
-/

namespace RecoveryAgent.Ai

open Python Policy

/-- An exception: the name of its type and its text. -/
structure Failure where
  typeName : String
  text : String
  deriving DecidableEq, Repr

/-- `f"{type(exc).__name__}: {exc}"`. -/
def Failure.detail (f : Failure) : String := f.typeName ++ ": " ++ f.text

/-- How pydantic reads a number from a text, and what its errors say. -/
structure Pydantic where
  floatOfText : String → Option PyFloat
  intOfText : String → Option ℤ
  errorText : String → Json → String

namespace Pydantic

def str? : Json → Option String
  | .str s => some s
  | _ => none

def float? (p : Pydantic) : Json → Option PyFloat
  | .float x => some x
  | .int i => some (.fin i)
  | .bool b => some (.fin (if b then 1 else 0))
  | .str s => p.floatOfText s
  | _ => none

/-- A float is read as an int when it has no fractional part. -/
def int? (p : Pydantic) : Json → Option ℤ
  | .int i => some i
  | .bool b => some (if b then 1 else 0)
  | .float (.fin q) => if q.den = 1 then some q.num else none
  | .str s => p.intOfText s
  | _ => none

/-- A field without a default. -/
def required {α : Type} (d : Fields) (key : String) (read : Json → Option α) : Option α :=
  (d.get? key).bind read

/-- A field with a default, which is used only when the key is absent. -/
def defaulted {α : Type} (d : Fields) (key : String) (default : α) (read : Json → Option α) :
    Option α :=
  match d.get? key with
  | none => some default
  | some v => read v

/-- `Model.model_validate(v)`: a dictionary whose fields can all be read. -/
def validate {α : Type} (p : Pydantic) (title : String) (ofFields? : Fields → Option α)
    (v : Json) : Except Failure α :=
  match v with
  | .obj d =>
      match ofFields? d with
      | some a => .ok a
      | none => .error ⟨"ValidationError", p.errorText title v⟩
  | _ => .error ⟨"ValidationError", p.errorText title v⟩

end Pydantic

/-- A confidence that passes `ge=0.0, le=1.0`. No comparison with `nan` holds, so
it passes too. -/
def isUnit : PyFloat → Bool
  | .fin q => 0 ≤ q && q ≤ 1
  | .nan => true
  | _ => false

structure Diagnosis where
  summary : String
  likelyClass : String
  confidence : PyFloat
  rationale : String
  unit : isUnit confidence = true := by decide

def Diagnosis.ofFields? (p : Pydantic) (d : Fields) : Option Diagnosis := do
  let summary ← Pydantic.required d "summary" Pydantic.str?
  let likelyClass ← Pydantic.required d "likely_class" Pydantic.str?
  let confidence ← Pydantic.required d "confidence" p.float?
  let rationale ← Pydantic.required d "rationale" Pydantic.str?
  if h : isUnit confidence = true then some ⟨summary, likelyClass, confidence, rationale, h⟩
  else none

def Diagnosis.modelDump (d : Diagnosis) : Fields :=
  [("summary", .str d.summary),
    ("likely_class", .str d.likelyClass),
    ("confidence", .float d.confidence),
    ("rationale", .str d.rationale)]

/-- What the model is asked to return for the action step. -/
structure ProposalPayload where
  verb : ActionVerb
  dayOffset : ℕ := 0
  channel : Channel := .none
  reasonCode : String := "AI_PROPOSAL"
  note : String := ""
  bounded : dayOffset ≤ 60 := by decide

def ProposalPayload.ofFields? (p : Pydantic) (d : Fields) : Option ProposalPayload := do
  let verb ← Pydantic.required d "verb" fun v => (Pydantic.str? v).bind ActionVerb.ofValue?
  let dayOffset ← Pydantic.defaulted d "day_offset" 0 p.int?
  let channel ← Pydantic.defaulted d "channel" .none fun v =>
    (Pydantic.str? v).bind Channel.ofValue?
  let reasonCode ← Pydantic.defaulted d "reason_code" "AI_PROPOSAL" Pydantic.str?
  let note ← Pydantic.defaulted d "note" "" Pydantic.str?
  if h : 0 ≤ dayOffset ∧ dayOffset ≤ 60 then
    some ⟨verb, dayOffset.toNat, channel, reasonCode, note, by omega⟩
  else none

def ProposalPayload.modelDump (p : ProposalPayload) : Fields :=
  [("verb", .str p.verb.value),
    ("day_offset", .int p.dayOffset),
    ("channel", .str p.channel.value),
    ("reason_code", .str p.reasonCode),
    ("note", .str p.note)]

/-- Where the copy of a message comes from. -/
inductive MessageSource where
  | llm
  | cannedFallback
  deriving DecidableEq, Repr

def MessageSource.value : MessageSource → String
  | llm => "llm"
  | cannedFallback => "canned_fallback"

def MessageSource.ofValue? (s : String) : Option MessageSource :=
  [llm, cannedFallback].find? fun m => m.value = s

structure MessageDraft where
  channel : Channel := .link
  subject : String := ""
  body : String
  source : MessageSource := .llm
  deriving DecidableEq, Repr

def MessageDraft.ofFields? (d : Fields) : Option MessageDraft := do
  let channel ← Pydantic.defaulted d "channel" .link fun v =>
    (Pydantic.str? v).bind Channel.ofValue?
  let subject ← Pydantic.defaulted d "subject" "" Pydantic.str?
  let body ← Pydantic.required d "body" Pydantic.str?
  let source ← Pydantic.defaulted d "source" .llm fun v =>
    (Pydantic.str? v).bind MessageSource.ofValue?
  return { channel, subject, body, source }

def MessageDraft.modelDump (m : MessageDraft) : Fields :=
  [("channel", .str m.channel.value),
    ("subject", .str m.subject),
    ("body", .str m.body),
    ("source", .str m.source.value)]

inductive AgentSource where
  | llm
  | rulesFallback
  deriving DecidableEq, Repr

def AgentSource.value : AgentSource → String
  | llm => "llm"
  | rulesFallback => "rules_fallback"

/-- De-identified facts sent to the model. -/
structure CaseContext where
  eventId : String := "unknown"
  caseId : Option String := none
  rawErrorReason : String
  rawErrorCode : String := ""
  rail : String := "card"
  amountBucketInr : String
  amountPaise : ℕ
  attemptNumber : ℤ := 1
  failureDom : ℤ := 15
  observedCreditDay : Option ℤ := none
  contactsUsed : ℤ := 0
  tenureDays : ℤ := 0
  allowedClasses : List String := []
  allowedVerbs : List String := []
  ragEpisodes : List Fields := []
  ragQuery : Option String := none

end RecoveryAgent.Ai
