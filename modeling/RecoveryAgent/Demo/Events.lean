import RecoveryAgent.Ai.Service
import RecoveryAgent.Execute.Razorpay
import RecoveryAgent.Memory.Rag

/-!
# What the live flow shows

The events that `iter_ai_demo_case` of `demo/live_flow.py` hands out, and the
texts it composes for them.
-/

namespace RecoveryAgent.Demo

open Python Policy Ledger Guard Execute Ai Memory

inductive Event where
  | step (key title status detail thinking : String)
  | ragMeta (similarCases : ℕ) (latencyMs : Option PyFloat) (statusLabel : String)
      (topSimilarity : Option PyFloat) (query : Option String) (chunkCount : ℕ)
  | ragChunk (index total : ℕ)
      (documentName score failureReason action outcome recoveryClass : Json)
  | reasoning (usedLlm : Bool) (source : String) (fallbackReason : Option String)
      (summary rationale likelyClass : String) (confidence : PyFloat) (verb : String)
      (dayOffset : ℕ) (proposedBy : String)
  | gate (gate label : String) (passed : Bool) (reasonCode status proposedVerb source : String)
  | done (result : Fields)

def gateLabels : List (String × String) :=
  [("prohibited_recovery", "Fraud policy"),
    ("contact_window", "Contact window"),
    ("frequency_cap", "Frequency cap"),
    ("mandate_validity", "Mandate validity"),
    ("attempt_cap", "Attempt cap"),
    ("idempotency", "Idempotency")]

def gateLabel (name : String) : String :=
  (gateLabels.lookup name).getD (name.replace "_" " ")

def gateStatus (check : GateCheck) : String := if check.passed then "passed" else "blocked"

def gatePayload (proposedVerb source : String) (check : GateCheck) : Event :=
  .gate check.name (gateLabel check.name) check.passed check.reasonCode (gateStatus check)
    proposedVerb source

/-- `int(x)`, which raises for what is not finite. -/
def intOfFloat : PyFloat → Except Failure ℤ
  | .fin q => .ok (if q < 0 then q.ceil else q.floor)
  | .nan => .error ⟨"ValueError", "cannot convert float NaN to integer"⟩
  | _ => .error ⟨"OverflowError", "cannot convert float infinity to integer"⟩

/-- The line about the retrieval. -/
def ragDetail (rag : RagMetrics) : Except Failure String := do
  let detail :=
    if rag.enabled && rag.available then toString rag.similarCases ++ " similar episodes"
    else rag.statusLabel
  match rag.retrievalLatencyMs with
  | none => return detail
  | some latency => return detail ++ " · " ++ toString (← intOfFloat latency) ++ " ms"

/-- `d.get(key)`. -/
def field (d : Fields) (key : String) : Json := (d.get? key).getD .null

def ragChunk (total i : ℕ) (ep : Fields) : Event :=
  let name :=
    if (field ep "document_name").truthy then field ep "document_name"
    else if (field ep "document_id").truthy then field ep "document_id"
    else .str ("episode_" ++ toString (i + 1))
  .ragChunk i total name (field ep "score") (field ep "failure_reason") (field ep "action")
    (field ep "outcome") (field ep "recovery_class")

def ragChunks (episodes : List Fields) : List Event :=
  episodes.mapIdx fun i ep => ragChunk episodes.length i ep

/-- `diag.rationale or diag.summary or ""`. -/
def thinking (d : Diagnosis) : String := if d.rationale = "" then d.summary else d.rationale

def reasoning (result : AgentRunResult) : Event :=
  .reasoning result.usedLlm result.source.value result.fallbackReason result.diagnosis.summary
    (thinking result.diagnosis) result.diagnosis.likelyClass result.diagnosis.confidence
    result.actionValidated.verb.value (result.actionValidated.dayOffset.getD 0)
    result.actionValidated.proposedBy.value

/-- The digits of `n` in groups of three. -/
def grouped (n : ℕ) : String :=
  if n < 1000 then toString n else grouped (n / 1000) ++ "," ++ padded 3 (n % 1000 : ℕ)
  termination_by n

/-- `f"₹{amount_paise / 100:,.2f}"`. -/
def rupees (amountPaise : ℕ) : String :=
  "₹" ++ grouped (amountPaise / 100) ++ "." ++ padded 2 (amountPaise % 100 : ℕ)

/-- `round(float(conf) * 100)`, or nothing where that raises. -/
def confidencePct : PyFloat → Option ℤ
  | .fin q => some (roundHalfEven (q * 100))
  | _ => none

def externalId (outcome : Option Outcome) : Option String :=
  (outcome.bind (·.externalId)).filter fun id => id ≠ ""

end RecoveryAgent.Demo
