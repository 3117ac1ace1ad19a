import RecoveryAgent.Ledger.Writer

/-!
# Memory retrieval

The metrics of one retrieval, from `memory/rag.py`, as far as the demo shows and
stores them. The retrieval itself talks to a memory service.
-/

namespace RecoveryAgent.Memory

open Python Ledger

structure RagMetrics where
  enabled : Bool := false
  available : Bool := false
  provider : String := "inherent"
  similarCases : ℕ := 0
  retrievalLatencyMs : Option PyFloat := none
  topSimilarityScore : Option PyFloat := none
  query : Option String := none
  error : Option String := none
  usedInRecovery : Bool := false
  episodes : List Fields := []

namespace RagMetrics

def statusLabel (rag : RagMetrics) : String :=
  if !rag.enabled then "RAG DISABLED"
  else if !rag.available then "RAG UNAVAILABLE"
  else "RAG ACTIVE"

def optFloat : Option PyFloat → Json
  | none => .null
  | some x => .float x

def toPublicDict (rag : RagMetrics) : Fields :=
  [("rag_enabled", .bool (rag.enabled && rag.available)),
    ("rag_configured", .bool rag.enabled),
    ("rag_available", .bool rag.available),
    ("rag_provider", .str rag.provider),
    ("similar_cases", .int rag.similarCases),
    ("retrieval_latency_ms", optFloat rag.retrievalLatencyMs),
    ("top_similarity_score", optFloat rag.topSimilarityScore),
    ("status_label", .str rag.statusLabel),
    ("query", .ofOptStr rag.query),
    ("error", .ofOptStr rag.error),
    ("used_in_recovery", .bool rag.usedInRecovery)]

def modelDump (rag : RagMetrics) : Fields :=
  [("enabled", .bool rag.enabled),
    ("available", .bool rag.available),
    ("provider", .str rag.provider),
    ("similar_cases", .int rag.similarCases),
    ("retrieval_latency_ms", optFloat rag.retrievalLatencyMs),
    ("top_similarity_score", optFloat rag.topSimilarityScore),
    ("query", .ofOptStr rag.query),
    ("error", .ofOptStr rag.error),
    ("used_in_recovery", .bool rag.usedInRecovery),
    ("episodes", .arr (rag.episodes.map .obj))]

end RagMetrics

/-- The row of `persist_memory_retrieval`. -/
def retrievalFact (caseId : String) (rag : RagMetrics) : LedgerFact where
  caseId
  kind := .memoryRetrieval
  actor := .system
  payload := rag.modelDump
  reasonCode := "inherent_retrieval"

end RecoveryAgent.Memory
