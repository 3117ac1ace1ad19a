import RecoveryAgent.Memory.InherentClient

/-!
# Uploading a document

`upload_document`, `get_document_status` and `wait_for_document` of
`memory/inherent_client.py`. The service stores a document and indexes it later, so after an
upload its status is asked for until it is terminal or the time is over.
-/

namespace RecoveryAgent.Memory

open Library Python Ai

def normalizeStatus (status : String) : String := lower (strip status)

def isCompletedStatus (status : String) : Bool :=
  normalizeStatus status ∈ ["completed", "processed", "ready"]

def isFailedStatus (status : String) : Bool := normalizeStatus status ∈ ["failed", "error"]

structure DocumentUploadResult where
  documentId : String
  name : String
  status : String
  workspaceId : String := ""
  mimeType : String := "text/plain"
  sizeBytes : ℤ := 0
  rateLimitRemaining : Option ℤ := none

structure DocumentStatusResult where
  documentId : String
  name : String
  status : String
  chunkCount : ℤ := 0
  metadata : Fields := []

section

variable (py : Conversions)

/-- `int(v or 0)`. -/
def countOf (v : Json) : Except ClientError ℤ := (pyInt py (v.or (.int 0))).mapError .python

def parseDocumentUpload (payload : Json) : Except ClientError DocumentUploadResult :=
  match payload with
  | .obj d =>
      let docId := (Fields.item d "document_id").or (Fields.item d "id")
      if !docId.truthy then .error (.inherent "inherent_upload_missing_document_id")
      else do
        let sizeBytes ← countOf py (Fields.item d "size_bytes")
        return {
          documentId := py.textOf docId
          name := py.textOf ((Fields.item d "name").or (.str ""))
          status := py.textOf ((Fields.item d "status").or (.str "pending"))
          workspaceId := py.textOf ((Fields.item d "workspace_id").or (.str ""))
          mimeType := py.textOf ((Fields.item d "mime_type").or (.str "text/plain"))
          sizeBytes }
  | _ => .error (.inherent "inherent_upload_invalid_json")

def parseDocumentStatus (documentId : String) (payload : Json) :
    Except ClientError DocumentStatusResult :=
  match payload with
  | .obj d => do
      let chunkCount ← countOf py (Fields.item d "chunk_count")
      return {
        documentId := py.textOf
          (((Fields.item d "id").or (Fields.item d "document_id")).or (.str documentId))
        name := py.textOf ((Fields.item d "name").or (.str ""))
        status := py.textOf ((Fields.item d "status").or (.str "unknown"))
        chunkCount
        metadata := (Fields.item d "metadata").fields }
  | _ => .error (.inherent "inherent_status_invalid_json")

variable (config : InherentConfig)

def uploadDocument (service : Service) : Except ClientError DocumentUploadResult :=
  if !config.enabled then .error (.inherent "inherent_disabled")
  else do
    let (resp, data) ← fetchJson config "upload" service
    let result ← parseDocumentUpload py data
    -- a header that is no number counts as none
    match resp.rateLimitRemaining.bind py.intOfText with
    | some remaining => return { result with rateLimitRemaining := some remaining }
    | none => return result

def getDocumentStatus (documentId : String) (service : Service) :
    Except ClientError DocumentStatusResult :=
  if !config.enabled then .error (.inherent "inherent_disabled")
  else do
    let (_, data) ← fetchJson config "status" service
    parseDocumentStatus py documentId data

/-- The loop of `wait_for_document`, for as many rounds as the clock allows. -/
def waitForDocument (documentId : String) (polls : ℕ → Service) :
    (rounds poll : ℕ) → Option DocumentStatusResult → Except ClientError DocumentStatusResult
  | 0, _, last =>
      .error (.inherent
        ("inherent_processing_timeout:" ++ ((last.map (·.status)).getD "unknown")))
  | rounds + 1, poll, _ => do
      let last ← getDocumentStatus py config documentId (polls poll)
      if isCompletedStatus last.status then return last
      else if isFailedStatus last.status then
        throw (.inherent ("inherent_processing_failed:" ++ last.status))
      else waitForDocument documentId polls rounds (poll + 1) (some last)

variable {py config}

theorem completed_of_waitForDocument {documentId : String} {polls : ℕ → Service}
    {rounds poll : ℕ} {last : Option DocumentStatusResult} {final : DocumentStatusResult}
    (h : waitForDocument py config documentId polls rounds poll last = .ok final) :
    isCompletedStatus final.status = true := by
  induction rounds generalizing poll last with
  | zero => cases h
  | succ rounds ih =>
      obtain ⟨answer, -, h⟩ := bind_eq_ok h
      split at h
      · next hcompleted =>
          cases h
          exact hcompleted
      · split at h
        · cases h
        · exact ih h

/-- The text that an upload ends with whose attempts are all transient. -/
def exhaustedError (last : Except HttpError HttpResponse) : String :=
  match last with
  | .ok resp => s!"inherent_upload_http_status:{resp.statusCode}"
  | .error (.transient text) => "inherent_transport_error:" ++ text
  | .error (.other text) => s!"inherent_upload_http_error:{text}"

/-- Such an upload fails with what its last attempt was, as long as all pauses are floats. -/
theorem uploadDocument_of_transient {service : Service} {maxRetries : ℕ}
    (henabled : config.enabled = true) (hretries : config.maxRetries = maxRetries)
    (hpauses : maxRetries ≤ 1024) (h : ∀ i ≤ maxRetries, Transient (service i) = true) :
    uploadDocument py config service =
      .error (.inherent (exhaustedError (service maxRetries))) := by
  have hlast := h maxRetries le_rfl
  have hfetch : fetchJson config "upload" service =
      .error (.inherent (exhaustedError (service maxRetries))) := by
    rw [fetchJson, hretries, requestWithRetry_eq, lastAttempt_of_transient hpauses h,
      concludedAt_last]
    cases hanswer : service maxRetries with
    | error e =>
        cases e with
        | transient text => rfl
        | other text => rfl
    | ok resp =>
        rw [hanswer] at hlast
        have hcode : 400 ≤ resp.statusCode := by
          have hcodes : ∀ code ∈ retryableStatusCodes, 400 ≤ code := by decide
          exact hcodes _ (of_decide_eq_true hlast)
        simp only [concluded, if_pos hcode]
        rfl
  rw [uploadDocument, henabled, hfetch]
  rfl

/-- An upload that asks for a longer pause ends with an exception that no caller expects. -/
theorem uploadDocument_of_overflows {service : Service} {maxRetries : ℕ}
    (henabled : config.enabled = true) (hretries : config.maxRetries = maxRetries)
    (h : BackoffOverflows maxRetries service) :
    uploadDocument py config service = .error (.python .overflowError) := by
  have hfetch : fetchJson config "upload" service = .error (.python .overflowError) := by
    rw [fetchJson, hretries, requestWithRetry_of_overflows h]
  rw [uploadDocument, henabled, hfetch]
  rfl

end

end RecoveryAgent.Memory
