import RecoveryAgent.Memory.Corpus
import RecoveryAgent.Memory.Documents
import RecoveryAgent.Memory.Manifest

/-!
# A seeding pass

`_seed_async` of `memory/seed.py`. First the manifest is started over, when it is asked for or
the manifest was never started. Then all episodes start one after the other, before anything
comes from the network: those that the manifest has are recorded as skipped, the others are
uploaded. The uploads end in any order, and each of them is recorded when it ends. An upload
whose attempts are used up should be told from one that failed.
-/

namespace RecoveryAgent.Memory

open Python Library

/-- The arguments that a pass over given episodes starts the manifest with. -/
structure SeedArgs where
  seeds : List ℤ
  n : ℤ
  force : Bool := false

/-- The manifest that a pass goes on with. -/
def SeedArgs.started (args : SeedArgs) (now : DateTime) (m : MemoryManifest) : MemoryManifest :=
  m.initRun now args.seeds args.n args.force

/-- What the service answers to the upload of one episode, and to the questions for its status
that come before the deadline. -/
structure EpisodeNetwork where
  upload : Service
  polls : ℕ → Service := fun _ _ => .error (.other "")
  rounds : ℕ := 0

/-- What `_upload_episode` returns, without the time it took. -/
structure UploadedEpisode where
  documentId : String
  documentName : String
  status : String
  rateLimitRemaining : Option ℤ := none

section

variable (py : Conversions) (config : InherentConfig)

/-- `_upload_episode`, with `poll`. The text of the document is for the service alone. -/
def uploadEpisode (network : EpisodeNetwork) (episode : PaymentEpisode) :
    Except ClientError UploadedEpisode := do
  let upload ← uploadDocument py config network.upload
  let final ← waitForDocument py config upload.documentId network.polls network.rounds 0 none
  return {
    documentId := upload.documentId
    documentName := if upload.name = "" then uploadName episode else upload.name
    status := final.status
    rateLimitRemaining := upload.rateLimitRemaining }

def skippedRecord (episode : PaymentEpisode) : EpisodeRecord where
  logicalId := episode.episodeId
  seed := episode.seed.getD 0
  caseId := episode.caseId.getD ""
  status := "skipped"

def uploadedRecord (episode : PaymentEpisode) (result : UploadedEpisode) : EpisodeRecord where
  logicalId := episode.episodeId
  seed := episode.seed.getD 0
  caseId := episode.caseId.getD ""
  documentId := some result.documentId
  documentName := some result.documentName
  status := if isCompletedStatus result.status then "completed" else result.status

/-- The record of an upload that ends with an `InherentClientError`. -/
def failedRecord (episode : PaymentEpisode) (err : String) : EpisodeRecord where
  logicalId := episode.episodeId
  seed := episode.seed.getD 0
  caseId := episode.caseId.getD ""
  status := if hasText "exhausted" err then "retry_exhausted" else "failed"
  error := some err

/-- What `_one` records at the end of an upload. Any other exception ends the pass. -/
def finishRecord (episode : PaymentEpisode) (network : EpisodeNetwork) :
    Except ClientError EpisodeRecord :=
  match uploadEpisode py config network episode with
  | .ok result => .ok (uploadedRecord episode result)
  | .error (.inherent err) => .ok (failedRecord episode err)
  | .error e => .error e

/-- The end of `_one` for an episode that is uploaded. -/
def finishEpisode (m : MemoryManifest) (episode : PaymentEpisode) (network : EpisodeNetwork) :
    Except ClientError MemoryManifest := do
  let record ← finishRecord py config episode network
  return m.recordEpisode record

/-- How all episodes start: the manifest then, and the episodes that are uploaded. -/
def startEpisodes (resume : Bool) :
    MemoryManifest → List PaymentEpisode → MemoryManifest × List PaymentEpisode
  | m, [] => (m, [])
  | m, episode :: episodes =>
      if m.shouldSkip episode.episodeId resume then
        startEpisodes resume (m.recordEpisode (skippedRecord episode)) episodes
      else
        ((startEpisodes resume m episodes).1, episode :: (startEpisodes resume m episodes).2)

/-- How the uploads end, in the order in which they do. -/
def finishEpisodes :
    MemoryManifest → List (PaymentEpisode × EpisodeNetwork) → Except ClientError MemoryManifest
  | m, [] => .ok m
  | m, (episode, network) :: finishes => do
      let m ← finishEpisode py config m episode network
      finishEpisodes m finishes

/-- All episodes, whose uploads end in the order of `finishes`. -/
def seedEpisodes (resume : Bool) (m : MemoryManifest) (episodes : List PaymentEpisode)
    (finishes : List (PaymentEpisode × EpisodeNetwork)) : Except ClientError MemoryManifest :=
  finishEpisodes py config (startEpisodes resume m episodes).1 finishes

/-- A pass of `_seed_async` at the time `now`: the manifest that it saves. -/
def seedPass (resume : Bool) (args : SeedArgs) (now : DateTime) (m : MemoryManifest)
    (episodes : List PaymentEpisode) (finishes : List (PaymentEpisode × EpisodeNetwork)) :
    Except ClientError MemoryManifest :=
  let m := args.started now m
  -- an error is printed, and nothing is saved
  if !config.enabled then .error (.inherent "ERROR: INHERENT_ENABLED must be true for seeding")
  else seedEpisodes py config resume m episodes finishes

/-- The uploads that end are those that were started. -/
def Finishes (resume : Bool) (m : MemoryManifest) (episodes : List PaymentEpisode)
    (finishes : List (PaymentEpisode × EpisodeNetwork)) : Prop :=
  (finishes.map Prod.fst).Perm (startEpisodes resume m episodes).2

end

/-!
## Exhausted retries
-/

/-- `"exhausted"` is looked for in a text that may be the service's own. -/
theorem hasText_exhausted_transport (text : String) :
    hasText "exhausted" ("inherent_transport_error:" ++ text) = hasText "exhausted" text := by
  have hsplit : ("inherent_transport_error:" ++ text).toList =
      "inherent_transport_error".toList ++ ':' :: text.toList := by simp
  have hbefore : ¬"exhausted".toList <:+: "inherent_transport_error".toList := by decide
  have hsep : ':' ∉ "exhausted".toList := by decide
  unfold hasText
  rw [hsplit, decide_eq_decide, infix_at_separator hsep]
  exact or_iff_right hbefore

theorem hasText_exhausted_status {code : ℤ} (h : code ∈ retryableStatusCodes) :
    hasText "exhausted" s!"inherent_upload_http_status:{code}" = false := by
  revert code
  decide

section

variable {py : Conversions} {config : InherentConfig} {maxRetries : ℕ}
  {network : EpisodeNetwork}

/-- The text that an upload ends with whose attempts are all transient names exhausted retries
exactly when the last connection error does. -/
theorem exhausted_named_iff (h : Transient (network.upload maxRetries) = true) {err : String}
    (herr : err = exhaustedError (network.upload maxRetries)) :
    hasText "exhausted" err = true ↔
      ∃ text, network.upload maxRetries = .error (.transient text) ∧
        hasText "exhausted" text = true := by
  rw [herr]
  cases hanswer : network.upload maxRetries with
  | ok resp =>
      rw [hanswer] at h
      have hcode : resp.statusCode ∈ retryableStatusCodes := of_decide_eq_true h
      have hunnamed : hasText "exhausted" (exhaustedError (.ok resp)) = false :=
        hasText_exhausted_status hcode
      rw [hunnamed]
      exact iff_of_false Bool.false_ne_true fun ⟨text, hsame, _⟩ => nomatch hsame
  | error e =>
      cases e with
      | transient text =>
          have hnamed : hasText "exhausted" (exhaustedError (.error (.transient text))) =
              hasText "exhausted" text := hasText_exhausted_transport text
          rw [hnamed]
          constructor
          · exact fun hnamed => ⟨text, rfl, hnamed⟩
          · rintro ⟨text, ⟨⟩, hnamed⟩
            exact hnamed
      | other text =>
          rw [hanswer] at h
          cases h

variable (henabled : config.enabled = true) (hretries : config.maxRetries = maxRetries)
  (m : MemoryManifest) (episode : PaymentEpisode)

include henabled hretries

/-- An upload whose attempts are all transient is recorded with the text of its last one, as
long as all pauses are floats. -/
theorem finishEpisode_of_transient (hpauses : maxRetries ≤ 1024)
    (h : ∀ i ≤ maxRetries, Transient (network.upload i) = true) :
    finishEpisode py config m episode network = .ok (m.recordEpisode
      (failedRecord episode (exhaustedError (network.upload maxRetries)))) := by
  rw [finishEpisode, finishRecord, uploadEpisode,
    uploadDocument_of_transient henabled hretries hpauses h]
  rfl

/-- An upload that asks for a longer pause is not recorded, and ends the pass. -/
theorem finishEpisode_of_overflows (h : BackoffOverflows maxRetries network.upload) :
    finishEpisode py config m episode network = .error (.python .overflowError) := by
  rw [finishEpisode, finishRecord, uploadEpisode,
    uploadDocument_of_overflows henabled hretries h]
  rfl

/-- An upload whose attempts are all transient is recorded as exhausted exactly when its last
attempt is a connection error that has the word in its text, and its pauses are floats. -/
theorem recorded_exhausted_iff (h : ∀ i ≤ maxRetries, Transient (network.upload i) = true) :
    (∃ m' row, finishEpisode py config m episode network = .ok m' ∧
      m'.getEpisode episode.episodeId = some row ∧ row.status = "retry_exhausted") ↔
    maxRetries ≤ 1024 ∧ ∃ text, network.upload maxRetries = .error (.transient text) ∧
      hasText "exhausted" text = true := by
  rcases lt_or_ge 1024 maxRetries with hlong | hpauses
  · have hover : BackoffOverflows maxRetries network.upload :=
      ⟨by exact_mod_cast hlong, fun i hi => h i (by omega)⟩
    rw [finishEpisode_of_overflows henabled hretries m episode hover]
    exact iff_of_false nofun fun h => absurd h.1 (not_le.2 hlong)
  rw [finishEpisode_of_transient henabled hretries m episode hpauses h,
    ← exhausted_named_iff (h maxRetries le_rfl) rfl, and_iff_right hpauses]
  have hrow := m.getEpisode_recordEpisode
    (failedRecord episode (exhaustedError (network.upload maxRetries)))
  constructor
  · rintro ⟨m', row, hm', hfound, hstatus⟩
    cases hm'
    change (m.recordEpisode (failedRecord episode _)).getEpisode episode.episodeId = _ at hrow
    rw [hrow] at hfound
    cases hfound
    by_contra hnamed
    simp only [EpisodeRecord.over, failedRecord, if_neg hnamed] at hstatus
    exact absurd hstatus (by decide)
  · intro hnamed
    refine ⟨_, _, rfl, hrow, ?_⟩
    simp only [EpisodeRecord.over, failedRecord, if_pos hnamed]

omit henabled in
/-- The first response that is not to be repeated is returned exactly when it comes before a
pause that is no float. -/
theorem first_returned_iff {i : ℕ} (hi : i ≤ maxRetries) {resp : HttpResponse}
    (hresp : network.upload i = .ok resp) (hcode : resp.statusCode ∉ retryableStatusCodes)
    (hbefore : ∀ j < i, Transient (network.upload j) = true) :
    (requestWithRetry config.maxRetries network.upload).1 = .ok resp ↔ i ≤ 1024 := by
  rw [hretries]
  rcases lt_or_ge 1024 i with hlate | hpauses
  · have hover : BackoffOverflows maxRetries network.upload :=
      ⟨by omega, fun j hj => hbefore j (by omega)⟩
    rw [requestWithRetry_of_overflows hover]
    exact iff_of_false nofun (not_le.2 hlate)
  · exact iff_of_true (requestWithRetry_of_first hi hpauses hbefore hresp hcode) hpauses

/-- When exhausted retries are reported as such. A call makes at most one request more than it
may be repeated, and returns the first response that is not to be repeated; and an upload
whose attempts are all transient is recorded as exhausted, exactly when that response comes
among the first 1025, and all of the attempts are at most so many and the last one is a
connection error that has the word in its text. -/
theorem exhausted_retries_reported_iff (py : Conversions) (network : EpisodeNetwork) :
    ((requestWithRetry config.maxRetries network.upload).2 ≤ maxRetries + 1 ∧
      (∀ i ≤ maxRetries, ∀ resp, network.upload i = .ok resp →
        resp.statusCode ∉ retryableStatusCodes →
        (∀ j < i, Transient (network.upload j) = true) →
        (requestWithRetry config.maxRetries network.upload).1 = .ok resp) ∧
      ((∀ i ≤ maxRetries, Transient (network.upload i) = true) →
        ∃ m' row, finishEpisode py config m episode network = .ok m' ∧
          m'.getEpisode episode.episodeId = some row ∧ row.status = "retry_exhausted")) ↔
    ((∀ i ≤ maxRetries, ∀ resp, network.upload i = .ok resp →
        resp.statusCode ∉ retryableStatusCodes →
        (∀ j < i, Transient (network.upload j) = true) → i ≤ 1024) ∧
      ((∀ i ≤ maxRetries, Transient (network.upload i) = true) →
        maxRetries ≤ 1024 ∧ ∃ text, network.upload maxRetries = .error (.transient text) ∧
          hasText "exhausted" text = true)) := by
  have hcount : (requestWithRetry config.maxRetries network.upload).2 ≤ maxRetries + 1 :=
    hretries ▸ requestWithRetry_count_le maxRetries network.upload
  rw [and_iff_right hcount]
  apply and_congr
  · exact forall₅_congr fun i hi resp hresp hcode =>
      forall_congr' fun hbefore => first_returned_iff hretries hi hresp hcode hbefore
  · exact forall_congr' (recorded_exhausted_iff henabled hretries m episode)

end

/-- Texts of simple values, and no text that is a number. -/
def bareTexts : Conversions where
  textOf v := v.text?.getD "None"
  textOf_eq := Json.getD_text?_eq
  intOfText _ := none
  errorText _ := ""

/-- A failed payment of a simulated batch. -/
def timeoutEpisode : PaymentEpisode where
  episodeId := "recovery_v1_seed42_sim_42_0001"
  caseId := some "sim_42_0001"
  seed := some 42
  amountPaise := 49900
  failureReason := .gatewayTimeout
  recoveryClass := .retryFixable
  action := "schedule_retry"
  outcome := .failed
  dataSource := .syntheticSimulation
  amount_nonneg := by decide
  attempt_pos := by decide
  recovered_nonneg := by decide
  net_nonneg net h := by cases h
  delay_nonneg delay h := by cases h

/-- The connection is refused once and then times out, for as long as it is tried. -/
def deadNetwork : EpisodeNetwork where
  upload i := .error (.transient (if i = 0 then "connection refused" else "pool exhausted"))

/-- The service is never there. -/
def unavailableNetwork : EpisodeNetwork where
  upload _ := .ok ⟨503, .error .valueError, none⟩

/-- Two attempts, of which the last one has the word in its text. -/
theorem exhausted_retries_reported_iff_dead :
    ((requestWithRetry 1 deadNetwork.upload).2 ≤ 1 + 1 ∧
      (∀ i ≤ 1, ∀ resp, deadNetwork.upload i = .ok resp →
        resp.statusCode ∉ retryableStatusCodes →
        (∀ j < i, Transient (deadNetwork.upload j) = true) →
        (requestWithRetry 1 deadNetwork.upload).1 = .ok resp) ∧
      ((∀ i ≤ 1, Transient (deadNetwork.upload i) = true) →
        ∃ m' row, finishEpisode bareTexts ⟨true, "key", 1⟩ {} timeoutEpisode deadNetwork =
            .ok m' ∧
          m'.getEpisode timeoutEpisode.episodeId = some row ∧
          row.status = "retry_exhausted")) ↔
    ((∀ i ≤ 1, ∀ resp, deadNetwork.upload i = .ok resp →
        resp.statusCode ∉ retryableStatusCodes →
        (∀ j < i, Transient (deadNetwork.upload j) = true) → i ≤ 1024) ∧
      ((∀ i ≤ 1, Transient (deadNetwork.upload i) = true) →
        1 ≤ 1024 ∧ ∃ text, deadNetwork.upload 1 = .error (.transient text) ∧
          hasText "exhausted" text = true)) :=
  have hconfig : (⟨true, "key", 1⟩ : InherentConfig).enabled = true := rfl
  exhausted_retries_reported_iff hconfig rfl {} timeoutEpisode bareTexts deadNetwork

/-- Without a second attempt, a service that is not there leaves a failed upload. -/
theorem unavailable_upload_failed :
    (∀ i ≤ 0, Transient (unavailableNetwork.upload i) = true) ∧
      ∃ m' row, finishEpisode bareTexts ⟨true, "key", 0⟩ {} timeoutEpisode unavailableNetwork =
          .ok m' ∧
        m'.getEpisode timeoutEpisode.episodeId = some row ∧ row.status = "failed" ∧
        row.status ≠ "retry_exhausted" := by
  have htransient : ∀ i ≤ 0, Transient (unavailableNetwork.upload i) = true := fun _ _ => rfl
  have hconfig : (⟨true, "key", 0⟩ : InherentConfig).enabled = true := rfl
  refine ⟨htransient, _, _,
    finishEpisode_of_transient hconfig rfl {} timeoutEpisode (Nat.zero_le _) htransient,
    MemoryManifest.getEpisode_recordEpisode _ _, ?_, ?_⟩
  · decide
  · decide

end RecoveryAgent.Memory
