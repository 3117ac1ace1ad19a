import RecoveryAgent.Library.Tally
import RecoveryAgent.Python.Values

/-!
# The manifest

`memory/manifest.py`: what became of every episode, by its id, and how many there are of each
kind. The counts are taken anew whenever an episode is recorded.
-/

namespace RecoveryAgent.Memory

open Library Python

def simulationVersion : String := "v1"

/-- A row of `data["episodes"]`, as `record_episode` writes it. -/
structure EpisodeRow where
  logicalId : String
  seed : ℤ
  caseId : String
  simulationVersion : String
  status : String
  documentId : Option String := none
  documentName : Option String := none
  error : Option String := none
  deriving DecidableEq, Repr

structure ManifestCounts where
  uploaded : ℕ := 0
  completed : ℕ := 0
  processing : ℕ := 0
  failed : ℕ := 0
  skipped : ℕ := 0
  retryExhausted : ℕ := 0
  deriving DecidableEq, Repr

abbrev EpisodeRows := AList fun _ : String => EpisodeRow

/-- `MemoryManifest.data`, as far as a run reads and writes it. -/
structure MemoryManifest where
  seeds : List ℤ := []
  casesPerSeed : ℤ := 0
  expectedEpisodes : ℤ := 0
  counts : ManifestCounts := {}
  createdAt : Option String := none
  episodes : EpisodeRows := ∅

structure EpisodeRecord where
  logicalId : String
  seed : ℤ
  caseId : String
  documentId : Option String := none
  documentName : Option String := none
  status : String
  error : Option String := none

/-- `{**existing, ...}`: what is not given, or empty, is kept. -/
def EpisodeRecord.over (record : EpisodeRecord) (existing : Option EpisodeRow) : EpisodeRow where
  logicalId := record.logicalId
  seed := record.seed
  caseId := record.caseId
  simulationVersion
  status := record.status
  documentId := (record.documentId.filter (· ≠ "")).or (existing.bind (·.documentId))
  documentName := (record.documentName.filter (· ≠ "")).or (existing.bind (·.documentName))
  error := (record.error.filter (· ≠ "")).or (existing.bind (·.error))

/-- The branches of `_recompute_counts`. -/
inductive StatusBucket where
  | skipped
  | completed
  | processing
  | failed
  | retryExhausted
  | uploadedOk
  | uncounted
  deriving DecidableEq, Repr

def statusBucket (status : String) : StatusBucket :=
  let st := lower status
  if st ∈ ["skipped"] then .skipped
  else if st ∈ ["completed", "processed"] then .completed
  else if st ∈ ["uploaded", "pending", "processing"] then .processing
  else if st ∈ ["failed", "error"] then .failed
  else if st ∈ ["retry_exhausted"] then .retryExhausted
  else if st ∈ ["uploaded_ok"] then .uploadedOk
  else .uncounted

def ManifestCounts.count (counts : ManifestCounts) : StatusBucket → ManifestCounts
  | .skipped => { counts with skipped := counts.skipped + 1 }
  | .completed =>
      { counts with completed := counts.completed + 1, uploaded := counts.uploaded + 1 }
  | .processing =>
      { counts with processing := counts.processing + 1, uploaded := counts.uploaded + 1 }
  | .failed => { counts with failed := counts.failed + 1, uploaded := counts.uploaded + 1 }
  | .retryExhausted => { counts with retryExhausted := counts.retryExhausted + 1 }
  | .uploadedOk => { counts with uploaded := counts.uploaded + 1 }
  | .uncounted => counts

/-- One round of the loop of `_recompute_counts`. -/
def ManifestCounts.countRow (counts : ManifestCounts) (row : EpisodeRow) : ManifestCounts :=
  counts.count (statusBucket row.status)

/-- `_recompute_counts`. -/
def recount (episodes : EpisodeRows) : ManifestCounts :=
  (episodes.entries.map (·.2)).foldl ManifestCounts.countRow {}

namespace MemoryManifest

def getEpisode (m : MemoryManifest) (logicalId : String) : Option EpisodeRow :=
  m.episodes.lookup logicalId

def recordEpisode (m : MemoryManifest) (record : EpisodeRecord) : MemoryManifest :=
  let episodes :=
    m.episodes.insert record.logicalId (record.over (m.episodes.lookup record.logicalId))
  { m with episodes, counts := recount episodes }

def shouldSkip (m : MemoryManifest) (logicalId : String) (resume : Bool) : Bool :=
  resume &&
    (m.getEpisode logicalId).any fun row =>
      lower row.status ∈ ["completed", "processed", "skipped"]

/-- `init_run`, at the time `now`: a manifest is started over when it is asked for, or when it
was never started. -/
def initRun (m : MemoryManifest) (now : DateTime) (seeds : List ℤ) (casesPerSeed : ℤ)
    (force : Bool) : MemoryManifest :=
  let m : MemoryManifest :=
    if force || m.createdAt.getD "" = "" then { createdAt := some (isoformat now) } else m
  { m with seeds, casesPerSeed, expectedEpisodes := seeds.length * casesPerSeed }

/-!
## What a record changes
-/

variable (m : MemoryManifest) (record : EpisodeRecord)

theorem getEpisode_recordEpisode :
    (m.recordEpisode record).getEpisode record.logicalId =
      some (record.over (m.getEpisode record.logicalId)) :=
  AList.lookup_insert _

theorem getEpisode_recordEpisode_ne {logicalId : String} (h : logicalId ≠ record.logicalId) :
    (m.recordEpisode record).getEpisode logicalId = m.getEpisode logicalId :=
  AList.lookup_insert_ne h

variable (now : DateTime) (seeds : List ℤ) (casesPerSeed : ℤ)

/-- A run keeps what a started manifest has, unless it is told to start over. -/
theorem initRun_of_started (h : m.createdAt.getD "" ≠ "") :
    m.initRun now seeds casesPerSeed false =
      { m with seeds, casesPerSeed, expectedEpisodes := seeds.length * casesPerSeed } := by
  simp [initRun, h]

/-- Otherwise nothing is left of what it had. -/
theorem initRun_of_restart {force : Bool} (h : force = true ∨ m.createdAt.getD "" = "") :
    m.initRun now seeds casesPerSeed force =
      { seeds, casesPerSeed, expectedEpisodes := seeds.length * casesPerSeed,
        createdAt := some (isoformat now) } := by
  have hempty : (force || m.createdAt.getD "" = "") = true := by
    rcases h with rfl | h <;> simp [*]
  rw [initRun, hempty]
  rfl

/-- A manifest is started by its first run. -/
theorem createdAt_initRun (force : Bool) :
    (m.initRun now seeds casesPerSeed force).createdAt.getD "" ≠ "" := by
  by_cases h : force = true ∨ m.createdAt.getD "" = ""
  · rw [initRun_of_restart m now seeds casesPerSeed h]
    exact isoformat_ne_empty now
  · obtain ⟨hforce, hstarted⟩ := not_or.1 h
    rw [Bool.not_eq_true] at hforce
    rw [hforce, initRun_of_started m now seeds casesPerSeed hstarted]
    exact hstarted

end MemoryManifest

/-!
## What is counted
-/

def countsCompleted (status : String) : Bool := statusBucket status = .completed

/-- The statuses that count as uploaded: also of what is on its way, and of what failed with
anything but exhausted retries. -/
def countsUploaded (status : String) : Bool :=
  statusBucket status ∈
    [StatusBucket.completed, StatusBucket.processing, StatusBucket.failed, StatusBucket.uploadedOk]

theorem countRow_eq (counts : ManifestCounts) (row : EpisodeRow) :
    (counts.countRow row).completed =
        counts.completed + (if countsCompleted row.status then 1 else 0) ∧
      (counts.countRow row).uploaded =
        counts.uploaded + (if countsUploaded row.status then 1 else 0) := by
  unfold ManifestCounts.countRow countsCompleted countsUploaded
  cases statusBucket row.status <;> simp [ManifestCounts.count]

theorem recount_eq (episodes : EpisodeRows) :
    (recount episodes).completed =
        Tally.tally (fun row => countsCompleted row.status) episodes ∧
      (recount episodes).uploaded =
        Tally.tally (fun row => countsUploaded row.status) episodes := by
  have hloop : ∀ (rows : List EpisodeRow) (counts : ManifestCounts),
      (rows.foldl ManifestCounts.countRow counts).completed =
          counts.completed + rows.countP (fun row => countsCompleted row.status) ∧
        (rows.foldl ManifestCounts.countRow counts).uploaded =
          counts.uploaded + rows.countP (fun row => countsUploaded row.status) := by
    intro rows
    induction rows with
    | nil => exact fun counts => ⟨rfl, rfl⟩
    | cons row rows ih =>
        intro counts
        obtain ⟨hcompleted, huploaded⟩ := ih (counts.countRow row)
        rw [List.foldl_cons, hcompleted, huploaded, (countRow_eq counts row).1,
          (countRow_eq counts row).2, List.countP_cons, List.countP_cons]
        omega
  obtain ⟨hcompleted, huploaded⟩ := hloop (episodes.entries.map (·.2)) {}
  rw [recount, hcompleted, huploaded, List.countP_map, List.countP_map, Tally.tally, Tally.tally]
  simp only [Function.comp_def, Nat.zero_add, and_self]

theorem countRow_comm (counts : ManifestCounts) (row row' : EpisodeRow) :
    (counts.countRow row).countRow row' = (counts.countRow row').countRow row := by
  unfold ManifestCounts.countRow
  cases statusBucket row.status <;> cases statusBucket row'.status <;> rfl

/-- The counts do not depend on the order of the rows. -/
theorem recount_of_lookup {episodes episodes' : EpisodeRows}
    (h : ∀ logicalId, episodes.lookup logicalId = episodes'.lookup logicalId) :
    recount episodes = recount episodes' := by
  have hperm : episodes.entries.Perm episodes'.entries := by
    apply List.lookup_ext episodes.nodupKeys episodes'.nodupKeys
    intro logicalId row
    exact Iff.of_eq (congrArg (row ∈ ·) (h logicalId))
  have : RightCommutative ManifestCounts.countRow := ⟨countRow_comm⟩
  unfold recount
  exact (hperm.map _).foldl_eq _

end RecoveryAgent.Memory
