import RecoveryAgent.Library.Latest
import RecoveryAgent.Memory.Seed

/-!
# Resuming a pass

A pass records the episodes that it skips, and then every upload as it ends; so of all
records of an episode the latest decides. Skipping is a record too: it takes a completed
episode out of the counts.
-/

namespace RecoveryAgent.Memory

open Python Library

namespace MemoryManifest

/-- The recorded status of an episode. -/
def status (m : MemoryManifest) (logicalId : String) : Option String :=
  (m.getEpisode logicalId).map (·.status)

/-- One record after the other. -/
def recordAll (m : MemoryManifest) (records : List EpisodeRecord) : MemoryManifest :=
  records.foldl recordEpisode m

end MemoryManifest

def latestRecord (records : List EpisodeRecord) : String → Option EpisodeRecord :=
  latest (fun record => some record.logicalId) (fun record => record) records

def latestStatus (records : List EpisodeRecord) : String → Option String :=
  latest (fun record => some record.logicalId) (·.status) records

/-!
## One record after the other
-/

section

variable (m : MemoryManifest) (records : List EpisodeRecord) (logicalId : String)

theorem status_recordEpisode (record : EpisodeRecord) :
    (m.recordEpisode record).status logicalId =
      if record.logicalId = logicalId then some record.status else m.status logicalId := by
  unfold MemoryManifest.status
  split
  · next h =>
      rw [← h, m.getEpisode_recordEpisode record]
      rfl
  · next h => rw [m.getEpisode_recordEpisode_ne record (Ne.symm h)]

/-- The latest record decides the status. -/
theorem status_recordAll :
    (m.recordAll records).status logicalId =
      (latestStatus records logicalId).or (m.status logicalId) := by
  induction records using List.reverseRecOn with
  | nil => rfl
  | append_singleton records record ih =>
      rw [MemoryManifest.recordAll, List.foldl_append, List.foldl_cons, List.foldl_nil,
        status_recordEpisode, latestStatus, latest_concat]
      by_cases h : record.logicalId = logicalId
      · rw [if_pos h, if_pos (congrArg some h)]
        rfl
      · rw [if_neg h, if_neg (by simpa using h)]
        exact ih

theorem counts_recordAll (h : records ≠ []) :
    (m.recordAll records).counts = recount (m.recordAll records).episodes := by
  obtain ⟨records, record, rfl⟩ := (List.eq_nil_or_concat' records).resolve_left h
  rw [MemoryManifest.recordAll, List.foldl_append, List.foldl_cons, List.foldl_nil]
  rfl

variable {records}

/-- Records that bring nothing but a status change a row as the latest of them does. -/
theorem getEpisode_recordAll_of_bare
    (hbare : ∀ record ∈ records, record.documentId = none ∧ record.documentName = none ∧
      record.error = none) :
    (m.recordAll records).getEpisode logicalId =
      match latestRecord records logicalId with
      | none => m.getEpisode logicalId
      | some record => some (record.over (m.getEpisode logicalId)) := by
  induction records using List.reverseRecOn with
  | nil => rfl
  | append_singleton records record ih =>
      have hrest := ih fun r hr => hbare r (List.mem_append_left _ hr)
      rw [MemoryManifest.recordAll, List.foldl_append, List.foldl_cons, List.foldl_nil,
        latestRecord, latest_concat]
      change ((m.recordAll records).recordEpisode record).getEpisode logicalId = _
      by_cases h : record.logicalId = logicalId
      · rw [if_pos (congrArg some h)]
        subst h
        rw [MemoryManifest.getEpisode_recordEpisode, hrest]
        cases hlatest : latestRecord records record.logicalId with
        | none => rfl
        | some earlier =>
            obtain ⟨r, hr, -, hsame⟩ := exists_of_latest _ _ hlatest
            obtain ⟨hid, hname, herror⟩ := hbare r (List.mem_append_left _ hr)
            subst hsame
            simp [EpisodeRecord.over, hid, hname, herror]
      · rw [if_neg (by simpa using h), MemoryManifest.getEpisode_recordEpisode_ne _ _ (Ne.symm h)]
        exact hrest

end

/-!
## What a pass records
-/

def isSkipped (status : String) : Bool := lower status ∈ ["completed", "processed", "skipped"]

theorem shouldSkip_eq (m : MemoryManifest) (logicalId : String) :
    m.shouldSkip logicalId true = (m.status logicalId).any isSkipped := by
  unfold MemoryManifest.shouldSkip MemoryManifest.status
  cases m.getEpisode logicalId <;> rfl

theorem shouldSkip_skippedRecord {m : MemoryManifest} {episode : PaymentEpisode}
    (h : m.shouldSkip episode.episodeId true = true) (logicalId : String) :
    (m.recordEpisode (skippedRecord episode)).shouldSkip logicalId true =
      m.shouldSkip logicalId true := by
  rw [shouldSkip_eq, shouldSkip_eq, status_recordEpisode]
  split
  · next hsame =>
      rw [shouldSkip_eq] at h
      change episode.episodeId = logicalId at hsame
      have hagain : isSkipped "skipped" = true := by decide
      rw [← hsame, h, Option.any_some]
      exact hagain
  · rfl

/-- The episodes that a pass skips, and those that it uploads. -/
def skipped (m : MemoryManifest) (episodes : List PaymentEpisode) : List PaymentEpisode :=
  episodes.filter fun episode => m.shouldSkip episode.episodeId true

def launched (m : MemoryManifest) (episodes : List PaymentEpisode) : List PaymentEpisode :=
  episodes.filter fun episode => !m.shouldSkip episode.episodeId true

/-- The manifest at the start decides of every episode whether it is skipped. -/
theorem startEpisodes_eq (m : MemoryManifest) (episodes : List PaymentEpisode) :
    startEpisodes true m episodes =
      (m.recordAll ((skipped m episodes).map skippedRecord), launched m episodes) := by
  induction episodes generalizing m with
  | nil => rfl
  | cons episode episodes ih =>
      rw [startEpisodes]
      by_cases h : m.shouldSkip episode.episodeId true = true
      · rw [if_pos h, ih]
        simp only [skipped, launched, List.filter_cons, h, shouldSkip_skippedRecord h, if_true,
          Bool.not_true, Bool.false_eq_true, if_false]
        rfl
      · rw [if_neg h, ih]
        rw [Bool.not_eq_true] at h
        simp only [skipped, launched, List.filter_cons, h, if_true, Bool.not_false,
          Bool.false_eq_true, if_false]

section

variable {py : Conversions} {config : InherentConfig} {m m' : MemoryManifest}
  {episodes : List PaymentEpisode} {finishes : List (PaymentEpisode × EpisodeNetwork)}

/-- The uploads that end are recorded one after the other. -/
theorem finishEpisodes_eq_ok (h : finishEpisodes py config m finishes = .ok m') :
    ∃ records, m' = m.recordAll records ∧
      List.Forall₂ (fun p record => finishRecord py config p.1 p.2 = .ok record) finishes
        records := by
  induction finishes generalizing m with
  | nil =>
      cases h
      exact ⟨[], rfl, List.Forall₂.nil⟩
  | cons p finishes ih =>
      obtain ⟨next, hnext, h⟩ := bind_eq_ok h
      obtain ⟨record, hrecord, hnext⟩ := bind_eq_ok hnext
      cases hnext
      obtain ⟨records, hm', hrecords⟩ := ih h
      exact ⟨record :: records, hm', List.Forall₂.cons hrecord hrecords⟩

theorem logicalId_finishRecord {episode : PaymentEpisode} {network : EpisodeNetwork}
    {record : EpisodeRecord} (h : finishRecord py config episode network = .ok record) :
    record.logicalId = episode.episodeId := by
  unfold finishRecord at h
  split at h
  · cases h
    rfl
  · cases h
    rfl
  · cases h

/-- A pass records what it skips, and then what comes of the uploads. -/
theorem seedEpisodes_eq_ok (h : seedEpisodes py config true m episodes finishes = .ok m') :
    ∃ records, m' = m.recordAll ((skipped m episodes).map skippedRecord ++ records) ∧
      List.Forall₂ (fun p record => finishRecord py config p.1 p.2 = .ok record) finishes
        records := by
  rw [seedEpisodes, startEpisodes_eq] at h
  obtain ⟨records, hm', hrecords⟩ := finishEpisodes_eq_ok h
  refine ⟨records, ?_, hrecords⟩
  rw [hm', MemoryManifest.recordAll, MemoryManifest.recordAll, MemoryManifest.recordAll,
    List.foldl_append]

variable (py config)

/-- The status that an upload is recorded with. -/
def endStatus (p : PaymentEpisode × EpisodeNetwork) : Option String :=
  match finishRecord py config p.1 p.2 with
  | .ok record => some record.status
  | .error _ => none

/-- The status that the last upload of an episode is recorded with. -/
def lastStatus (finishes : List (PaymentEpisode × EpisodeNetwork)) (logicalId : String) :
    Option String :=
  (latest (fun p => some p.1.episodeId) (endStatus py config) finishes logicalId).join

end

section

variable {py : Conversions} {config : InherentConfig} {m m' : MemoryManifest}
  {episodes : List PaymentEpisode} {finishes : List (PaymentEpisode × EpisodeNetwork)}

theorem lastStatus_eq {records : List EpisodeRecord}
    (h : List.Forall₂ (fun p record => finishRecord py config p.1 p.2 = .ok record) finishes
      records) (logicalId : String) :
    lastStatus py config finishes logicalId = latestStatus records logicalId := by
  have hsame : latest (fun p => some p.1.episodeId) (endStatus py config) finishes =
      latest (fun record : EpisodeRecord => some record.logicalId)
        (fun record => some record.status) records := by
    refine latest_congr _ _ (h.imp fun p record hrecord => ⟨?_, ?_⟩)
    · rw [logicalId_finishRecord hrecord]
    · rw [endStatus, hrecord]
  rw [lastStatus, hsame, latestStatus, latest_eq_find?, latest_eq_find?]
  cases records.reverse.find? _ <;> rfl

theorem latestStatus_skipped (logicalId : String) :
    latestStatus ((skipped m episodes).map skippedRecord) logicalId =
      if ∃ episode ∈ skipped m episodes, episode.episodeId = logicalId then some "skipped"
      else none := by
  rw [latestStatus, latest_map]
  split
  · next h =>
      obtain ⟨episode, hepisode, hid⟩ := h
      cases hlatest : latest (fun e => some (skippedRecord e).logicalId)
          (fun e => (skippedRecord e).status) (skipped m episodes) logicalId with
      | none =>
          exact absurd (congrArg some hid) ((latest_eq_none_iff _ _).1 hlatest episode hepisode)
      | some status =>
          obtain ⟨e, -, -, hstatus⟩ := exists_of_latest _ _ hlatest
          exact congrArg some hstatus.symm
  · next h =>
      rw [latest_eq_none_iff]
      exact fun e he hid => h ⟨e, he, Option.some.inj hid⟩

/-- The status that a pass leaves: that of the last upload, or `skipped`, or what it was. -/
theorem status_seedEpisodes (h : seedEpisodes py config true m episodes finishes = .ok m')
    (logicalId : String) :
    m'.status logicalId =
      (lastStatus py config finishes logicalId).or
        (if ∃ episode ∈ skipped m episodes, episode.episodeId = logicalId then some "skipped"
        else m.status logicalId) := by
  obtain ⟨records, rfl, hrecords⟩ := seedEpisodes_eq_ok h
  rw [status_recordAll, latestStatus, latest_append]
  change ((latestStatus records logicalId).or
    (latestStatus ((skipped m episodes).map skippedRecord) logicalId)).or _ = _
  rw [← lastStatus_eq hrecords, latestStatus_skipped, Option.or_assoc]
  split <;> rfl

end

/-!
## What a resumed pass keeps
-/

section

variable (py : Conversions) (config : InherentConfig) (args : SeedArgs) (now : DateTime)
  (m : MemoryManifest) (episodes : List PaymentEpisode)
  (finishes : List (PaymentEpisode × EpisodeNetwork))

/-- The pass starts the manifest over. -/
def SeedArgs.Restarts : Prop := args.force = true ∨ m.createdAt.getD "" = ""

def Uploads (p : PaymentEpisode × EpisodeNetwork) : Prop :=
  ∃ result, uploadEpisode py config p.2 p.1 = .ok result

/-- Resuming changes nothing that is finished: no status of a completed episode, no upload of
one, no count for the worse; and nothing at all when it follows a pass whose uploads all
succeeded. -/
structure ResumeKeeps (m' : MemoryManifest) : Prop where
  statuses : ∀ logicalId status, m.status logicalId = some status →
    countsCompleted status = true → m'.status logicalId = some status
  notAgain : ∀ p ∈ finishes, ∀ status, m.status p.1.episodeId = some status →
    countsCompleted status = false
  uploaded : m.counts.uploaded ≤ m'.counts.uploaded
  completed : m.counts.completed ≤ m'.counts.completed
  again : (∀ p ∈ finishes, Uploads py config p) → ∀ now' finishes' m'',
    Finishes true (args.started now' m') episodes finishes' →
    seedPass py config true args now' m' episodes finishes' = .ok m'' →
    (∀ logicalId, m''.getEpisode logicalId = m'.getEpisode logicalId) ∧ m''.counts = m'.counts

/-- The ids of the episodes that are uploaded. -/
def finishedIds : Finset String := (finishes.map (·.1.episodeId)).toFinset

/-- How many of them have a status of a kind. -/
def finishedWith (kind : String → Bool) (status : String → Option String) : ℕ :=
  ((finishedIds finishes).filter fun logicalId => (status logicalId).any kind).card

/-- When a resumed pass keeps what is finished: no completed episode is listed, nor is there
one at all where the manifest is started over; the counts that the manifest has are reached
again by the rows that the pass goes on with, with those of the uploads in place of what they
were; and an upload fails or there is none. -/
structure NothingFinished : Prop where
  fresh : ∀ episode ∈ episodes, ∀ status, m.status episode.episodeId = some status →
    countsCompleted status = false
  kept : args.Restarts m → ∀ logicalId status, m.status logicalId = some status →
    countsCompleted status = false
  idle : episodes = [] → m.counts.uploaded ≤ (args.started now m).counts.uploaded ∧
    m.counts.completed ≤ (args.started now m).counts.completed
  counts : episodes ≠ [] →
    m.counts.uploaded + finishedWith finishes countsUploaded (args.started now m).status ≤
        (recount (args.started now m).episodes).uploaded +
          finishedWith finishes countsUploaded (lastStatus py config finishes) ∧
      m.counts.completed ≤ (recount (args.started now m).episodes).completed +
        finishedWith finishes countsCompleted (lastStatus py config finishes)
  unfinished : finishes = [] ∨ ∃ p ∈ finishes, ¬Uploads py config p

end

section

variable {py : Conversions} {config : InherentConfig} {m m' : MemoryManifest}
  {episodes : List PaymentEpisode} {finishes : List (PaymentEpisode × EpisodeNetwork)}

theorem mem_finishedIds {logicalId : String} :
    logicalId ∈ finishedIds finishes ↔ ∃ p ∈ finishes, p.1.episodeId = logicalId := by
  simp [finishedIds]

/-- What is uploaded is listed and was not skipped. -/
theorem Finishes.mem_iff (hfin : Finishes true m episodes finishes) {episode : PaymentEpisode} :
    (∃ p ∈ finishes, p.1 = episode) ↔
      episode ∈ episodes ∧ m.shouldSkip episode.episodeId true = false := by
  have hmem : episode ∈ finishes.map Prod.fst ↔ episode ∈ launched m episodes := by
    rw [Finishes, startEpisodes_eq] at hfin
    exact hfin.mem_iff
  rw [List.mem_map, launched, List.mem_filter, Bool.not_eq_true'] at hmem
  exact hmem

/-- A listed episode is uploaded, or skipped. -/
theorem Finishes.cases (hfin : Finishes true m episodes finishes) {episode : PaymentEpisode}
    (h : episode ∈ episodes) :
    episode.episodeId ∈ finishedIds finishes ∧ m.shouldSkip episode.episodeId true = false ∨
      episode ∈ skipped m episodes ∧ m.shouldSkip episode.episodeId true = true := by
  cases hskip : m.shouldSkip episode.episodeId true with
  | true => exact Or.inr ⟨List.mem_filter.2 ⟨h, hskip⟩, rfl⟩
  | false =>
      obtain ⟨p, hp, rfl⟩ := hfin.mem_iff.2 ⟨h, hskip⟩
      exact Or.inl ⟨mem_finishedIds.2 ⟨p, hp, rfl⟩, rfl⟩

theorem Finishes.not_skipped (hfin : Finishes true m episodes finishes) {logicalId : String}
    (h : logicalId ∈ finishedIds finishes) : m.shouldSkip logicalId true = false := by
  obtain ⟨p, hp, rfl⟩ := mem_finishedIds.1 h
  exact (hfin.mem_iff.1 ⟨p, hp, rfl⟩).2

theorem lastStatus_of_not_mem {logicalId : String} (h : logicalId ∉ finishedIds finishes) :
    lastStatus py config finishes logicalId = none := by
  have hnone : latest (fun p : PaymentEpisode × EpisodeNetwork => some p.1.episodeId)
      (endStatus py config) finishes logicalId = none := by
    rw [latest_eq_none_iff]
    exact fun p hp hid => h (mem_finishedIds.2 ⟨p, hp, Option.some.inj hid⟩)
  rw [lastStatus, hnone]
  rfl

/-- The last upload of an episode has the status of one of its uploads. -/
theorem exists_of_mem_finishedIds (h : seedEpisodes py config true m episodes finishes = .ok m')
    {logicalId : String} (hmem : logicalId ∈ finishedIds finishes) :
    ∃ p ∈ finishes, ∃ record, p.1.episodeId = logicalId ∧
      finishRecord py config p.1 p.2 = .ok record ∧
      lastStatus py config finishes logicalId = some record.status := by
  obtain ⟨records, -, hrecords⟩ := seedEpisodes_eq_ok h
  cases hlatest : latest (fun p : PaymentEpisode × EpisodeNetwork => some p.1.episodeId)
      (endStatus py config) finishes logicalId with
  | none =>
      obtain ⟨p, hp, hid⟩ := mem_finishedIds.1 hmem
      exact absurd (congrArg some hid) ((latest_eq_none_iff _ _).1 hlatest p hp)
  | some found =>
      obtain ⟨p, hp, hid, rfl⟩ := exists_of_latest _ _ hlatest
      obtain ⟨record, -, hrecord⟩ := Grouping.exists_right_of_forall₂ hrecords hp
      refine ⟨p, hp, record, Option.some.inj hid, hrecord, ?_⟩
      rw [lastStatus, hlatest, endStatus, hrecord]
      rfl

theorem completed_of_uploads {p : PaymentEpisode × EpisodeNetwork} {record : EpisodeRecord}
    (hup : Uploads py config p) (h : finishRecord py config p.1 p.2 = .ok record) :
    record.status = "completed" := by
  obtain ⟨result, hresult⟩ := hup
  have hcompleted : isCompletedStatus result.status = true := by
    obtain ⟨upload, -, hwait⟩ := bind_eq_ok hresult
    obtain ⟨final, hfinal, hend⟩ := bind_eq_ok hwait
    cases hend
    exact completed_of_waitForDocument hfinal
  rw [finishRecord, hresult] at h
  cases h
  simp only [uploadedRecord, if_pos hcompleted]

/-!
## The counts
-/

theorem any_status (kind : String → Bool) (logicalId : String) :
    (m.episodes.lookup logicalId).any (fun row => kind row.status) =
      (m.status logicalId).any kind := by
  unfold MemoryManifest.status MemoryManifest.getEpisode
  cases m.episodes.lookup logicalId <;> rfl

/-- What is skipped without being completed was skipped before. -/
theorem bucket_of_skipped {status : String} (hskip : isSkipped status = true)
    (hfresh : countsCompleted status = false) : statusBucket status = .skipped := by
  unfold isSkipped at hskip
  unfold countsCompleted statusBucket at hfresh
  unfold statusBucket
  simp only [List.mem_cons, List.not_mem_nil, or_false, decide_eq_true_eq] at hskip
  rcases hskip with h | h | h
  · rw [h] at hfresh
    exact absurd hfresh (by decide)
  · rw [h] at hfresh
    exact absurd hfresh (by decide)
  · rw [h]
    decide

/-- Outside of the uploads, a pass without completed episodes changes no bucket. -/
theorem status_outside (hfresh : ∀ episode ∈ episodes, ∀ status,
      m.status episode.episodeId = some status → countsCompleted status = false)
    (h : seedEpisodes py config true m episodes finishes = .ok m') (kind : StatusBucket → Bool)
    {logicalId : String} (hmem : logicalId ∉ finishedIds finishes) :
    (m'.status logicalId).any (fun status => kind (statusBucket status)) =
      (m.status logicalId).any fun status => kind (statusBucket status) := by
  rw [status_seedEpisodes h, lastStatus_of_not_mem hmem, Option.none_or]
  split
  · next hskipped =>
      obtain ⟨episode, hepisode, rfl⟩ := hskipped
      obtain ⟨hlisted, hskip⟩ := List.mem_filter.1 hepisode
      rw [shouldSkip_eq] at hskip
      obtain ⟨status, hstatus, hskip⟩ := (Option.any_eq_true _ _).1 hskip
      have hbucket : statusBucket "skipped" = .skipped := by decide
      rw [hstatus, Option.any_some, Option.any_some, hbucket,
        bucket_of_skipped hskip (hfresh episode hlisted status hstatus)]
  · rfl

/-- The rows of a kind are as many as before, but for those of the uploads. -/
theorem tally_seedEpisodes (hfresh : ∀ episode ∈ episodes, ∀ status,
      m.status episode.episodeId = some status → countsCompleted status = false)
    (h : seedEpisodes py config true m episodes finishes = .ok m') (kind : StatusBucket → Bool) :
    Tally.tally (fun row => kind (statusBucket row.status)) m'.episodes +
        finishedWith finishes (fun status => kind (statusBucket status)) m.status =
      Tally.tally (fun row => kind (statusBucket row.status)) m.episodes +
        finishedWith finishes (fun status => kind (statusBucket status))
          (lastStatus py config finishes) := by
  have hrows : ∀ (m : MemoryManifest) (logicalId : String),
      (m.episodes.lookup logicalId).any (fun row => kind (statusBucket row.status)) =
        (m.status logicalId).any fun status => kind (statusBucket status) :=
    fun m => any_status fun status => kind (statusBucket status)
  have hinside : ∀ logicalId ∈ finishedIds finishes,
      m'.status logicalId = lastStatus py config finishes logicalId := by
    intro logicalId hmem
    obtain ⟨p, -, record, -, -, hlast⟩ := exists_of_mem_finishedIds h hmem
    rw [status_seedEpisodes h, hlast]
    rfl
  have hcounted : Tally.tally (fun row => kind (statusBucket row.status)) m'.episodes +
        ((finishedIds finishes).filter fun logicalId =>
          (m.episodes.lookup logicalId).any fun row => kind (statusBucket row.status)).card =
      Tally.tally (fun row => kind (statusBucket row.status)) m.episodes +
        ((finishedIds finishes).filter fun logicalId =>
          (m'.episodes.lookup logicalId).any fun row => kind (statusBucket row.status)).card := by
    apply Tally.tally_of_agree
    intro logicalId hmem
    rw [hrows, hrows, status_outside hfresh h kind hmem]
  simp only [hrows] at hcounted
  rw [finishedWith, hcounted, finishedWith]
  congr 2
  exact Finset.filter_congr fun logicalId hmem => by rw [hinside logicalId hmem]

/-- The counts of a pass over a list that is not empty. -/
theorem counts_seedEpisodes (hfresh : ∀ episode ∈ episodes, ∀ status,
      m.status episode.episodeId = some status → countsCompleted status = false)
    (hfin : Finishes true m episodes finishes) (hne : episodes ≠ [])
    (h : seedEpisodes py config true m episodes finishes = .ok m') :
    m'.counts.uploaded + finishedWith finishes countsUploaded m.status =
        (recount m.episodes).uploaded +
          finishedWith finishes countsUploaded (lastStatus py config finishes) ∧
      m'.counts.completed = (recount m.episodes).completed +
        finishedWith finishes countsCompleted (lastStatus py config finishes) := by
  have hrecount : m'.counts = recount m'.episodes := by
    obtain ⟨records, rfl, hrecords⟩ := seedEpisodes_eq_ok h
    apply counts_recordAll
    obtain ⟨episode, hepisode⟩ := List.exists_mem_of_ne_nil episodes hne
    rcases hfin.cases hepisode with ⟨hmem, -⟩ | ⟨hskipped, -⟩
    · obtain ⟨p, hp, -⟩ := mem_finishedIds.1 hmem
      obtain ⟨record, hrecord, -⟩ := Grouping.exists_right_of_forall₂ hrecords hp
      exact List.ne_nil_of_mem (List.mem_append_right _ hrecord)
    · exact List.ne_nil_of_mem (List.mem_append_left _ (List.mem_map_of_mem hskipped))
  have hnone : finishedWith finishes countsCompleted m.status = 0 := by
    rw [finishedWith, Finset.card_eq_zero, Finset.filter_eq_empty_iff]
    intro logicalId hmem hany
    obtain ⟨p, hp, rfl⟩ := mem_finishedIds.1 hmem
    obtain ⟨status, hstatus, hcompleted⟩ := (Option.any_eq_true _ _).1 hany
    rw [hfresh p.1 (hfin.mem_iff.1 ⟨p, hp, rfl⟩).1 status hstatus] at hcompleted
    cases hcompleted
  have huploaded := tally_seedEpisodes hfresh h fun bucket =>
    bucket ∈ [StatusBucket.completed, .processing, .failed, .uploadedOk]
  have hcompleted := tally_seedEpisodes hfresh h fun bucket => bucket = .completed
  change _ + finishedWith finishes countsCompleted m.status = _ at hcompleted
  rw [hnone, Nat.add_zero] at hcompleted
  rw [hrecount, (recount_eq m'.episodes).1, (recount_eq m'.episodes).2, (recount_eq m.episodes).1,
    (recount_eq m.episodes).2]
  exact ⟨huploaded, hcompleted⟩

/-!
## A second pass
-/

/-- Where every listed episode is skipped, a pass records just that. -/
theorem seedEpisodes_of_all_skipped (py : Conversions) (config : InherentConfig)
    (hall : ∀ episode ∈ episodes, m.shouldSkip episode.episodeId true = true) :
    Finishes true m episodes [] ∧
      (∀ finishes, Finishes true m episodes finishes → finishes = []) ∧
      seedEpisodes py config true m episodes [] =
        .ok (m.recordAll (episodes.map skippedRecord)) := by
  have hskipped : skipped m episodes = episodes := List.filter_eq_self.2 hall
  have hlaunched : launched m episodes = [] := by
    rw [launched, List.filter_eq_nil_iff]
    intro episode hepisode
    rw [hall episode hepisode]
    exact Bool.false_ne_true
  refine ⟨?_, ?_, ?_⟩
  · rw [Finishes, startEpisodes_eq, hlaunched]
    exact List.Perm.nil
  · intro finishes hfin
    rw [Finishes, startEpisodes_eq, hlaunched] at hfin
    exact List.map_eq_nil_iff.1 hfin.eq_nil
  · rw [seedEpisodes, startEpisodes_eq, hskipped]
    rfl

/-- After a pass whose uploads all succeeded, every listed episode is skipped. -/
theorem all_skipped_of_uploads (hfin : Finishes true m episodes finishes)
    (h : seedEpisodes py config true m episodes finishes = .ok m')
    (hups : ∀ p ∈ finishes, Uploads py config p) :
    ∀ episode ∈ episodes, m'.shouldSkip episode.episodeId true = true := by
  intro episode hepisode
  rw [shouldSkip_eq, status_seedEpisodes h]
  by_cases hmem : episode.episodeId ∈ finishedIds finishes
  · obtain ⟨p, hp, record, -, hrecord, hlast⟩ := exists_of_mem_finishedIds h hmem
    have hskip : isSkipped "completed" = true := by decide
    rw [hlast, completed_of_uploads (hups p hp) hrecord, Option.some_or, Option.any_some]
    exact hskip
  · have hskipped := ((hfin.cases hepisode).resolve_left fun hleft => hmem hleft.1).1
    have hskip : isSkipped "skipped" = true := by decide
    rw [lastStatus_of_not_mem hmem, Option.none_or, if_pos ⟨episode, hskipped, rfl⟩,
      Option.any_some]
    exact hskip

/-- Skipping twice changes no row more than skipping once. -/
theorem getEpisode_skipped_twice (m : MemoryManifest) (episodes : List PaymentEpisode)
    (logicalId : String) :
    ((m.recordAll (episodes.map skippedRecord)).recordAll
        (episodes.map skippedRecord)).getEpisode logicalId =
      (m.recordAll (episodes.map skippedRecord)).getEpisode logicalId := by
  have hbare : ∀ record ∈ episodes.map skippedRecord, record.documentId = none ∧
      record.documentName = none ∧ record.error = none := by
    intro record hrecord
    obtain ⟨episode, -, rfl⟩ := List.mem_map.1 hrecord
    exact ⟨rfl, rfl, rfl⟩
  rw [getEpisode_recordAll_of_bare _ _ hbare, getEpisode_recordAll_of_bare _ _ hbare]
  cases hlatest : latestRecord (episodes.map skippedRecord) logicalId with
  | none => rfl
  | some record =>
      obtain ⟨r, hr, -, rfl⟩ := exists_of_latest _ _ hlatest
      obtain ⟨hid, hname, herror⟩ := hbare r hr
      simp [EpisodeRecord.over, hid, hname, herror]

/-- A pass after one without uploads leaves all rows and counts. -/
theorem again_of_no_uploads (hfin : Finishes true m episodes [])
    (h : seedEpisodes py config true m episodes [] = .ok m')
    {finishes' : List (PaymentEpisode × EpisodeNetwork)} {m'' : MemoryManifest}
    (hfin' : Finishes true m' episodes finishes')
    (h' : seedEpisodes py config true m' episodes finishes' = .ok m'') :
    (∀ logicalId, m''.getEpisode logicalId = m'.getEpisode logicalId) ∧ m''.counts = m'.counts := by
  have hall : ∀ episode ∈ episodes, m.shouldSkip episode.episodeId true = true := by
    intro episode hepisode
    refine ((hfin.cases hepisode).resolve_left fun hleft => ?_).2
    obtain ⟨p, hp, -⟩ := mem_finishedIds.1 hleft.1
    cases hp
  have hall' := all_skipped_of_uploads hfin h fun p hp => nomatch hp
  obtain ⟨-, -, hfirst⟩ := seedEpisodes_of_all_skipped py config hall
  obtain ⟨-, hempty, hsecond⟩ := seedEpisodes_of_all_skipped py config hall'
  rw [hempty finishes' hfin', hsecond] at h'
  rw [hfirst] at h
  cases h
  cases h'
  have hrows := getEpisode_skipped_twice m episodes
  refine ⟨hrows, ?_⟩
  by_cases hne : episodes.map skippedRecord = []
  · rw [hne]
    rfl
  · rw [counts_recordAll _ _ hne, counts_recordAll _ _ hne]
    exact recount_of_lookup hrows

/-- Where no completed episode is listed, every completed one keeps its status. -/
theorem statuses_of_fresh (hfin : Finishes true m episodes finishes)
    (h : seedEpisodes py config true m episodes finishes = .ok m')
    (hfresh : ∀ episode ∈ episodes, ∀ status, m.status episode.episodeId = some status →
      countsCompleted status = false) {logicalId status : String}
    (hstatus : m.status logicalId = some status) (hcompleted : countsCompleted status = true) :
    m'.status logicalId = some status := by
  have hmem : logicalId ∉ finishedIds finishes := by
    intro hmem
    obtain ⟨p, hp, rfl⟩ := mem_finishedIds.1 hmem
    rw [hfresh p.1 (hfin.mem_iff.1 ⟨p, hp, rfl⟩).1 status hstatus] at hcompleted
    cases hcompleted
  have hnot : ¬∃ episode ∈ skipped m episodes, episode.episodeId = logicalId := by
    rintro ⟨episode, hepisode, rfl⟩
    rw [hfresh episode (List.mem_of_mem_filter hepisode) status hstatus] at hcompleted
    cases hcompleted
  rw [status_seedEpisodes h, lastStatus_of_not_mem hmem, Option.none_or, if_neg hnot, hstatus]

/-- A pass over no episode changes nothing. -/
theorem eq_of_nil (hfin : Finishes true m [] finishes)
    (h : seedEpisodes py config true m [] finishes = .ok m') : m' = m := by
  have hempty : finishes = [] := List.map_eq_nil_iff.1 hfin.eq_nil
  rw [hempty] at h
  cases h
  rfl

end

/-!
## What a pass goes on with
-/

section

variable {py : Conversions} {config : InherentConfig} {args : SeedArgs} {now : DateTime}
  {m m' : MemoryManifest} {episodes : List PaymentEpisode}
  {finishes : List (PaymentEpisode × EpisodeNetwork)}

theorem started_of_restarts (h : args.Restarts m) :
    (args.started now m).episodes = ∅ ∧ (args.started now m).counts = {} := by
  rw [SeedArgs.started, MemoryManifest.initRun_of_restart _ _ _ _ h]
  exact ⟨rfl, rfl⟩

theorem started_of_not_restarts (h : ¬args.Restarts m) :
    (args.started now m).episodes = m.episodes ∧ (args.started now m).counts = m.counts := by
  obtain ⟨hforce, hstarted⟩ := not_or.1 h
  rw [Bool.not_eq_true] at hforce
  rw [SeedArgs.started, hforce, MemoryManifest.initRun_of_started _ _ _ _ hstarted]
  exact ⟨rfl, rfl⟩

theorem status_started (h : ¬args.Restarts m) (logicalId : String) :
    (args.started now m).status logicalId = m.status logicalId := by
  rw [MemoryManifest.status, MemoryManifest.getEpisode, (started_of_not_restarts h).1]
  rfl

theorem status_started_of_restarts (h : args.Restarts m) (logicalId : String) :
    (args.started now m).status logicalId = none := by
  rw [MemoryManifest.status, MemoryManifest.getEpisode, (started_of_restarts h).1]
  rfl

/-- No row is there that was not there before. -/
theorem status_of_started {logicalId status : String}
    (h : (args.started now m).status logicalId = some status) :
    m.status logicalId = some status := by
  by_cases hrestarts : args.Restarts m
  · rw [status_started_of_restarts hrestarts] at h
    cases h
  · rwa [status_started hrestarts] at h

/-- A manifest that is started over skips nothing. -/
theorem shouldSkip_of_restarts (h : args.Restarts m) (logicalId : String) :
    (args.started now m).shouldSkip logicalId true = false := by
  rw [shouldSkip_eq, status_started_of_restarts h]
  rfl

theorem launched_of_restarts (h : args.Restarts m) :
    launched (args.started now m) episodes = episodes := by
  apply List.filter_eq_self.2
  intro episode _
  rw [shouldSkip_of_restarts h]
  rfl

theorem perm_of_restarts (h : args.Restarts m)
    (hfin : Finishes true (args.started now m) episodes finishes) :
    (finishes.map Prod.fst).Perm episodes := by
  rwa [Finishes, startEpisodes_eq, launched_of_restarts h] at hfin

theorem seedPass_of_enabled (h : config.enabled = true) :
    seedPass py config true args now m episodes finishes =
      seedEpisodes py config true (args.started now m) episodes finishes := by
  rw [seedPass, h]
  rfl

theorem seedPass_eq_ok (h : seedPass py config true args now m episodes finishes = .ok m') :
    config.enabled = true ∧
      seedEpisodes py config true (args.started now m) episodes finishes = .ok m' := by
  cases henabled : config.enabled with
  | false =>
      rw [seedPass, henabled] at h
      cases h
  | true => exact ⟨rfl, (seedPass_of_enabled henabled).symm.trans h⟩

/-- Records change nothing but rows and counts. -/
theorem recordAll_eq (m : MemoryManifest) (records : List EpisodeRecord) :
    m.recordAll records = { m with
      episodes := (m.recordAll records).episodes, counts := (m.recordAll records).counts } := by
  induction records using List.reverseRecOn with
  | nil => rfl
  | append_singleton records record ih =>
      rw [MemoryManifest.recordAll, List.foldl_append, List.foldl_cons, List.foldl_nil]
      change (m.recordAll records).recordEpisode record = _
      rw [ih]
      rfl

/-- A second pass that is not told to start over goes on with what the first one left. -/
theorem started_again (hforce : args.force = false)
    (h : seedEpisodes py config true (args.started now m) episodes finishes = .ok m')
    (now' : DateTime) : args.started now' m' = m' := by
  obtain ⟨records, rfl, -⟩ := seedEpisodes_eq_ok h
  have hstarted := m.createdAt_initRun now args.seeds args.n args.force
  rw [recordAll_eq]
  generalize MemoryManifest.recordAll _ _ = left
  rw [SeedArgs.started, hforce]
  exact MemoryManifest.initRun_of_started
    { args.started now m with episodes := left.episodes, counts := left.counts } now' args.seeds
    args.n hstarted

end

/-!
## When resuming keeps what is finished
-/

section

variable {py : Conversions} {config : InherentConfig} {args : SeedArgs} {now : DateTime}
  {m m' : MemoryManifest} {episodes : List PaymentEpisode}
  {finishes : List (PaymentEpisode × EpisodeNetwork)}

/-- A completed episode keeps its status in no pass that starts over. -/
theorem kept_of_keeps (hrestarts : args.Restarts m)
    (h : seedEpisodes py config true (args.started now m) episodes finishes = .ok m')
    (hkeeps : ResumeKeeps py config args m episodes finishes m') (logicalId status : String)
    (hstatus : m.status logicalId = some status) : countsCompleted status = false := by
  by_contra hcompleted
  rw [Bool.not_eq_false] at hcompleted
  have hkept := hkeeps.statuses _ _ hstatus hcompleted
  by_cases hmem : logicalId ∈ finishedIds finishes
  · obtain ⟨p, hp, rfl⟩ := mem_finishedIds.1 hmem
    rw [hkeeps.notAgain p hp status hstatus] at hcompleted
    cases hcompleted
  · have hnone : ¬∃ episode ∈ skipped (args.started now m) episodes,
        episode.episodeId = logicalId := by
      rintro ⟨episode, hskipped, -⟩
      have hskip := List.of_mem_filter hskipped
      rw [shouldSkip_of_restarts hrestarts] at hskip
      cases hskip
    rw [status_seedEpisodes h, lastStatus_of_not_mem hmem, Option.none_or, if_neg hnone,
      status_started_of_restarts hrestarts] at hkept
    cases hkept

/-- A completed episode that is listed loses its status. -/
theorem fresh_of_keeps (hfin : Finishes true (args.started now m) episodes finishes)
    (h : seedEpisodes py config true (args.started now m) episodes finishes = .ok m')
    (hkeeps : ResumeKeeps py config args m episodes finishes m') :
    ∀ episode ∈ episodes, ∀ status, m.status episode.episodeId = some status →
      countsCompleted status = false := by
  intro episode hepisode status hstatus
  by_cases hrestarts : args.Restarts m
  · exact kept_of_keeps hrestarts h hkeeps _ status hstatus
  by_contra hcompleted
  rw [Bool.not_eq_false] at hcompleted
  have hkept := hkeeps.statuses _ _ hstatus hcompleted
  rcases hfin.cases hepisode with ⟨hmem, -⟩ | ⟨hskipped, hskip⟩
  · obtain ⟨p, hp, hid⟩ := mem_finishedIds.1 hmem
    rw [← hid] at hstatus
    rw [hkeeps.notAgain p hp status hstatus] at hcompleted
    cases hcompleted
  · have hmem : episode.episodeId ∉ finishedIds finishes := by
      intro hmem
      rw [hfin.not_skipped hmem] at hskip
      cases hskip
    have hnoskip : countsCompleted "skipped" = false := by decide
    rw [status_seedEpisodes h, lastStatus_of_not_mem hmem, Option.none_or,
      if_pos ⟨episode, hskipped, rfl⟩] at hkept
    cases hkept
    rw [hnoskip] at hcompleted
    cases hcompleted

/-- A service that refuses every request. -/
def refusingNetwork : EpisodeNetwork where
  upload _ := .error (.other "")

theorem uploadEpisode_refusingNetwork (henabled : config.enabled = true)
    (episode : PaymentEpisode) :
    ∃ text, uploadEpisode py config refusingNetwork episode = .error (.inherent text) := by
  obtain ⟨text, hfetch⟩ : ∃ text,
      fetchJson config "upload" refusingNetwork.upload = .error (.inherent text) := by
    refine (fetchJson_iff (T := fun fetched => ∃ text, fetched = .error (.inherent text))
      (P := fun _ => False) (fun text => ⟨text, rfl⟩) nofun nofun
      (fun _ _ => iff_of_false nofun id)).2 ⟨?_, nofun⟩
    exact fun hover => Bool.false_ne_true (hover.2 0 (Nat.zero_le _))
  refine ⟨text, ?_⟩
  rw [uploadEpisode, uploadDocument, henabled, hfetch]
  rfl

theorem finishRecord_refusingNetwork (henabled : config.enabled = true)
    (episode : PaymentEpisode) :
    ∃ text, finishRecord py config episode refusingNetwork = .ok (failedRecord episode text) := by
  obtain ⟨text, hupload⟩ := @uploadEpisode_refusingNetwork py config henabled episode
  refine ⟨text, ?_⟩
  rw [finishRecord, hupload]

theorem finishEpisodes_refusingNetwork (henabled : config.enabled = true) (m : MemoryManifest)
    (episodes : List PaymentEpisode) :
    ∃ m', finishEpisodes py config m (episodes.map fun e => (e, refusingNetwork)) = .ok m' := by
  induction episodes generalizing m with
  | nil => exact ⟨m, rfl⟩
  | cons episode episodes ih =>
      obtain ⟨text, hrecord⟩ := @finishRecord_refusingNetwork py config henabled episode
      obtain ⟨m', hm'⟩ := ih (m.recordEpisode (failedRecord episode text))
      refine ⟨m', ?_⟩
      rw [List.map_cons, finishEpisodes, finishEpisode, hrecord]
      exact hm'

/-- A pass that starts over and whose uploads are all refused completes no episode. -/
theorem exists_refused_pass (henabled : config.enabled = true) (hrestarts : args.Restarts m)
    (episodes : List PaymentEpisode) (now : DateTime) :
    ∃ finishes m', Finishes true (args.started now m) episodes finishes ∧
      seedPass py config true args now m episodes finishes = .ok m' ∧
      ∀ episode ∈ episodes, m'.status episode.episodeId ≠ some "completed" := by
  have hfin : Finishes true (args.started now m) episodes
      (episodes.map fun e => (e, refusingNetwork)) := by
    rw [Finishes, startEpisodes_eq, launched_of_restarts hrestarts, List.map_map]
    exact List.Perm.of_eq (List.map_id episodes)
  obtain ⟨m', hm'⟩ := @finishEpisodes_refusingNetwork py config henabled
    (startEpisodes true (args.started now m) episodes).1 episodes
  refine ⟨_, m', hfin, (seedPass_of_enabled henabled).trans hm', fun episode hepisode => ?_⟩
  obtain ⟨p, hp, record, -, hrecord, hlast⟩ := exists_of_mem_finishedIds hm'
    (mem_finishedIds.2 ⟨_, List.mem_map_of_mem hepisode, rfl⟩)
  obtain ⟨e, -, rfl⟩ := List.mem_map.1 hp
  obtain ⟨text, hfailed⟩ := @finishRecord_refusingNetwork py config henabled e
  cases hrecord.symm.trans hfailed
  rw [status_seedEpisodes hm', hlast, Option.some_or]
  intro hstatus
  have hunnamed := Option.some.inj hstatus
  simp only [failedRecord] at hunnamed
  split at hunnamed
  · exact absurd hunnamed (by decide)
  · exact absurd hunnamed (by decide)

/-- After a pass whose uploads all succeed, the next one turns them into skipped ones, or
uploads them again. -/
theorem unfinished_of_keeps (hfin : Finishes true (args.started now m) episodes finishes)
    (h : seedPass py config true args now m episodes finishes = .ok m')
    (hkeeps : ResumeKeeps py config args m episodes finishes m') :
    finishes = [] ∨ ∃ p ∈ finishes, ¬Uploads py config p := by
  by_contra hfinished
  obtain ⟨hne, hall⟩ := not_or.1 hfinished
  have hups : ∀ p ∈ finishes, Uploads py config p :=
    fun p hp => by_contra fun hfails => hall ⟨p, hp, hfails⟩
  obtain ⟨henabled, h⟩ := seedPass_eq_ok h
  obtain ⟨p, hp⟩ := List.exists_mem_of_ne_nil finishes hne
  have hlisted : p.1 ∈ episodes := (hfin.mem_iff.1 ⟨p, hp, rfl⟩).1
  obtain ⟨q, hq, record, -, hrecord, hlast⟩ :=
    exists_of_mem_finishedIds h (mem_finishedIds.2 ⟨p, hp, rfl⟩)
  have hbefore : m'.status p.1.episodeId = some "completed" := by
    rw [status_seedEpisodes h, hlast, completed_of_uploads (hups q hq) hrecord]
    rfl
  have hsame : ∀ now' finishes' m'', Finishes true (args.started now' m') episodes finishes' →
      seedPass py config true args now' m' episodes finishes' = .ok m'' →
      m''.status p.1.episodeId = some "completed" := by
    intro now' finishes' m'' hfin' h'
    rw [← hbefore]
    exact congrArg (Option.map EpisodeRow.status)
      ((hkeeps.again hups now' finishes' m'' hfin' h').1 p.1.episodeId)
  cases hforce : args.force with
  | true =>
      obtain ⟨finishes', m'', hfin', h', hnone⟩ :=
        @exists_refused_pass py config args m' henabled (Or.inl hforce) episodes now
      exact hnone p.1 hlisted (hsame now finishes' m'' hfin' h')
  | false =>
      have hagain := started_again hforce h now
      have hskips := all_skipped_of_uploads hfin h hups
      obtain ⟨hempty, -, hsecond⟩ := seedEpisodes_of_all_skipped py config hskips
      have hskipped : p.1 ∈ skipped m' episodes :=
        List.mem_filter.2 ⟨hlisted, hskips _ hlisted⟩
      have hkept := hsame now [] _ (by rwa [hagain])
        ((seedPass_of_enabled henabled).trans (by rw [hagain]; exact hsecond))
      rw [status_seedEpisodes hsecond, lastStatus_of_not_mem List.not_mem_nil, Option.none_or,
        if_pos ⟨p.1, hskipped, rfl⟩] at hkept
      exact absurd (Option.some.inj hkept) (by decide)

/-- A second pass of the same kind, after one without uploads, leaves all rows and counts. -/
theorem again_of_nothing_uploaded (hfin : Finishes true (args.started now m) episodes [])
    (h : seedEpisodes py config true (args.started now m) episodes [] = .ok m')
    {now' : DateTime} {finishes' : List (PaymentEpisode × EpisodeNetwork)} {m'' : MemoryManifest}
    (hfin' : Finishes true (args.started now' m') episodes finishes')
    (h' : seedEpisodes py config true (args.started now' m') episodes finishes' = .ok m'') :
    (∀ logicalId, m''.getEpisode logicalId = m'.getEpisode logicalId) ∧ m''.counts = m'.counts := by
  cases hforce : args.force with
  | true =>
      -- both passes start over, and nothing is listed
      obtain ⟨hrows, hcounts⟩ := @started_of_restarts args now m (Or.inl hforce)
      obtain ⟨hrows', hcounts'⟩ := @started_of_restarts args now' m' (Or.inl hforce)
      have hnil : episodes = [] := (perm_of_restarts (Or.inl hforce) hfin).nil_eq.symm
      rw [hnil] at hfin h hfin' h'
      rw [eq_of_nil hfin h] at hrows' hcounts' hfin' h' ⊢
      rw [eq_of_nil hfin' h']
      refine ⟨fun logicalId => ?_, by rw [hcounts', hcounts]⟩
      rw [MemoryManifest.getEpisode, MemoryManifest.getEpisode, hrows', hrows]
  | false =>
      rw [started_again hforce h now'] at hfin' h'
      exact again_of_no_uploads hfin h hfin' h'

end

/-- When resuming keeps what is finished. A resumed pass changes nothing that is finished
exactly when nothing listed is, nor anything at all that the pass throws away: no completed
episode is among the listed ones, the rows that the uploads replace are not missed in the
counts, and the pass is not one whose uploads all succeed. -/
theorem resume_keeps_iff (py : Conversions) (config : InherentConfig) (args : SeedArgs)
    (now : DateTime) (m : MemoryManifest) (episodes : List PaymentEpisode)
    (finishes : List (PaymentEpisode × EpisodeNetwork))
    (hfin : Finishes true (args.started now m) episodes finishes) {m' : MemoryManifest}
    (hpass : seedPass py config true args now m episodes finishes = .ok m') :
    ResumeKeeps py config args m episodes finishes m' ↔
      NothingFinished py config args now m episodes finishes := by
  obtain ⟨-, h⟩ := seedPass_eq_ok hpass
  have hlistedFresh : (∀ episode ∈ episodes, ∀ status, m.status episode.episodeId = some status →
      countsCompleted status = false) → ∀ episode ∈ episodes, ∀ status,
      (args.started now m).status episode.episodeId = some status →
        countsCompleted status = false :=
    fun hfresh episode hepisode status hstatus =>
      hfresh episode hepisode status (status_of_started hstatus)
  constructor
  · intro hkeeps
    have hfresh := fresh_of_keeps hfin h hkeeps
    refine ⟨hfresh, fun hrestarts => kept_of_keeps hrestarts h hkeeps, ?_, ?_,
      unfinished_of_keeps hfin hpass hkeeps⟩
    · rintro rfl
      rw [← eq_of_nil hfin h]
      exact ⟨hkeeps.uploaded, hkeeps.completed⟩
    · intro hne
      obtain ⟨huploaded, hcompleted⟩ := counts_seedEpisodes (hlistedFresh hfresh) hfin hne h
      have hmore := hkeeps.uploaded
      refine ⟨by omega, ?_⟩
      rw [← hcompleted]
      exact hkeeps.completed
  · rintro ⟨hfresh, hkept, hidle, hcounts, hunfinished⟩
    have hmore : m.counts.uploaded ≤ m'.counts.uploaded ∧
        m.counts.completed ≤ m'.counts.completed := by
      rcases eq_or_ne episodes [] with rfl | hne
      · rw [eq_of_nil hfin h]
        exact hidle rfl
      · obtain ⟨huploaded, hcompleted⟩ := counts_seedEpisodes (hlistedFresh hfresh) hfin hne h
        obtain ⟨huploaded', hcompleted'⟩ := hcounts hne
        exact ⟨by omega, hcompleted ▸ hcompleted'⟩
    constructor
    · intro logicalId status hstatus hcompleted
      by_cases hrestarts : args.Restarts m
      · rw [hkept hrestarts logicalId status hstatus] at hcompleted
        cases hcompleted
      · rw [← @status_started args now m hrestarts] at hstatus
        exact statuses_of_fresh hfin h (hlistedFresh hfresh) hstatus hcompleted
    · exact fun p hp => hfresh p.1 (hfin.mem_iff.1 ⟨p, hp, rfl⟩).1
    · exact hmore.1
    · exact hmore.2
    · intro hups now' finishes' m'' hfin' h'
      rcases hunfinished with rfl | ⟨p, hp, hfails⟩
      · exact again_of_nothing_uploaded hfin h hfin' (seedPass_eq_ok h').2
      · exact absurd (hups p hp) hfails

/-- A pass over the seed 42, one case a seed. -/
def oneCase : SeedArgs := ⟨[42], 1, false⟩

/-- An upload into a new manifest that fails. -/
theorem resume_keeps_iff_new :
    ∃ m', seedPass bareTexts ⟨true, "key", 1⟩ true oneCase daytime {} [timeoutEpisode]
        [(timeoutEpisode, deadNetwork)] = .ok m' ∧
      (ResumeKeeps bareTexts ⟨true, "key", 1⟩ oneCase {} [timeoutEpisode]
          [(timeoutEpisode, deadNetwork)] m' ↔
        NothingFinished bareTexts ⟨true, "key", 1⟩ oneCase daytime {} [timeoutEpisode]
          [(timeoutEpisode, deadNetwork)]) := by
  have hconfig : (⟨true, "key", 1⟩ : InherentConfig).enabled = true := rfl
  have htransient : ∀ i ≤ 1, Transient (deadNetwork.upload i) = true := fun _ _ => rfl
  have hrestarts : oneCase.Restarts {} := Or.inr rfl
  have hfin : Finishes true (oneCase.started daytime {}) [timeoutEpisode]
      [(timeoutEpisode, deadNetwork)] := by
    rw [Finishes, startEpisodes_eq, launched_of_restarts hrestarts]
    exact List.Perm.refl [timeoutEpisode]
  have hend := fun m => @finishEpisode_of_transient bareTexts _ 1 deadNetwork hconfig rfl m
    timeoutEpisode (by decide) htransient
  obtain ⟨m', hpass⟩ : ∃ m', seedPass bareTexts ⟨true, "key", 1⟩ true oneCase daytime {}
      [timeoutEpisode] [(timeoutEpisode, deadNetwork)] = .ok m' := by
    rw [seedPass_of_enabled hconfig, seedEpisodes, finishEpisodes, hend]
    exact ⟨_, rfl⟩
  exact ⟨m', hpass, resume_keeps_iff bareTexts ⟨true, "key", 1⟩ oneCase daytime {}
    [timeoutEpisode] [(timeoutEpisode, deadNetwork)] hfin hpass⟩

/-- A manifest of an earlier pass, whose one episode is completed. -/
def completedManifest : MemoryManifest :=
  (oneCase.started daytime {}).recordEpisode
    { logicalId := "recovery_v1_seed42_sim_42_0001"
      seed := 42
      caseId := "sim_42_0001"
      documentId := some "doc-1"
      status := "completed" }

/-- Resuming it loses the status and the counts. -/
theorem resume_loses_completed :
    completedManifest.status timeoutEpisode.episodeId = some "completed" ∧
      completedManifest.counts.completed = 1 ∧
      Finishes true (oneCase.started nighttime completedManifest) [timeoutEpisode] [] ∧
      ∃ m', seedPass bareTexts ⟨true, "key", 0⟩ true oneCase nighttime completedManifest
          [timeoutEpisode] [] = .ok m' ∧
        m'.status timeoutEpisode.episodeId = some "skipped" ∧ m'.counts.completed = 0 ∧
        ¬ResumeKeeps bareTexts ⟨true, "key", 0⟩ oneCase completedManifest [timeoutEpisode] []
          m' := by
  have hconfig : (⟨true, "key", 0⟩ : InherentConfig).enabled = true := rfl
  have hagain : oneCase.started nighttime completedManifest = completedManifest :=
    MemoryManifest.initRun_of_started completedManifest nighttime [42] 1
      (MemoryManifest.createdAt_initRun {} daytime [42] 1 false)
  have hall : ∀ episode ∈ [timeoutEpisode],
      completedManifest.shouldSkip episode.episodeId true = true := by
    intro episode hepisode
    rw [List.mem_singleton.1 hepisode]
    decide
  obtain ⟨hfin, -, hpass⟩ := seedEpisodes_of_all_skipped bareTexts ⟨true, "key", 0⟩ hall
  have hbefore : completedManifest.status timeoutEpisode.episodeId = some "completed" := by decide
  have hafter : (completedManifest.recordAll ([timeoutEpisode].map skippedRecord)).status
      timeoutEpisode.episodeId = some "skipped" := by
    decide
  rw [hagain]
  refine ⟨hbefore, by decide, hfin, _, ?_, hafter, by decide, fun hkeeps => ?_⟩
  · rw [seedPass_of_enabled hconfig, hagain]
    exact hpass
  · have hkept := hkeeps.statuses _ _ hbefore (by decide)
    rw [hafter] at hkept
    exact absurd (Option.some.inj hkept) (by decide)

end RecoveryAgent.Memory
