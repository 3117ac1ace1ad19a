import RecoveryAgent.Eval.Service
import RecoveryAgent.Guard.Audit
import RecoveryAgent.Library.Latest
import RecoveryAgent.Library.Ranking
import RecoveryAgent.Memory.Corpus
import RecoveryAgent.Python.IsoOrder

/-!
# The store of runs on disk

`eval/run_store.py`: a run is kept in memory and in a file of its own, and a process that
starts reads the files back in whatever order the directory lists them. A process can die
while it writes a file. Over all saves, such deaths and restarts the store answers like one
that is only in memory and forgets the runs whose write was cut off, and its history is in
the order of the clock.
-/

namespace RecoveryAgent.Eval

open Python Library Ranking Memory Guard

/-- `model_dump` with `json.dumps`, and `json.loads` with `model_validate`. -/
structure RecordText where
  dumps : EvalRunRecord → String
  validate : String → Option EvalRunRecord

/-- A record is read back from its text, and from no part of it. -/
structure RecordText.Restores (codec : RecordText) (record : EvalRunRecord) : Prop where
  validate_dumps : codec.validate (codec.dumps record) = some record
  validate_slice : ∀ cut < (codec.dumps record).length,
    codec.validate (slice cut (codec.dumps record)) = none

/-- The files of a directory by their names. -/
abbrev Directory := AList fun _ : String => String

instance : Keyed EvalRunRecord String := ⟨EvalRunRecord.runId⟩

/-- `EvalRunStore` with its directory; a record under a known id takes the place of the old
one in `_mem`. -/
structure RunStore where
  directory : Directory
  mem : Table EvalRunRecord

def fileName (runId : String) : String := runId ++ ".json"

/-- The names that `glob("*.json")` finds. -/
def globbed (name : String) : Bool := ".json".toList.isSuffixOf name.toList

section

variable (codec : RecordText)

/-- What a round of the loop of `_load_disk` gets from a name in the directory. -/
def readRun (directory : Directory) (name : String) : Option EvalRunRecord :=
  if globbed name then (directory.lookup name).bind codec.validate else none

namespace RunStore

/-- `EvalRunStore()`, where the directory lists its names in the given order. -/
def load (directory : Directory) (names : List String) : RunStore where
  directory
  mem := (names.filterMap (readRun codec directory)).foldl Table.put Table.empty

def save (store : RunStore) (record : EvalRunRecord) : RunStore where
  directory := store.directory.insert (fileName record.runId) (codec.dumps record)
  mem := store.mem.put record

/-- What a process leaves that dies in `save` after some characters of the file. -/
def tornDirectory (store : RunStore) (record : EvalRunRecord) (cut : ℕ) : Directory :=
  store.directory.insert (fileName record.runId) (slice cut (codec.dumps record))

end RunStore

end

namespace RunStore

def get (store : RunStore) (runId : String) : Option EvalRunRecord := store.mem.get? runId

def latest (store : RunStore) : Option EvalRunRecord := store.mem.rows.argmax (·.createdAt)

def listRuns (store : RunStore) (limit : ℤ) : List EvalRunRecord :=
  sliceTo (ranked (fun r => OrderDual.toDual r.createdAt) store.mem.rows) limit

/-- The run that `app_overview` shows, with the parameter `run` of its URL. -/
def overviewRun (store : RunStore) (run : Option String) : Option EvalRunRecord :=
  match run with
  | none => store.latest
  | some runId => if runId = "" then store.latest else (store.get runId).or store.latest

end RunStore

def utcNowIso (micros : ℤ) : String := isoformat ⟨micros, some 0⟩

/-!
## What happens to a store
-/

/-- A run is saved; the process dies in a save and starts again; it starts again. -/
inductive StoreEvent where
  | save (record : EvalRunRecord)
  | torn (record : EvalRunRecord)
  | restart

namespace StoreEvent

/-- The id that an event writes. -/
def written : StoreEvent → Option String
  | save record => some record.runId
  | torn record => some record.runId
  | restart => none

/-- The run that an event saves. -/
def saved : StoreEvent → Option EvalRunRecord
  | save record => some record
  | _ => none

/-- The record that an event dumps. -/
def dumped : StoreEvent → Option EvalRunRecord
  | save record => some record
  | torn record => some record
  | restart => none

/-- The event in a store that is only in memory. -/
def apply (store : EvalRunStore) : StoreEvent → EvalRunStore
  | save record => store.save record
  | torn record => store.erase record.runId
  | restart => store

end StoreEvent

/-- The store of a process that starts on the directory. -/
def RunStore.OpenedOn (codec : RecordText) (directory : Directory) (store : RunStore) : Prop :=
  ∃ names : List String, names.Perm directory.keys ∧ store = RunStore.load codec directory names

inductive StoreStep (codec : RecordText) : RunStore → StoreEvent → RunStore → Prop
  | save (store record) : StoreStep codec store (.save record) (store.save codec record)
  | torn {store record store'} (cut : ℕ) (hcut : cut < (codec.dumps record).length)
      (hopened : RunStore.OpenedOn codec (store.tornDirectory codec record cut) store') :
      StoreStep codec store (.torn record) store'
  | restart {store store'} (hopened : RunStore.OpenedOn codec store.directory store') :
      StoreStep codec store .restart store'

/-- The stores after the events, in order. -/
inductive StoreRun (codec : RecordText) (store : RunStore) : List StoreEvent → RunStore → Prop
  | nil : StoreRun codec store [] store
  | concat {events store' event store''} (hrun : StoreRun codec store events store')
      (hstep : StoreStep codec store' event store'') :
      StoreRun codec store (events ++ [event]) store''

/-- Every file that is read back has the name of its run. -/
def Tidy (codec : RecordText) (directory : Directory) : Prop :=
  ∀ name record, readRun codec directory name = some record → name = fileName record.runId

/-- What the store answers is on disk. -/
structure Mirrored (codec : RecordText) (store : RunStore) : Prop where
  tidy : Tidy codec store.directory
  get_eq : ∀ runId, store.get runId = readRun codec store.directory (fileName runId)

/-!
## One step
-/

variable {codec : RecordText} {directory : Directory} {store store' : RunStore}

theorem fileName_injective : Function.Injective fileName :=
  fun _ _ h => String.append_left_inj ".json" |>.1 h

theorem globbed_fileName (runId : String) : globbed (fileName runId) = true := by
  rw [globbed, fileName, String.toList_append, List.isSuffixOf_iff_suffix]
  exact List.suffix_append _ _

theorem readRun_fileName (directory : Directory) (runId : String) :
    readRun codec directory (fileName runId) =
      (directory.lookup (fileName runId)).bind codec.validate := by
  rw [readRun, if_pos (globbed_fileName runId)]

theorem readRun_empty (name : String) : readRun codec ∅ name = none := by
  unfold readRun
  split <;> rfl

theorem tidy_empty : Tidy codec ∅ := by
  intro name record hread
  rw [readRun_empty] at hread
  cases hread

/-- Writing a file changes what is read from it only. -/
theorem readRun_insert (directory : Directory) (runId text name : String) :
    readRun codec (directory.insert (fileName runId) text) name =
      if name = fileName runId then codec.validate text else readRun codec directory name := by
  by_cases hname : name = fileName runId
  · rw [if_pos hname, hname, readRun_fileName, AList.lookup_insert]
    rfl
  · rw [if_neg hname, readRun, AList.lookup_insert_ne hname, readRun]

/-- The last row of each key is put. -/
theorem get?_foldl_put (rows : List EvalRunRecord) (runId : String) :
    (rows.foldl Table.put (Table.empty : Table EvalRunRecord)).get? runId =
      Library.latest (fun r => some r.runId) id rows runId := by
  induction rows using List.reverseRecOn with
  | nil => rfl
  | append_singleton rows row ih =>
      rw [List.foldl_append, List.foldl_cons, List.foldl_nil, Table.get?_put, latest_concat, ih]
      simp only [Option.some.injEq]
      rfl

/-- In a tidy directory the order in which the files are read does not matter. -/
theorem mirrored_load (htidy : Tidy codec directory) {names : List String}
    (hnames : names.Perm directory.keys) :
    Mirrored codec (RunStore.load codec directory names) where
  tidy := htidy
  get_eq runId := by
    have hread : ∀ r ∈ names.filterMap (readRun codec directory), some r.runId = some runId →
        readRun codec directory (fileName runId) = some r := by
      intro r hr hrun
      obtain ⟨name, -, hname⟩ := List.mem_filterMap.1 hr
      rw [← Option.some.inj hrun, ← htidy name r hname, hname]
    change Table.get? ((names.filterMap (readRun codec directory)).foldl _ _) runId =
      readRun codec directory (fileName runId)
    rw [get?_foldl_put]
    cases hfile : readRun codec directory (fileName runId) with
    | none =>
        rw [latest_eq_none_iff]
        intro r hr hrun
        rw [hread r hr hrun] at hfile
        cases hfile
    | some record =>
        have hmem : record ∈ names.filterMap (readRun codec directory) := by
          refine List.mem_filterMap.2 ⟨fileName runId, hnames.mem_iff.2 ?_, hfile⟩
          rw [readRun_fileName] at hfile
          obtain ⟨text, htext, -⟩ := Option.bind_eq_some_iff.1 hfile
          exact AList.mem_keys.1 (AList.lookup_isSome.1 (htext ▸ rfl))
        have hrun : record.runId = runId := (fileName_injective (htidy _ _ hfile)).symm
        cases hlatest : Library.latest (fun r => some r.runId) id
            (names.filterMap (readRun codec directory)) runId with
        | none => exact absurd (congrArg some hrun) ((latest_eq_none_iff _ _).1 hlatest _ hmem)
        | some found =>
            obtain ⟨r, hr, hkey, rfl⟩ := exists_of_latest _ _ hlatest
            exact (hread r hr hkey).symm.trans hfile

theorem mirrored_opened (htidy : Tidy codec directory)
    (h : RunStore.OpenedOn codec directory store) : Mirrored codec store := by
  obtain ⟨names, hnames, rfl⟩ := h
  exact mirrored_load htidy hnames

theorem opened_directory (h : RunStore.OpenedOn codec directory store) :
    store.directory = directory := by
  obtain ⟨names, -, rfl⟩ := h
  rfl

/-- A file that is read back as its run, or not at all, leaves the directory tidy. -/
theorem tidy_insert (htidy : Tidy codec directory) {record : EvalRunRecord} {text : String}
    (htext : ∀ r, codec.validate text = some r → r = record) :
    Tidy codec (directory.insert (fileName record.runId) text) := by
  intro name r hread
  rw [readRun_insert] at hread
  split at hread
  · next hname => rw [hname, htext r hread]
  · exact htidy name r hread

/-- What a step changes in the answers. -/
theorem mirrored_step {event : StoreEvent} (hstore : Mirrored codec store)
    (hrestores : ∀ record, event.dumped = some record → codec.Restores record)
    (hstep : StoreStep codec store event store') :
    Mirrored codec store' ∧ ∀ runId, store'.get runId =
      if event.written = some runId then event.saved else store.get runId := by
  cases hstep with
  | save record =>
      have hback := (hrestores record rfl).validate_dumps
      have htidy : Tidy codec (store.save codec record).directory :=
        tidy_insert hstore.tidy fun r hr => Option.some.inj (hr.symm.trans hback)
      have hget : ∀ runId, (store.save codec record).get runId =
          if some record.runId = some runId then some record else store.get runId := by
        intro runId
        refine (Table.get?_put store.mem record runId).trans ?_
        simp only [Option.some.injEq]
        rfl
      refine ⟨⟨htidy, fun runId => ?_⟩, hget⟩
      rw [hget, hstore.get_eq]
      refine Eq.trans ?_ (readRun_insert store.directory record.runId _ _).symm
      by_cases hrun : record.runId = runId
      · rw [if_pos (congrArg some hrun), if_pos (congrArg fileName hrun.symm), hback]
      · rw [if_neg fun h => hrun (Option.some.inj h),
          if_neg fun h => hrun (fileName_injective h).symm]
  | @torn record _ cut hcut hopened =>
      have hback := (hrestores record rfl).validate_slice cut hcut
      have htidy : Tidy codec (store.tornDirectory codec record cut) :=
        tidy_insert hstore.tidy fun r hr => by rw [hback] at hr; cases hr
      have hopen := mirrored_opened htidy hopened
      refine ⟨hopen, fun runId => ?_⟩
      rw [hopen.get_eq, opened_directory hopened, hstore.get_eq]
      refine (readRun_insert store.directory record.runId _ _).trans ?_
      by_cases hrun : record.runId = runId
      · rw [if_pos (congrArg fileName hrun.symm), hback]
        exact (if_pos (congrArg some hrun)).symm
      · rw [if_neg fun h => hrun (fileName_injective h).symm]
        exact (if_neg fun h => hrun (Option.some.inj h)).symm
  | restart hopened =>
      have hopen := mirrored_opened hstore.tidy hopened
      refine ⟨hopen, fun runId => ?_⟩
      rw [hopen.get_eq, opened_directory hopened, hstore.get_eq]
      rfl

/-!
## Whole runs
-/

theorem mirrored_run {events : List StoreEvent} (hstore : Mirrored codec store)
    (hrestores : ∀ record ∈ events.filterMap StoreEvent.dumped, codec.Restores record)
    (hrun : StoreRun codec store events store') :
    Mirrored codec store' ∧ ∀ runId, store'.get runId =
      (Library.latest StoreEvent.written StoreEvent.saved events runId).getD
        (store.get runId) := by
  induction hrun with
  | nil => exact ⟨hstore, fun _ => rfl⟩
  | @concat events _ event _ _ hstep ih =>
      rw [List.filterMap_append] at hrestores
      obtain ⟨hbefore, hget⟩ := ih fun record hrecord =>
        hrestores record (List.mem_append_left _ hrecord)
      obtain ⟨hafter, hget'⟩ := mirrored_step hbefore (fun record hrecord =>
        hrestores record (List.mem_append_right _ (by simp [hrecord]))) hstep
      refine ⟨hafter, fun runId => ?_⟩
      rw [hget', latest_concat, hget]
      split <;> rfl

theorem get_apply (event : StoreEvent) (store : EvalRunStore) (runId : String) :
    (event.apply store).get runId =
      if event.written = some runId then event.saved else store.get runId := by
  cases event with
  | save record =>
      by_cases hrun : record.runId = runId
      · refine Eq.trans ?_ (if_pos (congrArg some hrun)).symm
        rw [StoreEvent.apply, EvalRunStore.save, EvalRunStore.get, hrun, AList.lookup_insert]
        rfl
      · refine Eq.trans ?_ (if_neg fun h => hrun (Option.some.inj h)).symm
        exact AList.lookup_insert_ne (Ne.symm hrun)
  | torn record =>
      by_cases hrun : record.runId = runId
      · refine Eq.trans ?_ (if_pos (congrArg some hrun)).symm
        rw [StoreEvent.apply, EvalRunStore.get, hrun, AList.lookup_erase]
        rfl
      · refine Eq.trans ?_ (if_neg fun h => hrun (Option.some.inj h)).symm
        exact AList.lookup_erase_ne (Ne.symm hrun)
  | restart => rfl

/-- The events in a store that is only in memory. -/
theorem get_foldl_apply (events : List StoreEvent) (store : EvalRunStore) (runId : String) :
    (events.foldl StoreEvent.apply store).get runId =
      (Library.latest StoreEvent.written StoreEvent.saved events runId).getD
        (store.get runId) := by
  induction events using List.reverseRecOn with
  | nil => rfl
  | append_singleton events event ih =>
      rw [List.foldl_append, List.foldl_cons, List.foldl_nil, get_apply, latest_concat, ih]
      split <;> rfl

/-- Over any saves, deaths in a save and restarts, whatever order the directory is listed in,
the store answers with the last write of the id, which is nothing where the write was cut off,
and with the file that was there before where the id was not written; and it answers like a
store that is only in memory. -/
theorem get_after {events : List StoreEvent} (htidy : Tidy codec directory)
    (hopened : RunStore.OpenedOn codec directory store)
    (hrestores : ∀ record ∈ events.filterMap StoreEvent.dumped, codec.Restores record)
    (hrun : StoreRun codec store events store') (runId : String) :
    store'.get runId = (Library.latest StoreEvent.written StoreEvent.saved events runId).getD
      (readRun codec directory (fileName runId)) ∧
    ∀ inMemory : EvalRunStore, inMemory.get runId = store.get runId →
      (events.foldl StoreEvent.apply inMemory).get runId = store'.get runId := by
  have hmirrored := mirrored_opened htidy hopened
  have hget := (mirrored_run hmirrored hrestores hrun).2 runId
  have hfile := hmirrored.get_eq runId
  rw [opened_directory hopened] at hfile
  refine ⟨hget.trans (by rw [hfile]), fun inMemory hsame => ?_⟩
  rw [get_foldl_apply, hsame, hget]

/-- A run without labels. -/
def sampleRun (runId : String) (micros : ℤ) : EvalRunRecord where
  runId
  createdAt := utcNowIso micros
  seed := 42
  n := 10
  labels := []
  metrics := []

/-- A text around the id and the time of a run. -/
def framed (front middle back : String) (record : EvalRunRecord) : String :=
  front ++ record.runId ++ middle ++ record.createdAt ++ back

/-- The file of a run without labels. -/
def sampleText : EvalRunRecord → String :=
  framed "\x7b\n  \"run_id\": \"" "\",\n  \"created_at\": \""
    ("\",\n  \"seed\": 42,\n  \"n\": 10,\n  \"labels\": [],\n  \"metrics\": [],\n" ++
    "  \"gate_blocks\": \x7b\x7d,\n  \"decline_mix\": \x7b\x7d,\n" ++
    "  \"delta_ours_vs_b2_inr\": null,\n  \"delta_net_ours_vs_b2_inr\": null,\n" ++
    "  \"segments\": [],\n  \"cost_overrides\": \x7b\x7d,\n  \"sample_case_ids\": []\n\x7d")

def firstRun : EvalRunRecord := sampleRun "run_0123456789" daytime.micros

def secondRun : EvalRunRecord := sampleRun "run_9876543210" nighttime.micros

/-- The texts of the two runs. -/
def sampleCodec : RecordText where
  dumps := sampleText
  validate text := [firstRun, secondRun].find? fun record => sampleText record = text

section

variable {front middle back : String} {a b : EvalRunRecord}

theorem length_framed (hid : a.runId.length = b.runId.length)
    (htime : a.createdAt.length = b.createdAt.length) :
    (framed front middle back a).length = (framed front middle back b).length := by
  simp only [framed, String.length_append, hid, htime]

theorem framed_ne (hid : a.runId.length = b.runId.length) (hne : a.runId ≠ b.runId) :
    framed front middle back a ≠ framed front middle back b := by
  intro h
  have htexts := congrArg String.toList h
  simp only [framed, String.toList_append, List.append_assoc] at htexts
  have hids := List.append_inj (List.append_cancel_left htexts)
    (by rwa [String.length_toList, String.length_toList])
  exact hne (String.toList_injective hids.1)

theorem front_le_framed : front.length ≤ (framed front middle back a).length := by
  simp only [framed, String.length_append, Nat.add_assoc, Nat.le_add_right]

end

theorem length_sampleText : (sampleText secondRun).length = (sampleText firstRun).length :=
  length_framed (by decide) (by decide +kernel)

theorem sampleText_ne : sampleText firstRun ≠ sampleText secondRun :=
  framed_ne (by decide) (by decide)

/-- A part of a text is shorter than both. -/
theorem sampleCodec_slice {text : String} (htext : text.length = (sampleText firstRun).length)
    {cut : ℕ} (hcut : cut < text.length) : sampleCodec.validate (slice cut text) = none := by
  have hshort : (slice cut text).length < (sampleText firstRun).length := by
    rw [slice, String.length_ofList, List.length_take, String.length_toList, ← htext]
    omega
  refine List.find?_eq_none.2 fun record hrecord hsame => ?_
  have hlength : (sampleText record).length = (sampleText firstRun).length := by
    rcases List.mem_pair.1 hrecord with rfl | rfl
    · rfl
    · exact length_sampleText
  rw [of_decide_eq_true hsame] at hlength
  omega

theorem restores_firstRun : sampleCodec.Restores firstRun where
  validate_dumps := by
    simp only [sampleCodec, List.find?_cons, decide_true]
  validate_slice _ hcut := sampleCodec_slice rfl hcut

theorem restores_secondRun : sampleCodec.Restores secondRun where
  validate_dumps := by
    simp only [sampleCodec, List.find?_cons, sampleText_ne, decide_false, decide_true]
  validate_slice _ hcut := sampleCodec_slice length_sampleText hcut

/-- A run that was saved, one whose save was cut off, and a restart. -/
theorem get_after_torn : ∃ store : RunStore,
    StoreRun sampleCodec (RunStore.load sampleCodec ∅ [])
      [.save firstRun, .torn secondRun, .restart] store ∧
    store.get "run_0123456789" = some firstRun ∧ store.get "run_9876543210" = none := by
  have hfront : 7 < "\x7b\n  \"run_id\": \"".length := by decide
  have hcut : 7 < (sampleCodec.dumps secondRun).length := hfront.trans_le front_le_framed
  have hsaved : StoreRun sampleCodec (RunStore.load sampleCodec ∅ []) [.save firstRun] _ :=
    StoreRun.nil.concat (.save _ firstRun)
  have hrun := (hsaved.concat (.torn 7 hcut ⟨_, .refl _, rfl⟩)).concat (.restart ⟨_, .refl _, rfl⟩)
  have hget := fun runId => (get_after tidy_empty ⟨[], .refl _, rfl⟩ (fun record hrecord => by
    rcases List.mem_pair.1 hrecord with rfl | rfl
    · exact restores_firstRun
    · exact restores_secondRun) hrun runId).1
  have hother : ∀ later ∈ [StoreEvent.torn secondRun, .restart],
      later.written ≠ some "run_0123456789" := by decide
  have hfirst : Library.latest StoreEvent.written StoreEvent.saved
      [.save firstRun, .torn secondRun, .restart] "run_0123456789" = some (some firstRun) :=
    (latest_eq_some_iff _ _).2 ⟨[], .save firstRun, _, rfl, rfl, rfl, hother⟩
  have hsecond : Library.latest StoreEvent.written StoreEvent.saved
      [.save firstRun, .torn secondRun, .restart] "run_9876543210" = some none :=
    (latest_eq_some_iff _ _).2 ⟨[.save firstRun], .torn secondRun, [.restart], rfl, rfl, rfl,
      by decide⟩
  exact ⟨_, hrun, (hget _).trans (congrArg (Option.getD · _) hfirst),
    (hget _).trans (congrArg (Option.getD · _) hsecond)⟩

/-!
## The history
-/

/-- The runs that were saved, in order. -/
def completed (events : List StoreEvent) : List EvalRunRecord := events.filterMap StoreEvent.saved

/-- The runs were saved one after another by the clock, in years of four digits. -/
def Clocked (records : List EvalRunRecord) : Prop :=
  ∃ moments : List ℤ, moments.Pairwise (· < ·) ∧ (∀ t ∈ moments, Dated (dayOf t)) ∧
    records.map (·.createdAt) = moments.map utcNowIso

/-- Later moments have later texts. -/
theorem utcNowIso_lt {t t' : ℤ} (h : t < t') (ht : Dated (dayOf t)) (ht' : Dated (dayOf t')) :
    utcNowIso t < utcNowIso t' := by
  have hzone : ("+00:00" : String).toList < ['.'] := by decide
  exact isoText_lt hzone h ht ht'

theorem Clocked.createdAt_lt {records : List EvalRunRecord} (h : Clocked records) :
    records.Pairwise fun a b => a.createdAt < b.createdAt := by
  obtain ⟨moments, hincreasing, hdated, htexts⟩ := h
  have hpairs : (moments.map utcNowIso).Pairwise (· < ·) := by
    rw [List.pairwise_map]
    exact hincreasing.imp_of_mem fun ha hb hab => utcNowIso_lt hab (hdated _ ha) (hdated _ hb)
  rw [← htexts, List.pairwise_map] at hpairs
  exact hpairs

/-- Under ids of their own the runs that were saved are the last writes. -/
theorem latest_of_mem_completed {events : List StoreEvent} {record : EvalRunRecord}
    (hids : (events.filterMap StoreEvent.written).Nodup) (h : record ∈ completed events) :
    Library.latest StoreEvent.written StoreEvent.saved events record.runId =
      some (some record) := by
  obtain ⟨event, hevent, hsaved⟩ := List.mem_filterMap.1 h
  have hwritten : event.written = some record.runId := by
    cases event <;> cases hsaved
    rfl
  obtain ⟨before, after, rfl⟩ := List.append_of_mem hevent
  refine (latest_eq_some_iff _ _).2 ⟨before, event, after, rfl, hwritten, hsaved, ?_⟩
  intro later hlater hsame
  rw [List.filterMap_append, List.filterMap_cons_some hwritten] at hids
  have hnodup := (List.nodup_append.1 hids).2.1
  exact (List.nodup_cons.1 hnodup).1 (List.mem_filterMap.2 ⟨later, hlater, hsame⟩)

/-- Where no file was there before, only what was written answers. -/
theorem get_from_empty {events : List StoreEvent} (hopened : RunStore.OpenedOn codec ∅ store)
    (hrestores : ∀ record ∈ events.filterMap StoreEvent.dumped, codec.Restores record)
    (hrun : StoreRun codec store events store') (runId : String) :
    store'.get runId =
      (Library.latest StoreEvent.written StoreEvent.saved events runId).getD none := by
  have hmirrored := mirrored_opened tidy_empty hopened
  rw [(mirrored_run hmirrored hrestores hrun).2, hmirrored.get_eq, opened_directory hopened,
    readRun_empty]

/-- The rows in memory are the runs that were saved. -/
theorem rows_perm_completed {events : List StoreEvent} (hopened : RunStore.OpenedOn codec ∅ store)
    (hrestores : ∀ record ∈ events.filterMap StoreEvent.dumped, codec.Restores record)
    (hids : (events.filterMap StoreEvent.written).Nodup) (hclock : Clocked (completed events))
    (hrun : StoreRun codec store events store') :
    store'.mem.rows.Perm (completed events) := by
  have hget := get_from_empty hopened hrestores hrun
  have hrows : store'.mem.rows.Nodup := List.Nodup.of_map _ store'.mem.nodup
  have hsaved : (completed events).Nodup := hclock.createdAt_lt.imp fun hab heq => by
    rw [heq] at hab
    exact lt_irrefl _ hab
  refine (List.perm_ext_iff_of_nodup hrows hsaved).2 fun record => ⟨fun hmem => ?_, fun hmem => ?_⟩
  · have hfound : store'.get record.runId = some record := Table.get?_of_mem hmem
    rw [hget] at hfound
    cases hlatest : Library.latest StoreEvent.written StoreEvent.saved events record.runId with
    | none => rw [hlatest] at hfound; cases hfound
    | some found =>
        rw [hlatest] at hfound
        obtain ⟨event, hevent, -, hsaved⟩ := exists_of_latest _ _ hlatest
        exact List.mem_filterMap.2 ⟨event, hevent, hsaved.trans hfound⟩
  · have hfound := hget record.runId
    rw [latest_of_mem_completed hids hmem] at hfound
    exact List.mem_of_find?_eq_some hfound

/-- Over a life of the store that starts on an empty directory, where every run gets an id and a
time of its own, the history is the runs that were saved, the last one first, whenever the
process started and in whatever order the directory was listed; and a page shows the run it
asks for, or the last one. -/
theorem history_after {events : List StoreEvent} (hopened : RunStore.OpenedOn codec ∅ store)
    (hrestores : ∀ record ∈ events.filterMap StoreEvent.dumped, codec.Restores record)
    (hids : (events.filterMap StoreEvent.written).Nodup) (hclock : Clocked (completed events))
    (hrun : StoreRun codec store events store') :
    (∀ limit, store'.listRuns limit = sliceTo (completed events).reverse limit) ∧
    store'.latest = (completed events).getLast? ∧
    (∀ record ∈ completed events, record.runId ≠ "" →
      store'.overviewRun (some record.runId) = some record) ∧
    ∀ run, (∀ record ∈ completed events, run ≠ some record.runId) →
      store'.overviewRun run = (completed events).getLast? := by
  have hperm := rows_perm_completed hopened hrestores hids hclock hrun
  have hranked : ranked (fun r : EvalRunRecord => OrderDual.toDual r.createdAt) store'.mem.rows =
      (completed events).reverse := by
    refine ranked_eq_of_perm ((List.reverse_perm _).trans hperm.symm) ?_
    rw [List.pairwise_reverse]
    exact hclock.createdAt_lt
  have hlatest : store'.latest = (completed events).getLast? := by
    rw [← List.head?_reverse, ← hranked, head?_ranked]
    rfl
  refine ⟨fun limit => ?_, hlatest, fun record hrecord hne => ?_, fun run hnone => ?_⟩
  · rw [RunStore.listRuns, hranked]
  · have hfound : store'.get record.runId = some record :=
      Table.get?_of_mem (hperm.mem_iff.2 hrecord)
    rw [RunStore.overviewRun]
    simp only [if_neg hne, hfound, Option.some_or]
  · rw [← hlatest]
    cases run with
    | none => rfl
    | some runId =>
        have hfound : store'.get runId = none := by
          refine Table.get?_eq_none_iff.2 fun record hrecord hkey => ?_
          exact hnone record (hperm.mem_iff.1 hrecord) (congrArg some hkey.symm)
        rw [RunStore.overviewRun]
        simp only [hfound, Option.none_or, ite_self]

/-- Two runs with a restart in between. -/
theorem history_after_two : ∃ store : RunStore,
    StoreRun sampleCodec (RunStore.load sampleCodec ∅ [])
      [.save firstRun, .restart, .save secondRun] store ∧
    store.listRuns 8 = [secondRun, firstRun] ∧ store.latest = some secondRun ∧
    store.overviewRun (some "run_0123456789") = some firstRun ∧
    store.overviewRun (some "run_0000000000") = some secondRun := by
  have hsaved : StoreRun sampleCodec (RunStore.load sampleCodec ∅ []) [.save firstRun] _ :=
    StoreRun.nil.concat (.save _ firstRun)
  have hrun : StoreRun sampleCodec (RunStore.load sampleCodec ∅ [])
      [.save firstRun, .restart, .save secondRun] _ :=
    (hsaved.concat (.restart ⟨_, .refl _, rfl⟩)).concat (.save _ secondRun)
  have hclock : Clocked (completed [.save firstRun, .restart, .save secondRun]) :=
    ⟨[daytime.micros, nighttime.micros], by decide, by decide, rfl⟩
  obtain ⟨hlist, hlatest, hknown, hunknown⟩ := history_after ⟨[], .refl _, rfl⟩
    (fun record hrecord => by
      rcases List.mem_pair.1 hrecord with rfl | rfl
      · exact restores_firstRun
      · exact restores_secondRun) (by decide) hclock hrun
  exact ⟨_, hrun, hlist 8, hlatest, hknown firstRun (List.mem_cons_self) (by decide),
    hunknown _ (by decide)⟩

end RecoveryAgent.Eval
