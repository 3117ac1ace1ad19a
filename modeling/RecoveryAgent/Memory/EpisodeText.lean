import RecoveryAgent.Ai.RoundTrip
import RecoveryAgent.Demo.Events
import RecoveryAgent.Memory.Corpus
import RecoveryAgent.Python.Errors
import RecoveryAgent.Python.Lines

/-!
# The text of an episode

`memory/episode_text.py` writes an episode as lines of prose and a block of metadata, and
`memory/seed.py` reads a value of the block back from the text of a search hit. A line of the
block begins with its key, no line of the prose begins with a small letter, and so every key
is read back as it was written.
-/

namespace RecoveryAgent.Memory

open Python Eval Config Demo Library

def DataSource.value : DataSource → String
  | syntheticSimulation => "synthetic_simulation"
  | razorpayTest => "razorpay_test"
  | demo => "demo"

def EpisodeOutcome.value : EpisodeOutcome → String
  | success => "success"
  | failed => "failed"
  | pending => "pending"

def dataSourceLabel : DataSource → String
  | .syntheticSimulation => "synthetic simulation"
  | .razorpayTest => "Razorpay test mode"
  | .demo => "demo"

/-- `_RAIL_LABELS` of `memory/episode_text.py`. -/
def EpisodeText.railLabels : List (String × String) :=
  [("card", "card"), ("upi_autopay", "UPI autopay"), ("enach", "eNACH")]

def actionLabels : List (String × String) :=
  [("schedule_retry", "delayed retry"), ("send_payment_link", "payment link"),
    ("request_mandate_update", "mandate update request"), ("escalate_human", "human escalation"),
    ("generic_nag", "generic contact")]

/-- `labels.get(value, value)`. -/
def labelled (labels : List (String × String)) (value : String) : String :=
  (labels.lookup value).getD value

/-- `value.replace("_", " ")`. -/
def spaced (value : String) : String := value.map fun c => if c = '_' then ' ' else c

def formatInr (paise : ℤ) : String :=
  if paise % 100 = 0 then "₹" ++ grouped (paise / 100).toNat
  else "₹" ++ grouped (paise / 100).toNat ++ "." ++ padded 2 (paise % 100)

def amountBucketInr (amountPaise : ℤ) : String :=
  if amountPaise < 20000 then "0-199"
  else if amountPaise < 50000 then "200-499"
  else if amountPaise < 100000 then "500-999"
  else if amountPaise < 200000 then "1000-1999"
  else "2000+"

/-- An optional text that is there and not empty. -/
def given (text : Option String) : Option String := text.filter fun s => s ≠ ""

namespace PaymentEpisode

def metadataForIngest (episode : PaymentEpisode) : Fields :=
  [("episode_id", .str episode.episodeId),
    ("case_id", .ofOptStr episode.caseId),
    ("seed", .ofOptInt episode.seed),
    ("simulation_version", .str episode.simulationVersion),
    ("amount_paise", .int episode.amountPaise),
    ("amount_bucket", .str (amountBucketInr episode.amountPaise)),
    ("currency", .str episode.currency),
    ("rail", .str episode.rail),
    ("failure_reason", .str episode.failureReason.value),
    ("recovery_class", .str episode.recoveryClass.value),
    ("attempt_number", .int episode.attemptNumber),
    ("action", .str episode.action),
    ("outcome", .str episode.outcome.value),
    ("recovered_paise", .int episode.recoveredPaise),
    ("net_recovered_paise", .ofOptInt episode.netRecoveredPaise),
    ("data_source", .str episode.dataSource.value),
    ("prohibited", .bool episode.prohibited)] ++
  episode.delaySeconds.toList.map (fun delay => ("delay_seconds", .int delay)) ++
  (given episode.customerType).toList.map fun customer => ("customer_type", .str customer)

end PaymentEpisode

/-- The keys of the block, in order. -/
def metadataKeys : List String :=
  ["episode_id", "seed", "case_id", "simulation_version", "data_source", "recovery_class",
    "failure_reason", "payment_method", "action", "outcome", "attempt_number", "amount_bucket",
    "prohibited"]

/-- What the block has for a key, as a text. The key of the rail is another one there. -/
def metadataText (episode : PaymentEpisode) (key : String) : Option String :=
  let value :=
    if key = "payment_method" then some (Fields.item episode.metadataForIngest "rail")
    else Fields.get? episode.metadataForIngest key
  value.map fun v => v.text?.getD ""

def outcomeLine : EpisodeOutcome → String
  | .success => "Outcome: successful"
  | .failed => "Outcome: not recovered"
  | .pending => "Outcome: pending"

def delayLine (seconds : ℤ) : String :=
  if 3600 ≤ seconds then "Delay: " ++ (toString (seconds / 60) ++ " minutes")
  else if 60 ≤ seconds then "Delay: " ++ (toString (seconds / 60) ++ " minutes")
  else "Delay: " ++ (toString seconds ++ " seconds")

/-- The lines before the block. -/
def proseLines (episode : PaymentEpisode) : List String :=
  ["Payment recovery episode.", "",
    "Payment method: " ++ labelled EpisodeText.railLabels episode.rail,
    "Failure reason: " ++ spaced episode.failureReason.value,
    "Recovery class: " ++ spaced episode.recoveryClass.value,
    "Amount: " ++ formatInr episode.amountPaise,
    "Attempt number: " ++ toString episode.attemptNumber] ++
  episode.seed.toList.map (fun seed => "Seed: " ++ toString seed) ++
  (given episode.caseId).toList.map (fun caseId => "Case: " ++ caseId) ++
  (given episode.customerType).toList.map (fun customer => "Customer type: " ++ customer) ++
  ["", "Recovery action: " ++ labelled actionLabels episode.action] ++
  episode.delaySeconds.toList.map delayLine ++
  ["", outcomeLine episode.outcome,
    "Recovered amount: " ++ formatInr episode.recoveredPaise] ++
  episode.netRecoveredPaise.toList.map (fun net => "Net recovered amount: " ++ formatInr net) ++
  ["Data source: " ++ dataSourceLabel episode.dataSource] ++
  (if episode.prohibited then ["Policy: prohibited recovery class"] else []) ++
  ["", "--- metadata ---"]

/-- The lines of the block under some keys. -/
def metadataLines (episode : PaymentEpisode) (keys : List String) : List String :=
  keys.filterMap fun key => (metadataText episode key).map fun text => key ++ ": " ++ text

def buildEpisodeText (episode : PaymentEpisode) : String :=
  String.intercalate "\n" (proseLines episode ++ metadataLines episode metadataKeys)

/-- What a line says of a key. -/
def readLine (key line : String) : Option String :=
  if startsWith (key ++ ": ") line then
    some (strip (.ofList (line.toList.drop (key ++ ": ").toList.length)))
  else none

def extractMetaFromContent (content : Option String) (key : String) : Option String :=
  match content with
  | none => none
  | some content => if content = "" then none else (splitLines content).findSome? (readLine key)

/-!
## Lines
-/

/-- A line that begins with no small letter. -/
def Headed (line : String) : Prop := ∀ c ∈ line.toList.head?, c.isLower = false

instance (line : String) : Decidable (Headed line) :=
  Option.decidableForallMem line.toList.head?

theorem Headed.append {head : String} (h : Headed head) (hne : head ≠ "") (rest : String) :
    Headed (head ++ rest) := by
  obtain ⟨c, letters, hletters⟩ := List.exists_cons_of_ne_nil
    (show head.toList ≠ [] by simpa using hne)
  intro d hd
  rw [String.toList_append, hletters] at hd
  exact h d (by rw [hletters]; exact hd)

/-- A line under a key with a colon after it is read under that key alone. -/
theorem readLine_metadata {key key' : String} (hkey : ':' ∉ key.toList) (hkey' : ':' ∉ key'.toList)
    (text : String) :
    readLine key (key' ++ ": " ++ text) = if key = key' then some (strip text) else none := by
  have hprefix : (key ++ ": ").toList = key.toList ++ [':', ' '] := String.toList_append
  have hline : (key' ++ ": " ++ text).toList = key'.toList ++ ':' :: ' ' :: text.toList := by
    rw [String.toList_append, String.toList_append, List.append_assoc]
    rfl
  rw [readLine, startsWith, hprefix, hline]
  by_cases heq : key = key'
  · subst heq
    have hsplit : key.toList ++ ':' :: ' ' :: text.toList =
        (key.toList ++ [':', ' ']) ++ text.toList := by
      rw [List.append_assoc]
      rfl
    rw [hsplit, if_pos (List.isPrefixOf_iff_prefix.2 (List.prefix_append _ _)), if_pos rfl,
      List.drop_left, String.ofList_toList]
  · rw [if_neg ?_, if_neg heq]
    rw [List.isPrefixOf_iff_prefix]
    rintro ⟨rest, hrest⟩
    rw [List.append_assoc, List.cons_append] at hrest
    exact heq (String.toList_inj.1 (split_at_separator hkey hkey' hrest).1)

/-- No line of prose is read under a key that begins with a small letter. -/
theorem readLine_headed {key line : String} (hkey : ∃ c ∈ key.toList.head?, c.isLower = true)
    (h : Headed line) : readLine key line = none := by
  obtain ⟨c, hc, hlower⟩ := hkey
  obtain ⟨letters, hletters⟩ := List.head?_eq_some_iff.1 hc
  rw [readLine, startsWith, if_neg]
  rw [List.isPrefixOf_iff_prefix, String.toList_append, hletters]
  rintro ⟨rest, hrest⟩
  have hhead := h c (by rw [← hrest]; rfl)
  rw [hlower] at hhead
  cases hhead

/-- Of the lines of the block the one under the key is read. -/
theorem findSome?_metadataLines (episode : PaymentEpisode) {key : String} (hkey : ':' ∉ key.toList)
    {keys : List String} (hkeys : ∀ k ∈ keys, ':' ∉ k.toList) :
    (metadataLines episode keys).findSome? (readLine key) =
      if key ∈ keys then (metadataText episode key).map strip else none := by
  induction keys with
  | nil => rfl
  | cons k keys ih =>
      have hrest := ih fun k' hk' => hkeys k' (List.mem_cons_of_mem k hk')
      by_cases heq : key = k
      · subst heq
        rw [if_pos List.mem_cons_self]
        cases htext : metadataText episode key with
        | none =>
            rw [htext, Option.map_none, ite_self] at hrest
            rw [metadataLines, List.filterMap_cons, htext]
            exact hrest
        | some text =>
            rw [metadataLines, List.filterMap_cons, htext, Option.map_some, List.findSome?_cons,
              readLine_metadata hkey hkey, if_pos rfl]
            rfl
      · have hmem : key ∈ k :: keys ↔ key ∈ keys := by simp [heq]
        simp only [hmem]
        rw [← hrest, metadataLines, List.filterMap_cons]
        cases metadataText episode k with
        | none => rfl
        | some text =>
            rw [Option.map_some, List.findSome?_cons,
              readLine_metadata hkey (hkeys k List.mem_cons_self), if_neg heq]
            rfl

/-!
## Texts that are kept
-/

/-- A text on one line, without whitespace at its ends. -/
structure Plain (s : String) : Prop where
  oneLine : OneLine s
  bare : strip s = s

/-- The texts of an episode that its validation leaves open. -/
structure PlainTexts (episode : PaymentEpisode) : Prop where
  episodeId : Plain episode.episodeId
  caseId : ∀ caseId, episode.caseId = some caseId → Plain caseId
  simulationVersion : Plain episode.simulationVersion
  rail : Plain episode.rail
  action : Plain episode.action
  customerType : ∀ customer, episode.customerType = some customer → OneLine customer

theorem Plain.of_solid {s : String} (hline : OneLine s) (h : Ai.Solid s.toList) : Plain s :=
  ⟨hline, String.toList_inj.1 ((Ai.toList_strip s).trans h.trimmed)⟩

theorem Plain.of_word {s : String} (h : Word s) : Plain s := by
  by_cases hne : s.toList = []
  · rw [String.toList_eq_nil_iff.1 hne]
    exact ⟨by decide, by decide⟩
  · refine .of_solid h.oneLine ⟨?_, ?_⟩
    · obtain ⟨c, rest, hletters⟩ := List.exists_cons_of_ne_nil hne
      exact ⟨c, rest, hletters, h c (hletters ▸ List.mem_cons_self)⟩
    · obtain ⟨rest, c, hletters⟩ := (List.eq_nil_or_concat' _).resolve_left hne
      exact ⟨rest, c, hletters, h c (hletters ▸ by simp)⟩

/-- Everything that the block holds of such an episode is plain. -/
theorem plain_metadataText {episode : PaymentEpisode} (h : PlainTexts episode) :
    ∀ key ∈ metadataKeys, ∃ text, metadataText episode key = some text ∧ Plain text := by
  have hseed : Plain ((Json.ofOptInt episode.seed).text?.getD "") := by
    cases episode.seed with
    | none => exact .of_word (by decide)
    | some seed => exact .of_word (word_toString_int seed)
  have hcase : Plain ((Json.ofOptStr episode.caseId).text?.getD "") := by
    cases hcase : episode.caseId with
    | none => exact .of_word (by decide)
    | some caseId => exact h.caseId caseId hcase
  have hbucket : Plain (amountBucketInr episode.amountPaise) := by
    unfold amountBucketInr
    repeat' split
    all_goals exact .of_word (by decide)
  have hprohibited : Plain (if episode.prohibited then "True" else "False") := by
    split <;> exact .of_word (by decide)
  have hsource : Plain episode.dataSource.value := by
    cases episode.dataSource <;> exact .of_word (by decide)
  have hclass : Plain episode.recoveryClass.value := by
    cases episode.recoveryClass <;> exact .of_word (by decide)
  have hreason : Plain episode.failureReason.value := by
    cases episode.failureReason <;> exact .of_word (by decide)
  have houtcome : Plain episode.outcome.value := by
    cases episode.outcome <;> exact .of_word (by decide)
  simp only [metadataKeys, List.forall_mem_cons]
  exact ⟨⟨_, rfl, h.episodeId⟩, ⟨_, rfl, hseed⟩, ⟨_, rfl, hcase⟩, ⟨_, rfl, h.simulationVersion⟩,
    ⟨_, rfl, hsource⟩, ⟨_, rfl, hclass⟩, ⟨_, rfl, hreason⟩, ⟨_, rfl, h.rail⟩, ⟨_, rfl, h.action⟩,
    ⟨_, rfl, houtcome⟩, ⟨_, rfl, .of_word (word_toString_int _)⟩, ⟨_, rfl, hbucket⟩,
    ⟨_, rfl, hprohibited⟩, nofun⟩

theorem word_grouped (n : ℕ) : Word (grouped n) := by
  induction n using grouped.induct with
  | case1 n h =>
      rw [grouped, if_pos h]
      exact word_toString_nat n
  | case2 n h ih =>
      rw [grouped, if_neg h]
      exact (ih.append (by decide)).append (word_padded 3 _)

theorem word_formatInr (paise : ℤ) : Word (formatInr paise) := by
  have hrupees : Word ("₹" ++ grouped (paise / 100).toNat) :=
    Word.append (by decide) (word_grouped _)
  unfold formatInr
  split
  · exact hrupees
  · exact (hrupees.append (by decide)).append (word_padded 2 _)

/-!
## The prose
-/

/-- A line that is no line of the block. -/
structure Prose (line : String) : Prop where
  oneLine : OneLine line
  headed : Headed line

instance (line : String) : Decidable (Prose line) :=
  decidable_of_iff (OneLine line ∧ Headed line)
    ⟨fun h => ⟨h.1, h.2⟩, fun h => ⟨h.oneLine, h.headed⟩⟩

theorem Prose.append {head rest : String} (h : Prose head) (hne : head ≠ "")
    (hrest : OneLine rest) : Prose (head ++ rest) :=
  ⟨h.oneLine.append hrest, h.headed.append hne rest⟩

theorem oneLine_labelled {labels : List (String × String)} (hlabels : ∀ p ∈ labels, OneLine p.2)
    {value : String} (hvalue : OneLine value) : OneLine (labelled labels value) := by
  unfold labelled
  cases hlookup : labels.lookup value with
  | none => exact hvalue
  | some label =>
      obtain ⟨before, after, hsplit, -⟩ := List.lookup_eq_some_iff.1 hlookup
      exact hlabels (value, label) (hsplit ▸ List.mem_append_right before List.mem_cons_self)

theorem oneLine_spaced {value : String} (h : Word value) : OneLine (spaced value) := by
  intro c hc
  rw [spaced, String.toList_map] at hc
  obtain ⟨d, hd, rfl⟩ := List.mem_map.1 hc
  split
  · decide
  · exact h.oneLine d hd

theorem prose_given {head : String} (h : Prose head) (hne : head ≠ "") {text : Option String}
    (htext : ∀ s, text = some s → OneLine s) :
    ∀ line ∈ (given text).toList.map (fun s => head ++ s), Prose line := by
  rintro line hline
  obtain ⟨s, hs, rfl⟩ := List.mem_map.1 hline
  exact h.append hne (htext s (Option.filter_eq_some_iff.1 (Option.mem_toList.1 hs)).1)

theorem prose_option {α : Type*} {head : String} (h : Prose head) (hne : head ≠ "")
    {write : α → String} (hwrite : ∀ x, OneLine (write x)) (value : Option α) :
    ∀ line ∈ value.toList.map (fun x => head ++ write x), Prose line := by
  rintro line hline
  obtain ⟨x, -, rfl⟩ := List.mem_map.1 hline
  exact h.append hne (hwrite x)

theorem prose_delayLine (seconds : ℤ) : Prose (delayLine seconds) := by
  have hunit : ∀ i : ℤ, ∀ unit : String, OneLine unit →
      Prose ("Delay: " ++ (toString i ++ unit)) := fun i unit hunit =>
    Prose.append (by decide) (by decide) ((word_toString_int i).oneLine.append hunit)
  unfold delayLine
  repeat' split
  all_goals exact hunit _ _ (by decide)

theorem prose_proseLines {episode : PaymentEpisode} (h : PlainTexts episode) :
    ∀ line ∈ proseLines episode, Prose line := by
  have hrails : ∀ p ∈ EpisodeText.railLabels, OneLine p.2 := by decide
  have hactions : ∀ p ∈ actionLabels, OneLine p.2 := by decide
  have hrail := oneLine_labelled hrails h.rail.oneLine
  have haction := oneLine_labelled hactions h.action.oneLine
  have hreason : Word episode.failureReason.value := by
    cases episode.failureReason <;> decide
  have hclass : Word episode.recoveryClass.value := by
    cases episode.recoveryClass <;> decide
  have houtcome : Prose (outcomeLine episode.outcome) := by
    cases episode.outcome <;> decide
  have hsource : OneLine (dataSourceLabel episode.dataSource) := by
    cases episode.dataSource <;> decide
  have hpolicy : ∀ line ∈
      if episode.prohibited then ["Policy: prohibited recovery class"] else [], Prose line := by
    split <;> decide
  have hcaseHead : Prose "Case: " := by decide
  have hcase := prose_given hcaseHead (by decide)
    fun caseId hcase => (h.caseId caseId hcase).oneLine
  have hcustomerHead : Prose "Customer type: " := by decide
  have hcustomer := prose_given hcustomerHead (by decide) h.customerType
  have hseedHead : Prose "Seed: " := by decide
  have hseed := prose_option hseedHead (by decide)
    (fun seed : ℤ => (word_toString_int seed).oneLine) episode.seed
  have hnetHead : Prose "Net recovered amount: " := by decide
  have hnet := prose_option hnetHead (by decide)
    (fun net => (word_formatInr net).oneLine) episode.netRecoveredPaise
  have hdelay : ∀ line ∈ episode.delaySeconds.toList.map delayLine, Prose line := by
    intro line hline
    obtain ⟨seconds, -, rfl⟩ := List.mem_map.1 hline
    exact prose_delayLine seconds
  have hopening : ∀ line ∈ ["Payment recovery episode.", "",
      "Payment method: " ++ labelled EpisodeText.railLabels episode.rail,
      "Failure reason: " ++ spaced episode.failureReason.value,
      "Recovery class: " ++ spaced episode.recoveryClass.value,
      "Amount: " ++ formatInr episode.amountPaise,
      "Attempt number: " ++ toString episode.attemptNumber], Prose line := by
    simp only [List.forall_mem_cons]
    exact ⟨by decide, by decide, .append (by decide) (by decide) hrail,
      .append (by decide) (by decide) (oneLine_spaced hreason),
      .append (by decide) (by decide) (oneLine_spaced hclass),
      .append (by decide) (by decide) (word_formatInr _).oneLine,
      .append (by decide) (by decide) (word_toString_int _).oneLine, nofun⟩
  simp only [proseLines, List.forall_mem_append] at hopening ⊢
  refine ⟨⟨⟨⟨⟨⟨⟨⟨⟨⟨hopening, hseed⟩, hcase⟩, hcustomer⟩, ?_⟩, hdelay⟩, ?_⟩, hnet⟩, ?_⟩, hpolicy⟩, ?_⟩
  · simp only [List.forall_mem_cons]
    exact ⟨by decide, .append (by decide) (by decide) haction, nofun⟩
  · simp only [List.forall_mem_cons]
    exact ⟨by decide, houtcome, .append (by decide) (by decide) (word_formatInr _).oneLine, nofun⟩
  · simp only [List.forall_mem_cons]
    exact ⟨.append (by decide) (by decide) hsource, nofun⟩
  · decide

/-!
## Reading an episode back
-/

theorem metadataKeys_letters : ∀ key ∈ metadataKeys,
    ':' ∉ key.toList ∧ key.toList.head?.any Char.isLower = true ∧ Word key := by
  decide

/-- The lines of the text are the lines that it is made of. -/
theorem splitLines_buildEpisodeText {episode : PaymentEpisode} (h : PlainTexts episode) :
    splitLines (buildEpisodeText episode) =
      proseLines episode ++ metadataLines episode metadataKeys := by
  have hblock : ∀ line ∈ metadataLines episode metadataKeys, OneLine line := by
    intro line hline
    obtain ⟨key, hkey, hwritten⟩ := List.mem_filterMap.1 hline
    obtain ⟨text, htext, hplain⟩ := plain_metadataText h key hkey
    rw [htext] at hwritten
    cases hwritten
    have hword : Word key := (metadataKeys_letters key hkey).2.2
    exact (hword.oneLine.append (by decide)).append hplain.oneLine
  obtain ⟨text, htext, hplain⟩ := plain_metadataText h "prohibited" (by decide)
  have hlast : metadataLines episode metadataKeys =
      metadataLines episode metadataKeys.dropLast ++ ["prohibited" ++ ": " ++ text] := by
    have hkeys : metadataKeys = metadataKeys.dropLast ++ ["prohibited"] := rfl
    rw [hkeys, metadataLines, List.filterMap_append, ← hkeys, List.filterMap_cons, htext]
    rfl
  rw [buildEpisodeText, hlast, ← List.append_assoc]
  rw [hlast, List.forall_mem_append] at hblock
  refine splitLines_intercalate ?_ (hblock.2 _ List.mem_cons_self) (by simp)
  rw [List.forall_mem_append]
  exact ⟨fun line hline => (prose_proseLines h line hline).oneLine, hblock.1⟩

/-- Every key of the block is read back from the text of an episode. -/
theorem extract_buildEpisodeText {episode : PaymentEpisode} (h : PlainTexts episode) {key : String}
    (hkey : key ∈ metadataKeys) :
    extractMetaFromContent (some (buildEpisodeText episode)) key = metadataText episode key := by
  have hlines := splitLines_buildEpisodeText h
  have hprose : (proseLines episode).findSome? (readLine key) = none :=
    List.findSome?_eq_none_iff.2 fun line hline =>
      readLine_headed ((Option.any_eq_true _ _).1 (metadataKeys_letters key hkey).2.1)
        (prose_proseLines h line hline).headed
  have hne : buildEpisodeText episode ≠ "" := by
    intro hempty
    rw [hempty] at hlines
    exact List.cons_ne_nil _ _ hlines.symm
  rw [extractMetaFromContent, if_neg hne, hlines, List.findSome?_append, hprose, Option.none_or,
    findSome?_metadataLines episode (metadataKeys_letters key hkey).1
      fun k hk => (metadataKeys_letters k hk).1, if_pos hkey]
  obtain ⟨text, htext, hplain⟩ := plain_metadataText h key hkey
  rw [htext, Option.map_some, hplain.bare]

/-!
## The corpus
-/

section

variable {G : Type*} (costs : Costs) (rng : Rng G)

theorem exists_key_of_mem_generateCases {seed : ℤ} {count i : ℕ} {g : G} {case : SimCase}
    (h : case ∈ generateCases rng seed count i g) :
    (∃ j, case.visible.caseKey = caseKeyOf seed j) ∧ case.visible.rail ∈ rails := by
  induction count generalizing i g with
  | zero => cases h
  | succ count ih =>
      rcases List.mem_cons.1 h with rfl | h
      · exact ⟨⟨i, rfl⟩, List.get_mem _ _⟩
      · exact ih h

theorem word_primaryExecutedAction (case : SimCase) (outcome : CaseOutcome) (planFn : PlanFn) :
    Word (primaryExecutedAction case outcome planFn).1 := by
  have hverb : ∀ verb, Word (simVerbToAction verb) := by
    intro verb
    cases verb <;> decide
  unfold primaryExecutedAction
  repeat' split
  · exact hverb _
  · exact hverb _
  · decide

theorem word_caseKeyOf (seed : ℤ) (i : ℕ) : Word (caseKeyOf seed i) := by
  intro c hc
  rw [toList_caseKeyOf, List.mem_append, List.mem_append, List.mem_cons] at hc
  rcases hc with (hc | hc) | rfl | hc
  · revert c
    decide
  · exact word_toString_int seed c hc
  · decide
  · exact word_padded 4 i c hc

theorem plain_logicalEpisodeId {simulationVersion : String} (hversion : OneLine simulationVersion)
    (seed : ℤ) (i : ℕ) : Plain (logicalEpisodeId seed (caseKeyOf seed i) simulationVersion) := by
  have hid := logicalEpisodeId_caseKeyOf seed i simulationVersion
  have hkey := word_caseKeyOf seed i
  have hfirst : ∃ rest, (logicalEpisodeId seed (caseKeyOf seed i) simulationVersion).toList =
      'r' :: rest := by
    rw [hid, String.toList_append, String.toList_append]
    exact ⟨_, rfl⟩
  obtain ⟨rest, hrest⟩ := hfirst
  refine .of_solid ?_ ⟨⟨'r', rest, hrest, by decide⟩, ?_⟩
  · intro c hc
    rw [hid, List.mem_append, List.mem_append, List.mem_cons] at hc
    rcases hc with hc | hc | rfl | hc
    · have hstart : OneLine ("recovery_" ++ simulationVersion ++ "_seed") :=
        (OneLine.append (by decide) hversion).append (by decide)
      exact hstart c hc
    · exact (word_toString_int seed).oneLine c hc
    · decide
    · exact hkey.oneLine c hc
  · have hne : (caseKeyOf seed i).toList ≠ [] := by simpa using caseKeyOf_ne_empty seed i
    obtain ⟨rest, c, hletters⟩ := (List.eq_nil_or_concat' _).resolve_left hne
    rw [hid, hletters]
    exact ⟨("recovery_" ++ simulationVersion ++ "_seed").toList ++
        ((toString seed).toList ++ '_' :: rest), c,
      by simp only [List.append_assoc, List.cons_append],
      hkey c (hletters ▸ List.mem_append_right rest List.mem_cons_self)⟩

/-- The version is all that can spoil the texts of an episode made from a generated case. -/
theorem plainTexts_of_case {seed : ℤ} {i : ℕ} {planFn : PlanFn} {simulationVersion : String}
    {case : SimCase} {outcome : CaseOutcome} {episode : PaymentEpisode}
    (hversion : Plain simulationVersion) (hkey : case.visible.caseKey = caseKeyOf seed i)
    (hrail : case.visible.rail ∈ rails)
    (h : paymentEpisodeFromCase costs seed planFn simulationVersion case outcome = some episode) :
    PlainTexts episode := by
  unfold paymentEpisodeFromCase at h
  simp only [hkey] at h
  split at h
  · cases h
    refine ⟨plain_logicalEpisodeId hversion.oneLine seed i, ?_, hversion, ?_,
      .of_word (word_primaryExecutedAction _ _ _), ?_⟩
    · rintro caseId ⟨⟩
      exact .of_word (word_caseKeyOf seed i)
    · have hrails : ∀ rail ∈ rails, Word rail := by decide
      exact .of_word (hrails _ hrail)
    · rintro customerType ⟨⟩
  · cases h

theorem plainTexts_of_seed {seed n : ℤ} {simulationVersion : String}
    {episodes : List PaymentEpisode} (hversion : Plain simulationVersion)
    (h : generateEpisodesForSeed costs rng seed n simulationVersion = some episodes) :
    ∀ episode ∈ episodes, PlainTexts episode := by
  obtain ⟨cases, hcases, hmade⟩ := Option.bind_eq_some_iff.1 h
  intro episode hepisode
  obtain ⟨case, hcase, hof⟩ :=
    Grouping.exists_left_of_forall₂ (Grouping.forall₂_of_mapM hmade) hepisode
  unfold generateBatch at hcases
  split at hcases
  · cases hcases
  · cases hcases
    obtain ⟨⟨i, hkey⟩, hrail⟩ := exists_key_of_mem_generateCases rng hcase
    exact plainTexts_of_case costs hversion hkey hrail hof

/-- The episodes of a corpus are those before the loop and those of its seeds. -/
theorem mem_extendEpisodes {n : ℤ} {limit : Option ℤ} {simulationVersion : String}
    {seeds : List ℤ} {before episodes : List PaymentEpisode} {episode : PaymentEpisode}
    (h : extendEpisodes costs rng n limit simulationVersion before seeds = some episodes)
    (hepisode : episode ∈ episodes) :
    episode ∈ before ∨ ∃ seed batch,
      generateEpisodesForSeed costs rng seed n simulationVersion = some batch ∧
        episode ∈ batch := by
  induction seeds generalizing before with
  | nil =>
      cases h
      exact Or.inl hepisode
  | cons seed seeds ih =>
      obtain ⟨batch, hbatch, hrest⟩ := Option.bind_eq_some_iff.1 h
      have hboth : episode ∈ before ++ batch → episode ∈ before ∨ ∃ seed batch,
          generateEpisodesForSeed costs rng seed n simulationVersion = some batch ∧
            episode ∈ batch := fun hmem =>
        (List.mem_append.1 hmem).imp id fun hmem => ⟨seed, batch, hbatch, hmem⟩
      cases limit with
      | none => exact (ih hrest).elim hboth Or.inr
      | some bound =>
          simp only at hrest
          split at hrest
          · obtain ⟨k, hk⟩ := sliceTo_eq_take (before ++ batch) bound
            cases hrest
            rw [hk] at hepisode
            exact hboth (List.mem_of_mem_take hepisode)
          · exact (ih hrest).elim hboth Or.inr

/-- The text that a corpus is uploaded with loses nothing of its block: under a version on one
line, every key is read back from every text as it was written, and over different seeds no
two episodes have one text. -/
theorem corpus_texts_read_back {simulationVersion : String} (hversion : Plain simulationVersion)
    (seeds : List ℤ) (n : ℤ) (limit : Option ℤ) {episodes : List PaymentEpisode}
    (h : generateEpisodesForSeeds costs rng seeds n limit simulationVersion = some episodes) :
    (∀ episode ∈ episodes, ∀ key ∈ metadataKeys,
      extractMetaFromContent (some (buildEpisodeText episode)) key = metadataText episode key) ∧
    (seeds.Nodup → (episodes.map buildEpisodeText).Nodup) := by
  have hplain : ∀ episode ∈ episodes, PlainTexts episode := by
    intro episode hepisode
    rcases mem_extendEpisodes costs rng h hepisode with hmem | ⟨seed, batch, hbatch, hmem⟩
    · cases hmem
    · exact plainTexts_of_seed costs rng hversion hbatch episode hmem
  have hread : ∀ episode ∈ episodes, ∀ key ∈ metadataKeys,
      extractMetaFromContent (some (buildEpisodeText episode)) key = metadataText episode key :=
    fun episode hepisode key hkey => extract_buildEpisodeText (hplain episode hepisode) hkey
  refine ⟨hread, fun hseeds => ?_⟩
  obtain ⟨qs, hsub, hnumbered⟩ := numbered_extendEpisodes costs rng List.Forall₂.nil h
  have hids := (nodup_of_numbered ((hseeds.product List.nodup_range).sublist hsub) hnumbered).1
  refine List.Nodup.map_on ?_ hids.of_map
  intro e he e' he' htexts
  have hkey : "episode_id" ∈ metadataKeys := List.mem_cons_self
  have hid : some e.episodeId = some e'.episodeId := by
    have hsame := congrArg (fun text => extractMetaFromContent (some text) "episode_id") htexts
    simp only [hread e he _ hkey, hread e' he' _ hkey] at hsame
    exact hsame
  exact List.inj_on_of_nodup_map hids he he' (Option.some.inj hid)

end

/-- A generator that always draws the same. -/
def constantRng : Rng Unit :=
  ⟨fun _ => (), fun _ => (), fun g => (1 / 2, g), fun _ h g => (⟨0, h⟩, g)⟩

theorem corpus_texts_read_back_two_seeds :
    ∃ episodes, generateEpisodesForSeeds shippedCosts constantRng [4, 42] 1 none "v1" =
        some episodes ∧
      (∀ episode ∈ episodes, ∀ key ∈ metadataKeys,
        extractMetaFromContent (some (buildEpisodeText episode)) key =
          metadataText episode key) ∧
      (episodes.map buildEpisodeText).Nodup := by
  have hmade : (generateEpisodesForSeeds shippedCosts constantRng [4, 42] 1 none "v1").isSome =
      true := by
    decide +kernel
  obtain ⟨episodes, hepisodes⟩ := Option.isSome_iff_exists.1 hmade
  have hread := corpus_texts_read_back shippedCosts constantRng (.of_word (by decide)) [4, 42] 1
    none hepisodes
  exact ⟨episodes, hepisodes, hread.1, hread.2 (by decide)⟩

end RecoveryAgent.Memory
