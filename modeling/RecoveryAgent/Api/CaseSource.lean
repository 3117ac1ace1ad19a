import RecoveryAgent.Api.CasePage
import RecoveryAgent.Api.System

/-!
# Where a case comes from

`_classify_case_source` of `api/routes_ui.py`, the badge of the case page. Its loop sets one
variable from several kinds of rows, and what is left there depends on their order; what the
badge says does not. A created live link comes before all else, then the marks of a fixture,
then who has proposed, then the last source of an event.
-/

namespace RecoveryAgent.Api

open Library Python Policy Ledger Guard Execute Runs Demo

inductive CaseSource where
  | demoFixture
  | aiLive
  | aiFallback
  | simulator
  | razorpayLive
  | razorpayWebhook
  | unknown
  deriving DecidableEq, Repr

inductive Tone where
  | fixture
  | live
  | sim
  deriving DecidableEq, Repr

structure SourceLabel where
  badge : String
  tone : Tone
  blurb : String
  deriving DecidableEq, Repr

def CaseSource.label : CaseSource → SourceLabel
  | demoFixture =>
      ⟨"OFFLINE FIXTURE", .fixture,
        "Pre-built trail for video backup — not a live Razorpay API call. " ++
          "Shows AI + gate refusal clearly."⟩
  | aiLive =>
      ⟨"AI LIVE (OLLAMA)", .live,
        "Diagnosis/proposal came from the local model. " ++
          "Check classification/decision rows with actor=llm."⟩
  | aiFallback =>
      ⟨"RULES FALLBACK", .sim,
        "Ollama was down or forced off — taxonomy rules proposed the action. " ++
          "Still gated before execute."⟩
  | simulator =>
      ⟨"SIM / LOCAL", .sim,
        "Case opened from local/demo ingest. " ++
          "Execute may still create a real test-mode link if mode=razorpay."⟩
  | razorpayLive =>
      ⟨"RAZORPAY TEST LIVE", .live,
        "Real test-mode Payment Link created via Razorpay API. " ++
          "Match this plink_ id in the Razorpay dashboard."⟩
  | razorpayWebhook =>
      ⟨"RAZORPAY WEBHOOK", .live,
        "Ingested from a signed Razorpay webhook event (test mode)."⟩
  | unknown =>
      ⟨"CASE", .sim, "Inspect the ledger rows below for source and outcome ids."⟩

/-!
## The loop
-/

/-- The variables of the loop. -/
structure SourceScan where
  source : CaseSource := .unknown
  plink : Option String := none
  plinkLive : Bool := false
  hasLlm : Bool := false
  hasGateBlock : Bool := false
  eventSource : Json := .null

/-- `str(payload.get(key) or "")`. -/
def textAt (py : Conversions) (payload : Fields) (key : String) : String :=
  py.textOf ((payload.item key).or (.str ""))

/-- `v == s`. -/
def isText (v : Json) (s : String) : Bool :=
  match v with
  | .str t => t = s
  | _ => false

def scanEvent (py : Conversions) (scan : SourceScan) (e : LedgerEntryView) : SourceScan :=
  if e.kind = .event then
    { scan with
      eventSource := (e.payload.item "source").or scan.eventSource
      source := if startsWith "demo_replay" (textAt py e.payload "event_id") then .demoFixture
        else scan.source }
  else scan

def scanMarks (scan : SourceScan) (e : LedgerEntryView) : SourceScan :=
  { scan with
    hasLlm := scan.hasLlm || e.actor = .llm
    hasGateBlock := scan.hasGateBlock || e.gateResult = some .blocked }

/-- The outcome is a link that the API has created. -/
def liveOutcome (py : Conversions) (payload : Fields) : Bool :=
  let ext := textAt py payload "external_id"
  let note := textAt py payload "note"
  startsWith "plink_" ext && (!startsWith "plink_test_" ext && !startsWith "plink_demo_" ext &&
    !hasText "dry_run" note && note = "razorpay_payment_link_created")

def scanOutcome (py : Conversions) (scan : SourceScan) (e : LedgerEntryView) : SourceScan :=
  let ext := textAt py e.payload "external_id"
  let note := textAt py e.payload "note"
  if e.kind = .outcome ∧ startsWith "plink_" ext = true then
    if liveOutcome py e.payload then
      { scan with plink := some ext, plinkLive := true, source := .razorpayLive }
    else if scan.source ≠ .razorpayLive ∧
        (startsWith "plink_demo_" ext || hasText "fixture" note) = true then
      { scan with plink := some ext, source := .demoFixture }
    else { scan with plink := some ext }
  else scan

def scanRow (py : Conversions) (scan : SourceScan) (e : LedgerEntryView) : SourceScan :=
  scanOutcome py (scanMarks (scanEvent py scan e) e) e

/-!
## The badge
-/

/-- What the page is told. -/
structure Provenance where
  source : CaseSource
  label : SourceLabel
  plink : Option String
  plinkLive : Bool
  hasLlm : Bool
  hasGateBlock : Bool
  eventSource : Json

/-- Rules have classified or decided. -/
def byPolicy (e : LedgerEntryView) : Bool :=
  e.actor = .policy && (e.kind = .classification || e.kind = .decision)

def classifyCaseSource (py : Conversions) (ledger : List LedgerEntryView) : Provenance :=
  let scan := ledger.foldl (scanRow py) {}
  let source :=
    if scan.source = .unknown then
      if isText scan.eventSource "razorpay_webhook" then .razorpayWebhook
      else if isText scan.eventSource "simulator" then .simulator
      else scan.source
    else scan.source
  let source :=
    if source ≠ .razorpayLive ∧ source ≠ .demoFixture then
      if scan.hasLlm then .aiLive
      else if ledger.any byPolicy then .aiFallback
      else source
    else source
  let live := CaseSource.razorpayLive.label
  { source := if scan.plinkLive then .razorpayLive else source
    label :=
      if scan.plinkLive then
        if scan.hasLlm then
          { live with
            blurb := live.blurb ++
              " This case also has live AI (actor=llm) diagnosis above the link." }
        else live
      else source.label
    plink := scan.plink
    plinkLive := scan.plinkLive
    hasLlm := scan.hasLlm
    hasGateBlock := scan.hasGateBlock
    eventSource := scan.eventSource }

/-!
## What the rows say
-/

section

variable (py : Conversions)

def liveLink (e : LedgerEntryView) : Bool := e.kind = .outcome && liveOutcome py e.payload

/-- The row is of a replay, or of a link that no API has created. -/
def fixtureMark (e : LedgerEntryView) : Bool :=
  (e.kind = .event && startsWith "demo_replay" (textAt py e.payload "event_id")) ||
    (e.kind = .outcome && startsWith "plink_" (textAt py e.payload "external_id") &&
      (startsWith "plink_demo_" (textAt py e.payload "external_id") ||
        hasText "fixture" (textAt py e.payload "note")))

def namedSource (e : LedgerEntryView) : Option Json :=
  if e.kind = .event ∧ (e.payload.item "source").truthy = true then some (e.payload.item "source")
  else none

def namedLink (e : LedgerEntryView) : Option String :=
  if e.kind = .outcome ∧ startsWith "plink_" (textAt py e.payload "external_id") = true then
    some (textAt py e.payload "external_id")
  else none

/-- What the variables hold after these rows. -/
structure Scanned (rows : List LedgerEntryView) (scan : SourceScan) : Prop where
  live : scan.plinkLive = rows.any (liveLink py)
  source : rows.any (liveLink py) = false →
    scan.source = if rows.any (fixtureMark py) then .demoFixture else .unknown
  model : scan.hasLlm = rows.any fun e => e.actor = .llm
  blocked : scan.hasGateBlock = rows.any fun e => e.gateResult = some .blocked
  event : scan.eventSource = (rows.filterMap namedSource).getLast?.getD .null
  link : scan.plink = (rows.filterMap (namedLink py)).getLast?

variable {py}

theorem liveOutcome_plink {payload : Fields} (h : liveOutcome py payload = true) :
    startsWith "plink_" (textAt py payload "external_id") = true := by
  unfold liveOutcome at h
  rw [Bool.and_eq_true] at h
  exact h.1

theorem scanRow_plinkLive (scan : SourceScan) (e : LedgerEntryView) :
    (scanRow py scan e).plinkLive = (scan.plinkLive || liveLink py e) := by
  have hbefore : (scanMarks (scanEvent py scan e) e).plinkLive = scan.plinkLive := by
    unfold scanMarks scanEvent
    split <;> rfl
  rw [← hbefore, scanRow, scanOutcome, liveLink]
  by_cases hkind : e.kind = .outcome
  · simp only [hkind, true_and, decide_true, Bool.true_and]
    by_cases hlive : liveOutcome py e.payload = true
    · rw [if_pos (liveOutcome_plink hlive), if_pos hlive, hlive, Bool.or_true]
    · rw [if_neg hlive, Bool.eq_false_iff.2 hlive, Bool.or_false]
      split
      · split <;> rfl
      · rfl
  · rw [if_neg (fun h => hkind h.1), decide_eq_false hkind, Bool.false_and, Bool.or_false]

theorem scanOutcome_marks (scan : SourceScan) (e : LedgerEntryView) :
    (scanOutcome py scan e).hasLlm = scan.hasLlm ∧
      (scanOutcome py scan e).hasGateBlock = scan.hasGateBlock ∧
        (scanOutcome py scan e).eventSource = scan.eventSource := by
  unfold scanOutcome
  simp only
  split
  · split
    · exact ⟨rfl, rfl, rfl⟩
    · split <;> exact ⟨rfl, rfl, rfl⟩
  · exact ⟨rfl, rfl, rfl⟩

theorem scanRow_hasLlm (scan : SourceScan) (e : LedgerEntryView) :
    (scanRow py scan e).hasLlm = (scan.hasLlm || e.actor = .llm) := by
  rw [scanRow, (scanOutcome_marks _ e).1, scanMarks, scanEvent]
  split <;> rfl

theorem scanRow_hasGateBlock (scan : SourceScan) (e : LedgerEntryView) :
    (scanRow py scan e).hasGateBlock = (scan.hasGateBlock || e.gateResult = some .blocked) := by
  rw [scanRow, (scanOutcome_marks _ e).2.1, scanMarks, scanEvent]
  split <;> rfl

theorem scanRow_eventSource (scan : SourceScan) (e : LedgerEntryView) :
    (scanRow py scan e).eventSource = (namedSource e).getD scan.eventSource := by
  rw [scanRow, (scanOutcome_marks _ e).2.2, scanMarks, scanEvent, namedSource]
  by_cases hkind : e.kind = .event
  · simp only [hkind, if_true, true_and, Json.or]
    split <;> rfl
  · rw [if_neg hkind, if_neg fun h => hkind h.1]
    rfl

theorem scanRow_plink (scan : SourceScan) (e : LedgerEntryView) :
    (scanRow py scan e).plink = (namedLink py e).or scan.plink := by
  have hbefore : (scanMarks (scanEvent py scan e) e).plink = scan.plink := by
    unfold scanMarks scanEvent
    split <;> rfl
  rw [← hbefore, scanRow, scanOutcome, namedLink]
  split
  · split
    · rfl
    · split <;> rfl
  · rfl

/-- Of a row that is no live link the source keeps whether there was a mark of a fixture. -/
theorem scanRow_source {scan : SourceScan} {e : LedgerEntryView} (hlive : liveLink py e = false)
    (hsource : scan.source ≠ .razorpayLive) :
    (scanRow py scan e).source = if fixtureMark py e then .demoFixture else scan.source := by
  have hmarks : ∀ scan : SourceScan, (scanMarks scan e).source = scan.source := fun _ => rfl
  unfold scanRow scanOutcome fixtureMark
  by_cases hevent : e.kind = .event
  · have hother : e.kind ≠ .outcome := by simp [hevent]
    rw [if_neg fun h => hother h.1, hmarks, scanEvent, if_pos hevent, decide_eq_true hevent,
      decide_eq_false hother, Bool.true_and, Bool.false_and, Bool.false_and, Bool.or_false]
  · rw [scanEvent, if_neg hevent, decide_eq_false hevent, Bool.false_and, Bool.false_or]
    by_cases houtcome : e.kind = .outcome ∧
        startsWith "plink_" (textAt py e.payload "external_id") = true
    · have hdead : liveOutcome py e.payload = false := by
        simpa [liveLink, houtcome.1] using hlive
      rw [if_pos houtcome, if_neg (by simp [hdead]), hmarks, decide_eq_true houtcome.1,
        houtcome.2, Bool.true_and, Bool.true_and]
      simp only [ne_eq, hsource, not_false_eq_true, true_and]
      split <;> rfl
    · have hneither : (decide (e.kind = .outcome) &&
          startsWith "plink_" (textAt py e.payload "external_id")) = false := by
        rw [Bool.eq_false_iff]
        intro h
        rw [Bool.and_eq_true] at h
        exact houtcome ⟨of_decide_eq_true h.1, h.2⟩
      rw [if_neg houtcome, hmarks, hneither, Bool.false_and]
      rfl

theorem scanned_scanRow {rows : List LedgerEntryView} {scan : SourceScan}
    (h : Scanned py rows scan) (e : LedgerEntryView) :
    Scanned py (rows ++ [e]) (scanRow py scan e) where
  live := by rw [scanRow_plinkLive, h.live, List.any_append, List.any_cons, List.any_nil,
    Bool.or_false]
  model := by rw [scanRow_hasLlm, h.model, List.any_append, List.any_cons, List.any_nil,
    Bool.or_false]
  blocked := by rw [scanRow_hasGateBlock, h.blocked, List.any_append, List.any_cons, List.any_nil,
    Bool.or_false]
  event := by
    rw [scanRow_eventSource, h.event, List.filterMap_append]
    cases hnamed : namedSource e with
    | none => simp [hnamed]
    | some v => simp [hnamed]
  link := by
    rw [scanRow_plink, h.link, List.filterMap_append]
    cases hnamed : namedLink py e with
    | none => simp [hnamed]
    | some v => simp [hnamed]
  source := by
    intro hnone
    simp only [List.any_append, List.any_cons, List.any_nil, Bool.or_false,
      Bool.or_eq_false_iff] at hnone ⊢
    have hbefore := h.source hnone.1
    have hnotLive : scan.source ≠ .razorpayLive := by
      rw [hbefore]
      split <;> decide
    rw [scanRow_source hnone.2 hnotLive, hbefore]
    cases fixtureMark py e <;> cases rows.any (fixtureMark py) <;> rfl

theorem scanned (py : Conversions) (rows : List LedgerEntryView) :
    Scanned py rows (rows.foldl (scanRow py) {}) := by
  induction rows using List.reverseRecOn with
  | nil => exact ⟨rfl, fun _ => rfl, rfl, rfl, rfl, rfl⟩
  | append_singleton rows e ih =>
      rw [List.foldl_append, List.foldl_cons, List.foldl_nil]
      exact scanned_scanRow ih e

end

/-!
## What the badge says
-/

/-- The source of a case from the kinds of rows that there are. -/
def sourceOf (py : Conversions) (rows : List LedgerEntryView) : CaseSource :=
  let event := (rows.filterMap namedSource).getLast?.getD .null
  if rows.any (liveLink py) then .razorpayLive
  else if rows.any (fixtureMark py) then .demoFixture
  else if rows.any (fun e => e.actor = .llm) then .aiLive
  else if rows.any byPolicy then .aiFallback
  else if isText event "razorpay_webhook" then .razorpayWebhook
  else if isText event "simulator" then .simulator
  else .unknown

theorem classifyCaseSource_source (py : Conversions) (rows : List LedgerEntryView) :
    (classifyCaseSource py rows).source = sourceOf py rows := by
  have h := scanned py rows
  set scan := rows.foldl (scanRow py) {}
  unfold classifyCaseSource sourceOf
  simp only [← h.event, ← h.model, ← h.live]
  by_cases hlive : scan.plinkLive = true
  · rw [if_pos hlive, if_pos hlive]
  · rw [if_neg hlive, if_neg hlive]
    have hnone : rows.any (liveLink py) = false := by
      rw [← h.live]
      exact Bool.eq_false_iff.2 hlive
    have hsource := h.source hnone
    by_cases hfixture : rows.any (fixtureMark py) = true
    · rw [if_pos hfixture] at hsource ⊢
      simp [scan, hsource]
    · rw [if_neg hfixture] at hsource ⊢
      have hunknown : (List.foldl (scanRow py) {} rows).source = .unknown := hsource
      set event : CaseSource := if isText scan.eventSource "razorpay_webhook" then .razorpayWebhook
        else if isText scan.eventSource "simulator" then .simulator else .unknown
      have hevent : event ≠ .razorpayLive ∧ event ≠ .demoFixture := by
        unfold event
        split
        · decide
        · split <;> decide
      rw [hunknown, if_pos rfl, if_pos hevent]

/-- How far a source stands above the others. -/
def CaseSource.standing : CaseSource → ℕ
  | razorpayLive => 4
  | demoFixture => 3
  | aiLive => 2
  | aiFallback => 1
  | _ => 0

theorem standing_sourceOf (py : Conversions) (rows : List LedgerEntryView) :
    (sourceOf py rows).standing =
      if rows.any (liveLink py) then 4
      else if rows.any (fixtureMark py) then 3
      else if rows.any (fun e => e.actor = .llm) then 2
      else if rows.any byPolicy then 1
      else 0 := by
  unfold sourceOf
  simp only
  split_ifs <;> rfl

theorem sourceOf_eq_live_iff (py : Conversions) (rows : List LedgerEntryView) :
    sourceOf py rows = .razorpayLive ↔ rows.any (liveLink py) = true := by
  unfold sourceOf
  simp only
  split_ifs with hlive <;> simp [hlive]

theorem any_kept {rows rows' : List LedgerEntryView} (h : rows <+: rows')
    {p : LedgerEntryView → Bool} (hany : rows.any p = true) : rows'.any p = true := by
  obtain ⟨e, he, hp⟩ := List.any_eq_true.1 hany
  exact List.any_eq_true.2 ⟨e, h.subset he, hp⟩

/-- More rows never lower the standing. -/
theorem standing_kept (py : Conversions) {rows rows' : List LedgerEntryView}
    (h : rows <+: rows') : (sourceOf py rows).standing ≤ (sourceOf py rows').standing := by
  rw [standing_sourceOf, standing_sourceOf]
  by_cases hlive : rows.any (liveLink py) = true
  · rw [if_pos hlive, if_pos (any_kept h hlive)]
  by_cases hfixture : rows.any (fixtureMark py) = true
  · rw [if_neg hlive, if_pos hfixture, if_pos (any_kept h hfixture)]
    split <;> decide
  by_cases hmodel : (rows.any fun e => e.actor = .llm) = true
  · rw [if_neg hlive, if_neg hfixture, if_pos hmodel, if_pos (any_kept h hmodel)]
    split_ifs <;> decide
  by_cases hrules : rows.any byPolicy = true
  · rw [if_neg hlive, if_neg hfixture, if_neg hmodel, if_pos hrules,
      if_pos (any_kept h hrules)]
    split_ifs <;> decide
  · rw [if_neg hlive, if_neg hfixture, if_neg hmodel, if_neg hrules]
    exact Nat.zero_le _

theorem classifyCaseSource_marks (py : Conversions) (ledger : List LedgerEntryView) :
    (classifyCaseSource py ledger).plinkLive = ledger.any (liveLink py) ∧
      (classifyCaseSource py ledger).plink = (ledger.filterMap (namedLink py)).getLast? ∧
      ((classifyCaseSource py ledger).hasLlm = ledger.any fun e => e.actor = .llm) ∧
      (classifyCaseSource py ledger).hasGateBlock =
        ledger.any fun e => e.gateResult = some .blocked := by
  have h := scanned py ledger
  exact ⟨h.live, h.link, h.model, h.blocked⟩

/-- The badge of a case page depends on which kinds of rows the ledger has, and not on their
order: the first source in the order of standing that has a row. -/
theorem badge_reads_rows (py : Conversions) (ledger : List LedgerEntryView) :
    let provenance := classifyCaseSource py ledger
    provenance.source = sourceOf py ledger ∧
      (provenance.label.badge = provenance.source.label.badge ∧
        provenance.label.tone = provenance.source.label.tone) ∧
      provenance.plinkLive = ledger.any (liveLink py) ∧
      provenance.plink = (ledger.filterMap (namedLink py)).getLast? ∧
      (provenance.hasLlm = ledger.any fun e => e.actor = .llm) ∧
      provenance.hasGateBlock = ledger.any fun e => e.gateResult = some .blocked := by
  refine ⟨classifyCaseSource_source py ledger, ?_, classifyCaseSource_marks py ledger⟩
  unfold classifyCaseSource
  simp only
  split
  · split <;> exact ⟨rfl, rfl⟩
  · exact ⟨rfl, rfl⟩

/-!
## The header and the badge
-/

section

variable {py : Conversions}

theorem tellRow_plink (story : CaseStory) (e : LedgerEntryView) :
    (tellRow py story e).plink = (namedLink py e).or story.plink := by
  unfold tellRow namedLink textAt
  cases e.kind with
  | outcome =>
      simp only [true_and]
      split <;> rfl
  | event =>
      simp only
      split <;> rfl
  | gateCheck =>
      simp only
      split
      · rfl
      · split <;> rfl
  | _ => rfl

theorem tellRow_byAi (story : CaseStory) (e : LedgerEntryView) :
    (tellRow py story e).byAi = (story.byAi || (e.kind = .decision && e.actor = .llm)) := by
  unfold tellRow
  cases e.kind with
  | decision => rfl
  | outcome =>
      simp only
      split <;> simp
  | event =>
      simp only
      split <;> simp
  | gateCheck =>
      simp only
      split
      · simp
      · split <;> simp
  | _ => simp

theorem foldl_tellRow_plink (ledger : List LedgerEntryView) :
    (ledger.foldl (tellRow py) {}).plink = (ledger.filterMap (namedLink py)).getLast? := by
  induction ledger using List.reverseRecOn with
  | nil => rfl
  | append_singleton rows e ih =>
      rw [List.foldl_append, List.foldl_cons, List.foldl_nil, tellRow_plink, ih,
        List.filterMap_append]
      cases hnamed : namedLink py e with
      | none => simp [hnamed]
      | some v => simp [hnamed]

theorem foldl_tellRow_byAi (ledger : List LedgerEntryView) :
    (ledger.foldl (tellRow py) {}).byAi =
      ledger.any fun e => e.kind = .decision && e.actor = .llm := by
  induction ledger using List.reverseRecOn with
  | nil => rfl
  | append_singleton rows e ih =>
      rw [List.foldl_append, List.foldl_cons, List.foldl_nil, tellRow_byAi, ih, List.any_append,
        List.any_cons, List.any_nil, Bool.or_false]

theorem liveLink_namesLink {e : LedgerEntryView} (h : liveLink py e = true) :
    (namedLink py e).isSome := by
  rw [liveLink, Bool.and_eq_true] at h
  rw [namedLink, if_pos ⟨of_decide_eq_true h.1, liveOutcome_plink h.2⟩]
  rfl

end

/-- The two readings of one trail agree: the header and the badge name the same link, a live
badge has one, and what the header says of the model and of a block the badge knows. -/
theorem header_agrees_with_badge (py : Conversions) (ledger : List LedgerEntryView)
    (case : Option CaseRow) :
    let story := caseStory py ledger case
    let provenance := classifyCaseSource py ledger
    story.plink = provenance.plink ∧
      (provenance.source = .razorpayLive → story.plink.isSome) ∧
      (story.byAi = true → provenance.hasLlm = true) ∧
      (story.gates = .blocked → provenance.hasGateBlock = true) := by
  intro story provenance
  obtain ⟨-, hlink, hmodel, hblock⟩ := classifyCaseSource_marks py ledger
  have hsame : story.plink = (ledger.filterMap (namedLink py)).getLast? :=
    foldl_tellRow_plink ledger
  refine ⟨hsame.trans hlink.symm, fun hlive => ?_, fun hai => ?_, fun hblocked => ?_⟩
  · rw [classifyCaseSource_source, sourceOf_eq_live_iff] at hlive
    obtain ⟨e, he, hlive⟩ := List.any_eq_true.1 hlive
    obtain ⟨link, hnamed⟩ := Option.isSome_iff_exists.1 (liveLink_namesLink hlive)
    rw [hsame, List.getLast?_isSome]
    exact List.ne_nil_of_mem (List.mem_filterMap.2 ⟨e, he, hnamed⟩)
  · have hby : story.byAi = _ := foldl_tellRow_byAi ledger
    rw [hby] at hai
    obtain ⟨e, he, hdecided⟩ := List.any_eq_true.1 hai
    rw [Bool.and_eq_true] at hdecided
    rw [hmodel]
    exact List.any_eq_true.2 ⟨e, he, hdecided.2⟩
  · have hgates := (foldl_tellRow_blocked_iff py ledger {}).1 hblocked
    obtain ⟨e, he, hresult⟩ := hgates.resolve_left nofun
    rw [hblock]
    exact List.any_eq_true.2 ⟨e, List.mem_of_mem_filter he, decide_eq_true hresult⟩

/-!
## The executor and the badge
-/

/-- An id that the API gives to a link. -/
def IsLiveId (plinkId : String) : Prop :=
  startsWith "plink_" plinkId = true ∧ startsWith "plink_test_" plinkId = false ∧
    startsWith "plink_demo_" plinkId = false

theorem textAt_ofOptStr (py : Conversions) {payload : Fields} {key : String}
    {text : Option String} (h : payload.get? key = some (.ofOptStr text)) :
    textAt py payload key = text.getD "" := by
  rw [textAt, Fields.item, h]
  cases text with
  | none => exact py.textOf_eq _ _ rfl
  | some s =>
      change py.textOf ((Json.str s).or (.str "")) = s
      unfold Json.or
      split
      · exact py.textOf_eq _ _ rfl
      · next hempty =>
          have hs : s = "" := by simpa [Json.truthy] using hempty
          rw [hs]
          exact py.textOf_eq _ _ rfl

theorem liveOutcome_modelDump_iff (py : Conversions) (out : Outcome) :
    liveOutcome py out.modelDump = true ↔
      out.note = "razorpay_payment_link_created" ∧ IsLiveId (out.externalId.getD "") := by
  have hext : textAt py out.modelDump "external_id" = out.externalId.getD "" :=
    textAt_ofOptStr py rfl
  have hnote : textAt py out.modelDump "note" = out.note :=
    textAt_ofOptStr py (show _ = some (Json.ofOptStr (some out.note)) from rfl)
  unfold liveOutcome IsLiveId
  simp only [hext, hnote]
  constructor
  · intro h
    simp only [Bool.and_eq_true, Bool.not_eq_true', decide_eq_true_eq] at h
    exact ⟨h.2.2, h.1, h.2.1.1.1, h.2.1.1.2⟩
  · rintro ⟨hcreated, hplink, htest, hdemo⟩
    have hdry : hasText "dry_run" "razorpay_payment_link_created" = false := by decide
    simp [hcreated, hplink, htest, hdemo, hdry]

theorem not_created_append {start text : String}
    (h : ¬start.toList <+: "razorpay_payment_link_created".toList) :
    start ++ text ≠ "razorpay_payment_link_created" := by
  intro heq
  rw [← heq, String.toList_append] at h
  exact h (List.prefix_append _ _)

theorem retry_not_created (r : RazorpayExecutor) (action : Action) (case : CaseRow)
    (execMeta : ExecuteMeta) :
    (r.retryWithReconcile action case execMeta).note ≠ "razorpay_payment_link_created" := by
  have hintent : "retry_intent_recorded_after_reconcile" ≠ "razorpay_payment_link_created" := by
    decide
  have hskip : "payment_already_succeeded_skip_retry" ≠ "razorpay_payment_link_created" := by
    decide
  unfold RazorpayExecutor.retryWithReconcile
  simp only
  split
  · exact hintent
  · split
    · exact not_created_append (by decide)
    · split
      · exact hskip
      · exact hintent

theorem created_iff (r : RazorpayExecutor) (action : Action) (case : CaseRow)
    (execMeta : ExecuteMeta) :
    (r.createPaymentLink action case execMeta).note = "razorpay_payment_link_created" ∧
        IsLiveId ((r.createPaymentLink action case execMeta).externalId.getD "") ↔
      r.dryRun = false ∧ execMeta.dryRun = false ∧
        ∃ plinkId data, r.postPaymentLink (RazorpayExecutor.linkPayload action case execMeta) =
          .created (some plinkId) data ∧ IsLiveId plinkId := by
  have hdryRun : "dry_run_payment_link" ≠ "razorpay_payment_link_created" := by decide
  have hrefused : "payment_link_http_error" ≠ "razorpay_payment_link_created" := by decide
  unfold RazorpayExecutor.createPaymentLink
  simp only
  by_cases hdry : (r.dryRun || execMeta.dryRun) = true
  · rw [if_pos hdry]
    refine iff_of_false (fun h => hdryRun h.1) ?_
    rintro ⟨hr, hmeta, -⟩
    rw [hr, hmeta] at hdry
    cases hdry
  · have hearnest := hdry
    rw [Bool.or_eq_true, not_or, Bool.not_eq_true, Bool.not_eq_true] at hearnest
    rw [if_neg hdry]
    simp only [hearnest.1, hearnest.2, true_and]
    cases r.postPaymentLink (RazorpayExecutor.linkPayload action case execMeta) with
    | refused statusCode text =>
        refine iff_of_false (fun h => hrefused h.1) ?_
        rintro ⟨_, _, hreply, -⟩
        cases hreply
    | raised text =>
        refine iff_of_false (fun h => not_created_append (by decide) h.1) ?_
        rintro ⟨_, _, hreply, -⟩
        cases hreply
    | created plinkId data =>
        cases plinkId with
        | none =>
            have hempty : startsWith "plink_" "" ≠ true := by decide
            refine iff_of_false (fun h => hempty h.2.1) ?_
            rintro ⟨_, _, hreply, -⟩
            cases hreply
        | some plinkId =>
            constructor
            · exact fun h => ⟨plinkId, data, rfl, h.2⟩
            · rintro ⟨_, _, hreply, hlive⟩
              cases hreply
              exact ⟨rfl, hlive⟩

/-- What Razorpay executes is badged live exactly when it was a link, in earnest, and the API
has created it under an id of its own. -/
theorem live_iff_created (py : Conversions) (r : RazorpayExecutor) (action : Action)
    (case : CaseRow) (execMeta : ExecuteMeta) :
    liveOutcome py (r.run action case execMeta).modelDump = true ↔
      (action.verb = .sendPaymentLink ∨ action.verb = .requestMandateUpdate) ∧
        r.dryRun = false ∧ execMeta.dryRun = false ∧
          ∃ plinkId data,
            r.postPaymentLink (RazorpayExecutor.linkPayload action case execMeta) =
              .created (some plinkId) data ∧ IsLiveId plinkId := by
  have hhuman : "no_razorpay_call" ≠ "razorpay_payment_link_created" := by decide
  rw [liveOutcome_modelDump_iff]
  unfold RazorpayExecutor.run
  cases action.verb with
  | escalateHuman => exact iff_of_false (fun h => hhuman h.1) (by simp)
  | scheduleRetry =>
      exact iff_of_false (fun h => retry_not_created r action case execMeta h.1) (by simp)
  | sendPaymentLink =>
      simp only [true_or, true_and]
      exact created_iff r action case execMeta
  | requestMandateUpdate =>
      simp only [or_true, true_and]
      exact created_iff r action case execMeta

/-!
## Over runs
-/

/-- The provenance on the page of a case. -/
def provenanceOf (py : Conversions) (utcnow : ℕ → DateTime) (db : Db) (caseId : String) :
    Provenance :=
  classifyCaseSource py (listLedger (openSession utcnow db) caseId)

theorem listLedger_kept (utcnow : ℕ → DateTime) {db db' : Db} (h : Extends db db')
    (caseId : String) :
    listLedger (openSession utcnow db) caseId <+: listLedger (openSession utcnow db') caseId :=
  (h.ledger.filter _).map _

section

variable (py : Conversions) (utcnow : ℕ → DateTime)

/-- Whatever comes, no case page falls back to a lower badge, and neither a live link nor the
mark of the model or of a block is lost. -/
theorem badge_kept (db : Db) (entries : List Entry) (caseId : String) :
    let before := provenanceOf py utcnow db caseId
    let after := provenanceOf py utcnow (Run.final (handle utcnow) db entries) caseId
    before.source.standing ≤ after.source.standing ∧
      (before.source = .razorpayLive → after.source = .razorpayLive) ∧
      (before.plinkLive = true → after.plinkLive = true) ∧
      (before.hasLlm = true → after.hasLlm = true) ∧
      (before.hasGateBlock = true → after.hasGateBlock = true) := by
  intro before after
  have hprefix := listLedger_kept utcnow ((handle_growing utcnow).final db entries) caseId
  obtain ⟨hlive, -, hmodel, hblock⟩ :=
    classifyCaseSource_marks py (listLedger (openSession utcnow db) caseId)
  obtain ⟨hlive', -, hmodel', hblock'⟩ := classifyCaseSource_marks py
    (listLedger (openSession utcnow (Run.final (handle utcnow) db entries)) caseId)
  simp only [before, after, provenanceOf, classifyCaseSource_source, sourceOf_eq_live_iff, hlive,
    hlive', hmodel, hmodel', hblock, hblock']
  exact ⟨standing_kept py hprefix, any_kept hprefix, any_kept hprefix,
    any_kept hprefix, any_kept hprefix⟩

theorem any_liveLink_listLedger (db : Db) (caseId : String) :
    (listLedger (openSession utcnow db) caseId).any (liveLink py) = true ↔
      ∃ row ∈ db.history, row.caseId = caseId ∧ row.kind = .outcome ∧
        liveOutcome py row.payload = true := by
  rw [List.any_eq_true]
  constructor
  · rintro ⟨e, he, hlive⟩
    obtain ⟨row, hrow, rfl⟩ := List.mem_map.1 he
    obtain ⟨hmem, hcase⟩ := List.mem_filter.1 hrow
    rw [liveLink, Bool.and_eq_true] at hlive
    exact ⟨row.toLedgerColumns, List.mem_map_of_mem hmem, of_decide_eq_true hcase,
      of_decide_eq_true hlive.1, hlive.2⟩
  · rintro ⟨row, hrow, hcase, hkind, hlive⟩
    obtain ⟨stored, hstored, rfl⟩ := List.mem_map.1 hrow
    refine ⟨stored.view, List.mem_map_of_mem (List.mem_filter.2 ⟨hstored, ?_⟩), ?_⟩
    · exact decide_eq_true hcase
    · rw [liveLink, Bool.and_eq_true]
      exact ⟨decide_eq_true hkind, hlive⟩

/-- Where an outcome row of a run comes from: it was there before, it is what an executor has
returned for its case or what a paid link has written, or a replay shows it. -/
theorem outcome_final (db : Db) (entries : List Entry) :
    ∀ row ∈ (Run.final (handle utcnow) db entries).history, row.kind = .outcome →
      row ∈ db.history ∨
        Backed (Run.emitted (handle utcnow) db entries) row.caseId row.payload ∨
          ∃ entry ∈ entries, entry.Shows row.payload := by
  induction entries generalizing db with
  | nil => exact fun row hrow _ => Or.inl hrow
  | cons entry entries ih =>
      intro row hrow hkind
      rw [Run.emitted_cons]
      rcases ih _ row hrow hkind with hbefore | hbacked | ⟨shown, hshown, hshows⟩
      · by_cases hshows : entry.Shows row.payload
        · exact Or.inr (Or.inr ⟨entry, List.mem_cons_self, hshows⟩)
        · have hwritten := (handle_handled utcnow db entry).written.mono fun _ _ h f hf hkind hQ =>
            (h.backs f hf hkind).resolve_right hQ
          rcases Written.outcomes (Q := fun outcome => ¬entry.Shows outcome) hwritten row hbefore
            hkind hshows with hbefore | hbacked
          · exact Or.inl hbefore
          · have hcalls := entry.committedCalls_subset (handle utcnow db entry).2
            exact Or.inr (Or.inl (hbacked.mono
              (List.Subset.trans hcalls (List.subset_append_left _ _))))
      · exact Or.inr (Or.inl (hbacked.mono (List.subset_append_right _ _)))
      · exact Or.inr (Or.inr ⟨shown, List.mem_cons_of_mem _ hshown, hshows⟩)

/-- The outcome of a paid link is no live link: its note is another. -/
theorem not_live_of_paid {payload : Fields}
    (h : payload.get? "note" = some (.str paidNote)) : liveOutcome py payload = false := by
  have hnote : textAt py payload "note" = paidNote := by
    rw [textAt, Fields.item, h]
    exact py.textOf_eq _ _ rfl
  have hother : paidNote ≠ "razorpay_payment_link_created" := by decide
  unfold liveOutcome
  simp only [hnote, decide_eq_false hother, Bool.and_false]

/-- A page shows a live link only where an executor has returned one for the case: the page
showed it before, or a call of the run did, or a replay has it in its fixture. -/
theorem live_badge_backed {db : Db} {entries : List Entry} {caseId : String}
    (hlive : (provenanceOf py utcnow (Run.final (handle utcnow) db entries) caseId).source =
      .razorpayLive) :
    (provenanceOf py utcnow db caseId).source = .razorpayLive ∨
      (∃ c ∈ Run.emitted (handle utcnow) db entries, c.caseId = caseId ∧
        liveOutcome py c.result = true) ∨
      ∃ env fixture, .replay env fixture ∈ entries ∧ liveOutcome py fixture.outcomeOr = true := by
  simp only [provenanceOf, classifyCaseSource_source, sourceOf_eq_live_iff,
    any_liveLink_listLedger] at hlive ⊢
  obtain ⟨row, hrow, hcase, hkind, hlive⟩ := hlive
  rcases outcome_final utcnow db entries row hrow hkind with
    hbefore | (⟨c, hc, hown, hresult⟩ | hpaid) | ⟨entry, hentry, env, fixture, rfl, hshown⟩
  · exact Or.inl ⟨row, hbefore, hcase, hkind, hlive⟩
  · exact Or.inr (Or.inl ⟨c, hc, hown.trans hcase, by rwa [hresult]⟩)
  · rw [not_live_of_paid py hpaid] at hlive
    cases hlive
  · exact Or.inr (Or.inr ⟨env, fixture, hentry, by rwa [← hshown]⟩)

end

/-- The link of the button, on the page of the fresh case. -/
theorem live_badge_backed_button :
    (provenanceOf plainText (fun _ => daytime) freshDb "case_1").source = .razorpayLive ∨
      (∃ c ∈ Run.emitted (handle fun _ => daytime) freshDb [.createLink linkExecutor "case_1"],
        c.caseId = "case_1" ∧ liveOutcome plainText c.result = true) ∨
      ∃ env fixture, Entry.replay env fixture ∈ [.createLink linkExecutor "case_1"] ∧
        liveOutcome plainText fixture.outcomeOr = true :=
  live_badge_backed plainText (fun _ => daytime) (by
    rw [provenanceOf, classifyCaseSource_source]
    decide)

end RecoveryAgent.Api
