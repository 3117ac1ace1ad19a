import Mathlib.Data.List.TakeWhile
import RecoveryAgent.Eval.Types
import RecoveryAgent.Memory.Rag
import RecoveryAgent.Memory.Search
import RecoveryAgent.Python.Digits

/-!
# Retrieval for a payment

`retrieve_for_payment` of `memory/rag.py`, over `search_with_meta` of `memory/service.py`.
Its metrics tell what was found, or why nothing was. Only the client's own errors become
metrics: what the answer's numbers raise leaves the retrieval.
-/

namespace RecoveryAgent.Memory

open Library Python Ai Eval

/-- What a retrieval draws from outside: its settings, how values are read, how long it took,
what the service answers, and an exception of Python as others see it. -/
structure RetrievalEnv where
  config : InherentConfig
  py : Readers
  raised : PyError → Failure
  elapsedMs : ℚ
  service : Service

/-!
## The query
-/

/-- `s.replace(old, new)` of single characters. -/
def replaceChar (old new : Char) (s : String) : String :=
  String.ofList (s.toList.map fun c => if c = old then new else c)

def railLabels : List (String × String) :=
  [("card", "card"), ("upi_autopay", "UPI"), ("enach", "eNACH")]

/-- The verb hints of `build_retrieval_query`. -/
def verbHints : List (String × String) :=
  [("insufficient_funds", "schedule retry salary window"),
    ("issuer_transient", "quick silent retry"),
    ("gateway_timeout", "quick silent retry"),
    ("card_expired", "send payment link update card"),
    ("token_invalid", "send payment link retokenize"),
    ("mandate_revoked", "request mandate update"),
    ("do_not_honour", "spaced retry then link"),
    ("risk_fraud", "escalate human prohibited")]

def failureReasonOf (text : String) : Option FailureReason :=
  [.insufficientFunds, .issuerTransient, .gatewayTimeout, .cardExpired, .tokenInvalid,
    .mandateRevoked, .riskFraud, .doNotHonour].find? fun reason => reason.value = text

def buildRetrievalQuery (failureReason rail : String) : String :=
  let railLabel := (railLabels.lookup rail).getD (replaceChar '_' ' ' rail)
  let reasonLabel := replaceChar '_' ' ' failureReason
  let rcLabel := ((failureReasonOf failureReason).map fun reason =>
    replaceChar '_' ' ' (recoveryClassFor reason).value).getD ""
  let verbHint := (verbHints.lookup failureReason).getD ""
  " ".intercalate ([railLabel, reasonLabel, rcLabel, verbHint, "payment recovery"].filter (· ≠ ""))

/-!
## The results
-/

structure RetrievalResult where
  episodeId : Option String
  documentId : Option String
  documentName : Option String
  content : Option String
  score : Option PyFloat
  metadata : Fields

/-- A field that takes a text or `None`. -/
def optStr? : Json → Option (Option String)
  | .null => some none
  | .str s => some (some s)
  | _ => none

/-- `RetrievalResult.model_validate`. Only the two fields that are taken as they come can be
of a wrong type. -/
def RetrievalResult.validate (row : SearchRow) : Option RetrievalResult := do
  let documentId ← optStr? row.documentId
  let documentName ← optStr? row.documentName
  return {
    episodeId := row.episodeId
    documentId
    documentName
    content := row.content
    score := row.score
    metadata := row.metadata }

/-- `x < y`. A NaN is neither below nor above anything. -/
def floatLt : PyFloat → PyFloat → Bool
  | .fin p, .fin q => p < q
  | .negInf, .fin _ => true
  | .fin _, .posInf => true
  | .negInf, .posInf => true
  | _, _ => false

def topScore (results : List RetrievalResult) : Option PyFloat :=
  match results.filterMap (·.score) with
  | [] => none
  | x :: xs => some (xs.foldl (fun best y => if floatLt best y then y else best) x)

/-- What `-case\d+-(.+)$` takes of a text that starts with it. The dot takes no newline, and
the end may stand before a last one. -/
def caseSuffix? (cs : List Char) : Option (List Char) :=
  if "-case".toList.isPrefixOf cs then
    let digits := (cs.drop 5).takeWhile isDecimal
    match digits, (cs.drop 5).dropWhile isDecimal with
    | _ :: _, '-' :: body =>
        let line := body.takeWhile (· ≠ '\n')
        if line ≠ [] ∧ body.drop line.length ∈ [[], ['\n']] then some line else none
    | _, _ => none
  else none

def actionFromDocumentName (name : Option String) : Option String :=
  name.bind fun name =>
    let stem := if endsWith ".txt" name then slice (name.length - 4) name else name
    (stem.toList.tails.findSome? caseSuffix?).map fun line =>
      replaceChar '-' '_' (String.ofList line)

example : actionFromDocumentName (some "sim-case48-delayed-retry.txt") = some "delayed_retry" := by
  decide

def episodeSummary (r : RetrievalResult) : Fields :=
  [("document_id", (Json.ofOptStr r.documentId).or (.ofOptStr r.episodeId)),
    ("document_name", .ofOptStr r.documentName),
    ("score", RagMetrics.optFloat r.score),
    ("recovery_class", Fields.item r.metadata "recovery_class"),
    ("failure_reason", Fields.item r.metadata "failure_reason"),
    ("action", (Fields.item r.metadata "action").or
      (.ofOptStr (actionFromDocumentName r.documentName))),
    ("outcome", Fields.item r.metadata "outcome"),
    ("seed", Fields.item r.metadata "seed")]

def episodeSummaries (results : List RetrievalResult) : List Fields :=
  (results.take 8).map episodeSummary

/-- `round(x, digits)`. What is not finite stays. -/
def roundFloat (digits : ℕ) : PyFloat → PyFloat
  | .fin q => .fin (round q digits)
  | x => x

/-!
## The retrieval
-/

/-- The results that a search is left with, and the time that the service gives. -/
def retained (parsed : List SearchRow × Option SearchResponseMeta) :
    List RetrievalResult × Option PyFloat :=
  (parsed.1.filterMap RetrievalResult.validate, parsed.2.bind (·.processingTimeMs))

section

variable (env : RetrievalEnv)

def searchWithMeta (query : String) :
    Except ClientError (List RetrievalResult × Option PyFloat) :=
  if !env.config.enabled then .ok ([], none)
  else if strip query = "" then .ok ([], none)
  else (search env.py env.config env.service).map retained

/-- The time of the search, as it is measured here. -/
def elapsed : PyFloat := .fin (round env.elapsedMs 2)

/-- The metrics of a search that fails with an error of the client. -/
def failedMetrics (query text : String) : RagMetrics where
  enabled := true
  query := some query
  retrievalLatencyMs := some (elapsed env)
  error := some text

/-- The metrics of a search that gives results. -/
def foundMetrics (query : String) (found : List RetrievalResult × Option PyFloat) : RagMetrics where
  enabled := true
  available := true
  query := some query
  similarCases := found.1.length
  retrievalLatencyMs := some (roundFloat 2 (found.2.getD (elapsed env)))
  topSimilarityScore := topScore found.1
  episodes := episodeSummaries found.1
  usedInRecovery := true

/-- The `try` block of `_retrieve_async`, and what follows it. -/
def settled (query : String) :
    Except ClientError (List RetrievalResult × Option PyFloat) → Except Failure RagMetrics
  | .ok found => .ok (foundMetrics env query found)
  | .error (.inherent text) => .ok (failedMetrics env query text)
  | .error (.python e) => .error (env.raised e)
  | .error (.other f) => .error f

def retrieveAsync (query : String) : Except Failure RagMetrics :=
  if !env.config.enabled then .ok { query := some query }
  else if env.config.apiKey = "" then
    .ok
      { enabled := true
        query := some query
        error := some "INHERENT_API_KEY not configured" }
  else settled env query (searchWithMeta env query)

def isRagConfigured (config : InherentConfig) : Bool := config.enabled && config.apiKey ≠ ""

def retrieveForPayment (failureReason rail : String) : Except Failure RagMetrics :=
  let query := buildRetrievalQuery failureReason rail
  if !isRagConfigured env.config then .ok { query := some query }
  else retrieveAsync env query

end

/-!
## When it returns
-/

theorem mem_intercalate {sep part : String} {parts : List String} {c : Char} (hpart : part ∈ parts)
    (hc : c ∈ part.toList) : c ∈ (sep.intercalate parts).toList := by
  induction parts with
  | nil => cases hpart
  | cons head tail ih =>
      rcases eq_or_ne tail [] with rfl | htail
      · rw [String.intercalate_singleton, ← List.mem_singleton.1 hpart]
        exact hc
      · rw [String.intercalate_cons_of_ne_nil htail, String.toList_append, String.toList_append,
          List.mem_append, List.mem_append]
        rcases List.mem_cons.1 hpart with rfl | hpart
        · exact Or.inl (Or.inl hc)
        · exact Or.inr (ih hpart)

/-- A text with a character that is no space is not stripped to nothing. -/
theorem strip_ne_empty {s : String} {c : Char} (hc : c ∈ s.toList) (hspace : isSpace c = false) :
    strip s ≠ "" := by
  intro h
  have hnil : (strip s).toList = [] := by rw [h]; rfl
  rw [strip, String.toList_ofList, List.reverse_eq_nil_iff, List.dropWhile_eq_nil_iff] at hnil
  rw [← List.takeWhile_append_dropWhile (p := isSpace) (l := s.toList)] at hc
  have hblank : isSpace c = true := by
    rcases List.mem_append.1 hc with hc | hc
    · exact List.mem_takeWhile_imp hc
    · exact hnil c (List.mem_reverse.2 hc)
  rw [hspace] at hblank
  cases hblank

/-- There is always something to search for. -/
theorem strip_buildRetrievalQuery (failureReason rail : String) :
    strip (buildRetrievalQuery failureReason rail) ≠ "" := by
  have hword : 'y' ∈ (buildRetrievalQuery failureReason rail).toList := by
    have hkept : (decide ("payment recovery" ≠ "")) = true := by decide
    exact mem_intercalate (List.mem_filter.2 ⟨by simp, hkept⟩) (by decide)
  exact strip_ne_empty hword (by decide)

section

variable {env : RetrievalEnv}

/-- What a parsed answer, or none, makes of the retrieval. -/
theorem settled_parsed_iff {R : RagMetrics → Prop} {query : String}
    (x : Except PyError (List SearchRow × Option SearchResponseMeta)) :
    (∃ rag, settled env query ((x.mapError .python).map retained) = .ok rag ∧ R rag) ↔
      ∃ parsed, x = .ok parsed ∧ R (foundMetrics env query (retained parsed)) := by
  cases x with
  | error e =>
      constructor
      · rintro ⟨rag, h, -⟩
        cases h
      · rintro ⟨parsed, h, -⟩
        cases h
  | ok parsed =>
      constructor
      · rintro ⟨rag, h, hR⟩
        cases h
        exact ⟨parsed, rfl, hR⟩
      · rintro ⟨parsed', h, hR⟩
        cases h
        exact ⟨_, rfl, hR⟩

/-- A property that the metrics have whenever the client fails is a property of the answer. -/
theorem settled_search_iff {R : RagMetrics → Prop} {P : Json → Prop} {query : String}
    (henabled : env.config.enabled = true) (hfailed : ∀ text, R (failedMetrics env query text))
    (hfound : ∀ payload, (∃ parsed, parseSearchResponse env.py payload = .ok parsed ∧
      R (foundMetrics env query (retained parsed))) ↔ P payload) :
    (∃ rag, settled env query ((search env.py env.config env.service).map retained) = .ok rag ∧
      R rag) ↔ AnswerMeets env.config env.service P := by
  simp only [search, henabled, Bool.not_true, Bool.false_eq_true, if_false]
  refine fetchJson_iff (T := fun fetched => ∃ rag, settled env query
    ((fetched >>= fun answer =>
      (parseSearchResponse env.py answer.2).mapError .python).map retained) = .ok rag ∧
        R rag) ?_ ?_ ?_ ?_
  · exact fun text => ⟨_, rfl, hfailed text⟩
  · rintro e ⟨rag, h, -⟩
    cases h
  · rintro f ⟨rag, h, -⟩
    cases h
  · intro resp payload
    rw [← hfound payload]
    exact settled_parsed_iff (parseSearchResponse env.py payload)

/-- A property that the metrics have whenever no answer is parsed is a property of the answer. -/
theorem retrieveForPayment_iff {R : RagMetrics → Prop} {P : Json → Prop}
    {failureReason rail : String} (hidle : ∀ query, R { query := some query })
    (hfailed : ∀ query text, R (failedMetrics env query text))
    (hfound : ∀ query payload, (∃ parsed, parseSearchResponse env.py payload = .ok parsed ∧
      R (foundMetrics env query (retained parsed))) ↔ P payload) :
    (∃ rag, retrieveForPayment env failureReason rail = .ok rag ∧ R rag) ↔
      isRagConfigured env.config = false ∨ AnswerMeets env.config env.service P := by
  have hquery := strip_buildRetrievalQuery failureReason rail
  unfold retrieveForPayment
  generalize buildRetrievalQuery failureReason rail = query at hquery
  cases hconfigured : isRagConfigured env.config with
  | false => exact iff_of_true ⟨_, rfl, hidle query⟩ (Or.inl rfl)
  | true =>
      obtain ⟨henabled, hkey⟩ := Bool.and_eq_true_iff.1 hconfigured
      rw [or_iff_right Bool.noConfusion, ← settled_search_iff henabled (hfailed query)
        (hfound query)]
      simp only [Bool.not_true, Bool.false_eq_true, if_false, retrieveAsync, henabled,
        if_neg (of_decide_eq_true hkey), searchWithMeta, if_neg hquery]

/-- The retrieval returns exactly when it is not configured or its answer can be read. -/
theorem retrieveForPayment_returns_iff (failureReason rail : String) :
    (∃ rag, retrieveForPayment env failureReason rail = .ok rag) ↔
      isRagConfigured env.config = false ∨
        AnswerMeets env.config env.service (ReadableAnswer env.py) := by
  have hall : (∃ rag, retrieveForPayment env failureReason rail = .ok rag ∧ True) ↔
      isRagConfigured env.config = false ∨
        AnswerMeets env.config env.service (ReadableAnswer env.py) := by
    apply retrieveForPayment_iff (R := fun _ => True)
    · exact fun query => trivial
    · exact fun query text => trivial
    · intro query payload
      simpa only [and_true] using parseSearchResponse_iff payload
  simpa only [and_true] using hall

/-- The time that is kept with the metrics is a number. -/
def FiniteLatency (rag : RagMetrics) : Prop :=
  ∀ latency ∈ rag.retrievalLatencyMs, isFinite latency = true

theorem finiteLatency_foundMetrics (query : String)
    (found : List RetrievalResult × Option PyFloat) :
    FiniteLatency (foundMetrics env query found) ↔ ∀ time ∈ found.2, isFinite time = true := by
  have hround : ∀ x : PyFloat, isFinite (roundFloat 2 x) = isFinite x := fun x => by
    cases x <;> rfl
  unfold FiniteLatency foundMetrics
  simp only [Option.mem_def, Option.some.injEq, forall_eq', hround]
  cases found.2 with
  | none => exact iff_of_true rfl nofun
  | some time => simp

/-- It returns with a time that is a number exactly when the answer gives such a time, if it
gives one. -/
theorem retrieveForPayment_finite_iff (failureReason rail : String) :
    (∃ rag, retrieveForPayment env failureReason rail = .ok rag ∧ FiniteLatency rag) ↔
      isRagConfigured env.config = false ∨
        AnswerMeets env.config env.service (ShowableAnswer env.py) := by
  apply retrieveForPayment_iff
  · intro query latency h
    cases h
  · intro query text latency h
    cases h
    rfl
  · intro query payload
    simp only [finiteLatency_foundMetrics]
    rw [ShowableAnswer, ← parseSearchResponse_iff]
    constructor
    · rintro ⟨parsed, h, hfinite⟩
      exact ⟨⟨parsed, h⟩, (finite_parseSearchResponse h).1 hfinite⟩
    · rintro ⟨⟨parsed, h⟩, hfinite⟩
      exact ⟨parsed, h, (finite_parseSearchResponse h).2 hfinite⟩

end

end RecoveryAgent.Memory
