import RecoveryAgent.Memory.InherentClient

/-!
# Reading the answer to a search

`parse_search_response` of `memory/inherent_client.py`. It takes what it finds of an answer
and says that it never raises; but the numbers of the answer go through `int` and `float`,
which refuse what is no number. An answer is readable when they do not.
-/

namespace RecoveryAgent.Memory

open Library Python Ai

/-- `float(v) if v is not None else None`. -/
def optFloat (py : Readers) (v : Json) : Except PyError (Option PyFloat) :=
  match v with
  | .null => .ok none
  | v => (pyFloat py v).map some

structure SearchResponseMeta where
  query : String
  totalResults : ℤ
  processingTimeMs : Option PyFloat
  searchMode : String

/-- A row that is made of one result. -/
structure SearchRow where
  episodeId : Option String
  documentId : Json
  documentName : Json
  content : Option String
  score : Option PyFloat
  metadata : Fields

def extractResultList (d : Fields) : List Json :=
  (["results", "hits", "documents", "data", "items"].findSome? fun key =>
    match Fields.get? d key with
    | some (.arr xs) => some xs
    | _ => none).getD []

def resultKeys : List String :=
  ["episode_id", "document_id", "chunk_id", "id", "content", "text", "body", "score",
    "similarity", "vector_similarity", "metadata", "document_name", "context_before",
    "context_after"]

/-- `str(v) if v is not None else None`. -/
def optText (py : Readers) (v : Json) : Option String :=
  match v with
  | .null => none
  | v => some (py.textOf v)

/-- What is read as the score of a result. -/
def scoreOf (raw : Fields) : Json :=
  match Fields.item raw "score" with
  | .null => (Fields.item raw "similarity").or (Fields.item raw "vector_similarity")
  | v => v

def metadataOf (raw : Fields) : Fields :=
  let metadata :=
    match Fields.item raw "metadata" with
    | .obj d => d
    | _ => raw.filter fun kv => kv.1 ∉ resultKeys
  if (Fields.item raw "document_name").truthy then
    metadata.setDefault "document_name" (Fields.item raw "document_name")
  else metadata

section

variable (py : Readers)

/-- One round of the loop of `parse_search_response`, on a result that is a dictionary. -/
def parseRow (raw : Fields) : Except PyError SearchRow := do
  let episodeId := (((Fields.item raw "episode_id").or (Fields.item raw "document_id")).or
    (Fields.item raw "id")).or (Fields.item raw "chunk_id")
  let content := ((Fields.item raw "content").or (Fields.item raw "text")).or
    (Fields.item raw "body")
  let score ← optFloat py (scoreOf raw)
  return {
    episodeId := optText py episodeId
    documentId := Fields.item raw "document_id"
    documentName := Fields.item raw "document_name"
    content := optText py content
    score
    metadata := metadataOf raw }

/-- The results that are dictionaries. -/
def rawRows (results : List Json) : List Fields :=
  results.filterMap fun raw =>
    match raw with
    | .obj d => some d
    | _ => none

def parseSearchResponse (payload : Json) :
    Except PyError (List SearchRow × Option SearchResponseMeta) :=
  match payload with
  | .obj d => do
      let totalResults ← pyInt py.toConversions ((Fields.item d "total_results").or (.int 0))
      let processingTimeMs ← optFloat py (Fields.item d "processing_time_ms")
      let found : SearchResponseMeta :=
        { query := py.textOf ((Fields.get? d "query").getD (.str ""))
          totalResults
          processingTimeMs
          searchMode := py.textOf ((Fields.item d "search_mode").or (.str "semantic")) }
      let rows ← (rawRows (extractResultList d)).mapM (parseRow py)
      return (rows, some found)
  | _ => .ok ([], none)

def search (config : InherentConfig) (service : Service) :
    Except ClientError (List SearchRow × Option SearchResponseMeta) :=
  if !config.enabled then .ok ([], none)
  else do
    let (_, data) ← fetchJson config "search" service
    (parseSearchResponse py data).mapError .python

/-!
## Readable answers
-/

/-- What `int` reads, once it is true: a number that is neither infinite nor NaN, or a text of
an integer. -/
def IntReadable : Json → Prop
  | .null => True
  | .bool _ => True
  | .int _ => True
  | .float (.fin _) => True
  | .float _ => False
  | .str s => s = "" ∨ (py.intOfText s).isSome
  | .arr xs => xs = []
  | .obj d => d = []

/-- What `float` reads, unless it is `None`: an integer below the overflow, a float, or a text
of one. -/
def FloatReadable : Json → Prop
  | .null => True
  | .bool _ => True
  | .int i => i.natAbs < floatOverflow
  | .float _ => True
  | .str s => (py.floatOfText s).isSome
  | .arr _ => False
  | .obj _ => False

/-- An answer whose numbers can be read: the total, the time, and the score of every result
that is a dictionary. -/
def ReadableAnswer : Json → Prop
  | .obj d =>
      IntReadable py (Fields.item d "total_results") ∧
        FloatReadable py (Fields.item d "processing_time_ms") ∧
          ∀ raw ∈ rawRows (extractResultList d), FloatReadable py (scoreOf raw)
  | _ => True

/-- Neither NaN nor infinite. -/
def isFinite : PyFloat → Bool
  | .fin _ => true
  | _ => false

/-- What is no NaN and no infinity, and no text of them. -/
def FiniteNumber : Json → Prop
  | .float x => isFinite x = true
  | .str s => ∀ x ∈ py.floatOfText s, isFinite x = true
  | _ => True

/-- An answer whose time is a number, if it has one. -/
def FiniteTime : Json → Prop
  | .obj d => FiniteNumber py (Fields.item d "processing_time_ms")
  | _ => True

/-- A readable answer with such a time. -/
def ShowableAnswer (payload : Json) : Prop := ReadableAnswer py payload ∧ FiniteTime py payload

variable {py}

theorem pyInt_or_zero_iff (v : Json) :
    (∃ i, pyInt py.toConversions (v.or (.int 0)) = .ok i) ↔ IntReadable py v := by
  have hzero : ∃ i, pyInt py.toConversions (.int 0) = .ok i := ⟨0, rfl⟩
  unfold Json.or
  cases v with
  | null => exact iff_of_true hzero trivial
  | bool b =>
      cases b
      · exact iff_of_true hzero trivial
      · exact iff_of_true ⟨1, rfl⟩ trivial
  | int i =>
      refine iff_of_true ?_ trivial
      split
      · exact ⟨i, rfl⟩
      · exact hzero
  | float x =>
      cases x with
      | fin q =>
          refine iff_of_true ?_ trivial
          split
          · exact ⟨truncate q, rfl⟩
          · exact hzero
      | nan => exact iff_of_false nofun id
      | posInf => exact iff_of_false nofun id
      | negInf => exact iff_of_false nofun id
  | str s =>
      rcases eq_or_ne s "" with rfl | hs
      · exact iff_of_true hzero (Or.inl rfl)
      · have htruthy : (Json.str s).truthy = true := by simpa [Json.truthy] using hs
        rw [if_pos htruthy, IntReadable, or_iff_right hs, pyInt]
        cases py.intOfText s with
        | none => exact iff_of_false nofun nofun
        | some i => exact iff_of_true ⟨i, rfl⟩ rfl
  | arr xs =>
      cases xs with
      | nil => exact iff_of_true hzero rfl
      | cons x xs => exact iff_of_false nofun nofun
  | obj d =>
      cases d with
      | nil => exact iff_of_true hzero rfl
      | cons x d => exact iff_of_false nofun nofun

theorem optFloat_iff (v : Json) : (∃ x, optFloat py v = .ok x) ↔ FloatReadable py v := by
  cases v with
  | null => exact iff_of_true ⟨none, rfl⟩ trivial
  | bool b => exact iff_of_true ⟨_, rfl⟩ trivial
  | int i =>
      rw [FloatReadable, ← toFloat_eq_ok_iff]
      change (∃ x, ((toFloat i).map PyFloat.fin).map some = .ok x) ↔ _
      cases toFloat i with
      | error e => exact iff_of_false nofun nofun
      | ok q => exact iff_of_true ⟨_, rfl⟩ ⟨q, rfl⟩
  | float x => exact iff_of_true ⟨some x, rfl⟩ trivial
  | str s =>
      change (∃ x, (pyFloat py (.str s)).map some = .ok x) ↔ (py.floatOfText s).isSome = true
      rw [pyFloat]
      cases py.floatOfText s with
      | none => exact iff_of_false nofun nofun
      | some x => exact iff_of_true ⟨some x, rfl⟩ rfl
  | arr xs => exact iff_of_false nofun id
  | obj d => exact iff_of_false nofun id

theorem parseRow_iff (raw : Fields) :
    (∃ row, parseRow py raw = .ok row) ↔ FloatReadable py (scoreOf raw) := by
  rw [← optFloat_iff, parseRow]
  cases optFloat py (scoreOf raw) with
  | error e => exact iff_of_false nofun nofun
  | ok score => exact iff_of_true ⟨_, rfl⟩ ⟨score, rfl⟩

/-- An answer is parsed exactly when it is readable. -/
theorem parseSearchResponse_iff (payload : Json) :
    (∃ parsed, parseSearchResponse py payload = .ok parsed) ↔ ReadableAnswer py payload := by
  cases payload with
  | obj d =>
      have hrows : (∃ rows, (rawRows (extractResultList d)).mapM (parseRow py) = .ok rows) ↔
          ∀ raw ∈ rawRows (extractResultList d), FloatReadable py (scoreOf raw) := by
        rw [exists_mapM_eq_ok_iff]
        exact forall₂_congr fun raw _ => parseRow_iff raw
      rw [ReadableAnswer, ← pyInt_or_zero_iff, ← optFloat_iff, ← hrows]
      constructor
      · rintro ⟨parsed, h⟩
        obtain ⟨total, htotal, h⟩ := bind_eq_ok h
        obtain ⟨time, htime, h⟩ := bind_eq_ok h
        obtain ⟨rows, hrows, -⟩ := bind_eq_ok h
        exact ⟨⟨total, htotal⟩, ⟨time, htime⟩, rows, hrows⟩
      · rintro ⟨⟨total, htotal⟩, ⟨time, htime⟩, rows, hrows⟩
        simp only [parseSearchResponse, htotal, htime, hrows]
        exact ⟨_, rfl⟩
  | _ => exact iff_of_true ⟨_, rfl⟩ trivial

theorem finite_optFloat {v : Json} {x : Option PyFloat} (h : optFloat py v = .ok x) :
    (∀ y ∈ x, isFinite y = true) ↔ FiniteNumber py v := by
  cases v with
  | null =>
      cases h
      exact iff_of_true nofun trivial
  | bool b =>
      cases h
      exact iff_of_true (fun y hy => by cases hy; rfl) trivial
  | int i =>
      change ((toFloat i).map PyFloat.fin).map some = .ok x at h
      cases hfloat : toFloat i with
      | error e =>
          rw [hfloat] at h
          cases h
      | ok q =>
          rw [hfloat] at h
          cases h
          exact iff_of_true (fun y hy => by cases hy; rfl) trivial
  | float y =>
      cases h
      simp [FiniteNumber]
  | str s =>
      change (pyFloat py (.str s)).map some = .ok x at h
      rw [pyFloat] at h
      cases htext : py.floatOfText s with
      | none =>
          rw [htext] at h
          cases h
      | some y =>
          rw [htext] at h
          cases h
          simp [FiniteNumber, htext]
  | arr xs => cases h
  | obj d => cases h

/-- The time that is read is a number exactly when the answer's time is. -/
theorem finite_parseSearchResponse {payload : Json}
    {parsed : List SearchRow × Option SearchResponseMeta}
    (h : parseSearchResponse py payload = .ok parsed) :
    (∀ time ∈ parsed.2.bind (·.processingTimeMs), isFinite time = true) ↔
      FiniteTime py payload := by
  cases payload with
  | obj d =>
      obtain ⟨total, -, h⟩ := bind_eq_ok h
      obtain ⟨time, htime, h⟩ := bind_eq_ok h
      obtain ⟨rows, -, h⟩ := bind_eq_ok h
      cases h
      exact finite_optFloat htime
  | _ =>
      cases h
      exact iff_of_true nofun trivial

end

end RecoveryAgent.Memory
