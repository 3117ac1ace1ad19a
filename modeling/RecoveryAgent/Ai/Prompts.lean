import RecoveryAgent.Ai.Schemas
import RecoveryAgent.Python.Encoding

/-!
# The prompts

`ai/prompts.py`, as far as its texts are hashed into the audit: the system prompts of the
first two stages and what the user prompts quote of a case. A prompt is encoded before it is
hashed, and some of its texts are quoted as they are, so that a case with a lone surrogate in
one of them has no hash.
-/

namespace RecoveryAgent.Ai

open Library Python

/-- What the prompts take from outside: Python's texts, the text of a score and the digest.
The text of a list or a dictionary quotes its texts with their surrogates escaped. A score
that is too large for a float ends its stage in the rules' fallback, and nothing is hashed. -/
structure Prompts where
  py : Conversions
  utf8 : Utf8
  scoreText : Json → String
  sha256 : String → String
  quoted : ∀ v, v.text? = none → utf8.encodes (py.textOf v) = true
  scored : ∀ v, utf8.encodes (scoreText v) = true

def diagnoseSystem : List String :=
  ["You are a payments recovery analyst for Indian subscription rails.",
    "Return ONLY valid JSON (no markdown, no prose) with keys:",
    "  summary (string),",
    "  likely_class (string — must be one of the allowed classes),",
    "  confidence (number 0..1),",
    "  rationale (string).",
    "Never invent customer PII. Never suggest illegal or unbounded actions.",
    "When historical_similar_episodes are provided, use them as reference evidence",
    "(what worked or failed for similar failures) but still pick likely_class from " ++
      "allowed_classes.",
    ""]

def proposeSystem : List String :=
  ["You are a recovery agent that proposes ONE next action.",
    "Return ONLY valid JSON with keys:",
    "  verb (one of allowed verbs),",
    "  day_offset (integer >= 0),",
    "  channel (none|sms|email|link),",
    "  reason_code (string),",
    "  note (short string).",
    "Rules:",
    "- Dead instruments (card_expired, token_invalid, mandate_revoked): NEVER schedule_retry.",
    "- Risk/fraud: escalate_human only.",
    "- NSF/time-shiftable: prefer schedule_retry with day_offset away from day 0 when possible.",
    "- Do not invent new verbs.",
    "- When historical_similar_episodes are present, prefer verbs/outcomes that succeeded on",
    "  similar failures unless policy rules above forbid them. Mention that evidence briefly " ++
      "in note.",
    "  Prefer citing the top episode action when it matches an allowed verb.",
    ""]

def joinLines (lines : List String) : String := "\n".intercalate lines

namespace Prompts

/-- `str(v)`. -/
def str (p : Prompts) (v : Json) : String := p.py.textOf v

def strList (p : Prompts) (xs : List String) : String := p.str (.arr (xs.map .str))

def bundleHash (p : Prompts) (parts : List String) : Except PyError String := do
  let joined := "\n---\n".intercalate parts
  p.utf8.encode joined
  return slice 16 (p.sha256 joined)

def episodePart (p : Prompts) (label key : String) (ep : Fields) : String :=
  label ++ p.str ((ep.item key).or (.str "unknown"))

def episodeLine (p : Prompts) (i : ℕ) (ep : Fields) : String :=
  let score := ep.item "score"
  let name := ep.item "document_name"
  "- " ++ " | ".intercalate
    (["#" ++ toString (i : ℤ),
        "score=" ++ (if isNumber score then p.scoreText score else "n/a"),
        p.episodePart "failure=" "failure_reason" ep,
        p.episodePart "class=" "recovery_class" ep,
        p.episodePart "action=" "action" ep,
        p.episodePart "outcome=" "outcome" ep] ++
      if name.truthy then ["doc=" ++ p.str name] else [])

/-- `format_rag_evidence`, as the lines that it joins. -/
def ragEvidence (p : Prompts) (episodes : List Fields) : List String :=
  if episodes = [] then []
  else "historical_similar_episodes:" ::
    ((episodes.take 8).zipIdx 1).map fun e => p.episodeLine e.2 e.1

/-- The facts of the case that both user prompts quote after its rail. -/
def caseFacts (p : Prompts) (ctx : CaseContext) : List String :=
  ["amount_bucket_inr: " ++ ctx.amountBucketInr,
    "attempt_number: " ++ toString ctx.attemptNumber,
    "failure_dom: " ++ toString ctx.failureDom,
    "observed_credit_day: " ++ p.str (.ofOptInt ctx.observedCreditDay)]

def queryLine (ragQuery : Option String) : List String :=
  match ragQuery with
  | none => []
  | some query => if query = "" then [] else ["retrieval_query: " ++ query]

def diagnoseUser (p : Prompts) (ctx : CaseContext) : String :=
  joinLines
    (["allowed_classes: " ++ p.strList ctx.allowedClasses,
        "raw_error_reason: " ++ ctx.rawErrorReason,
        "raw_error_code: " ++ ctx.rawErrorCode,
        "rail: " ++ ctx.rail] ++ p.caseFacts ctx ++
      queryLine ctx.ragQuery ++ p.ragEvidence ctx.ragEpisodes ++ ["Respond with JSON only."])

def proposeUser (p : Prompts) (ctx : CaseContext) (diagnosis : Fields) : String :=
  joinLines
    (["allowed_verbs: " ++ p.strList ctx.allowedVerbs,
        "allowed_classes: " ++ p.strList ctx.allowedClasses,
        "diagnosis: " ++ p.str (.obj diagnosis),
        "raw_error_reason: " ++ ctx.rawErrorReason,
        "rail: " ++ ctx.rail] ++ p.caseFacts ctx ++
      p.ragEvidence ctx.ragEpisodes ++
      ["Propose the single best next Action as JSON only."])

def diagnosePromptHash (p : Prompts) (ctx : CaseContext) : Except PyError String :=
  p.bundleHash [joinLines diagnoseSystem, p.diagnoseUser ctx]

def proposePromptHash (p : Prompts) (ctx : CaseContext) (diagnosis : Fields) :
    Except PyError String :=
  p.bundleHash [joinLines proposeSystem, p.proposeUser ctx diagnosis]

end Prompts

/-!
## What has a hash
-/

/-- The fields of an episode that its line quotes. -/
def quotedKeys : List String :=
  ["failure_reason", "recovery_class", "action", "outcome", "document_name"]

/-- The texts that the prompts quote of the case as they are have an encoding. -/
def CaseContext.encodable (utf8 : Utf8) (ctx : CaseContext) : Bool :=
  utf8.encodes ctx.rawErrorReason && utf8.encodes ctx.rawErrorCode && utf8.encodes ctx.rail &&
    utf8.encodes ctx.amountBucketInr && utf8.encodesOpt ctx.ragQuery &&
      (ctx.ragEpisodes.take 8).all fun ep =>
        quotedKeys.all fun key => utf8.encodesOpt (Pydantic.str? (ep.item key))

section

variable (p : Prompts)

/-- What is no text is told without surrogates. -/
theorem Prompts.encodes_str {v : Json} (h : Pydantic.str? v = none) :
    p.utf8.encodes (p.str v) = true := by
  cases v with
  | null =>
      rw [str, p.py.textOf_eq _ "None" rfl]
      exact p.utf8.encodes_of_isLow (by decide)
  | bool b =>
      rw [str, p.py.textOf_eq _ _ rfl]
      cases b with
      | true => exact p.utf8.encodes_of_isLow (by decide)
      | false => exact p.utf8.encodes_of_isLow (by decide)
  | int i =>
      rw [str, p.py.textOf_eq _ _ rfl]
      exact p.utf8.encodes_toString_int i
  | str s => cases h
  | float x => exact p.quoted _ rfl
  | arr xs => exact p.quoted _ rfl
  | obj fields => exact p.quoted _ rfl

theorem Prompts.encodes_str_eq (v : Json) :
    p.utf8.encodes (p.str v) = p.utf8.encodesOpt (Pydantic.str? v) := by
  cases v with
  | str s =>
      rw [str, p.py.textOf_eq _ s rfl]
      rfl
  | _ => exact p.encodes_str rfl

theorem encodesOpt_str?_of_not_truthy (utf8 : Utf8) {v : Json} (h : ¬v.truthy = true) :
    utf8.encodesOpt (Pydantic.str? v) = true := by
  cases v with
  | str s =>
      have hempty : s = "" := by simpa [Json.truthy] using h
      rw [hempty]
      rfl
  | _ => rfl

theorem Prompts.encodes_episodePart {label : String} (hlabel : Utf8.isLow label = true)
    (key : String) (ep : Fields) :
    p.utf8.encodes (p.episodePart label key ep) =
      p.utf8.encodesOpt (Pydantic.str? (ep.item key)) := by
  have hunknown : Utf8.isLow "unknown" = true := by decide
  rw [episodePart, Utf8.encodes_append, p.utf8.encodes_of_isLow hlabel, Bool.true_and,
    p.encodes_str_eq, Json.or]
  by_cases htrue : (ep.item key).truthy = true
  · rw [if_pos htrue]
  · rw [if_neg htrue, encodesOpt_str?_of_not_truthy p.utf8 htrue]
    exact p.utf8.encodes_of_isLow hunknown

theorem Prompts.encodes_episodeLine (i : ℕ) (ep : Fields) :
    p.utf8.encodes (p.episodeLine i ep) =
      quotedKeys.all fun key => p.utf8.encodesOpt (Pydantic.str? (ep.item key)) := by
  have hscore : p.utf8.encodes (if isNumber (ep.item "score") then p.scoreText (ep.item "score")
      else "n/a") = true := by
    split
    · exact p.scored _
    · exact p.utf8.encodes_of_isLow (by decide)
  have hname : (if (ep.item "document_name").truthy then ["doc=" ++ p.str (ep.item "document_name")]
      else []).all p.utf8.encodes =
        p.utf8.encodesOpt (Pydantic.str? (ep.item "document_name")) := by
    split
    · simp (disch := decide) only [List.all_cons, List.all_nil, Utf8.encodes_append,
        Utf8.encodes_of_isLow, Bool.true_and, Bool.and_true, p.encodes_str_eq]
    · next hfalse => exact (encodesOpt_str?_of_not_truthy p.utf8 hfalse).symm
  unfold episodeLine
  simp (disch := decide) only [Utf8.encodes_append, Utf8.encodes_of_isLow,
    Utf8.encodes_intercalate, List.all_append, List.all_cons, List.all_nil, p.encodes_episodePart,
    hscore, hname, Utf8.encodes_toString_int, Bool.true_and, Bool.and_true, quotedKeys,
    Bool.and_assoc]

theorem Prompts.encodes_ragEvidence (episodes : List Fields) :
    (p.ragEvidence episodes).all p.utf8.encodes =
      (episodes.take 8).all fun ep =>
        quotedKeys.all fun key => p.utf8.encodesOpt (Pydantic.str? (ep.item key)) := by
  unfold ragEvidence
  split
  · next hnone =>
      rw [hnone]
      rfl
  · have hhead : p.utf8.encodes "historical_similar_episodes:" = true :=
      p.utf8.encodes_of_isLow (by decide)
    rw [List.all_cons, hhead, Bool.true_and, List.all_map]
    generalize episodes.take 8 = shown
    generalize 1 = n
    induction shown generalizing n with
    | nil => rfl
    | cons ep shown ih =>
        rw [List.zipIdx_cons, List.all_cons, List.all_cons, ih]
        exact congrArg (· && _) (p.encodes_episodeLine n ep)

theorem Prompts.encodes_caseFacts (ctx : CaseContext) :
    (p.caseFacts ctx).all p.utf8.encodes = p.utf8.encodes ctx.amountBucketInr := by
  have hday : p.utf8.encodes (p.str (.ofOptInt ctx.observedCreditDay)) = true := by
    cases ctx.observedCreditDay with
    | none => exact p.encodes_str rfl
    | some day => exact p.encodes_str rfl
  unfold caseFacts
  simp (disch := decide) only [List.all_cons, List.all_nil, Utf8.encodes_append,
    Utf8.encodes_of_isLow, Utf8.encodes_toString_int, hday, Bool.true_and, Bool.and_true]

theorem Prompts.encodes_queryLine (ragQuery : Option String) :
    (queryLine ragQuery).all p.utf8.encodes = p.utf8.encodesOpt ragQuery := by
  cases ragQuery with
  | none => rfl
  | some query =>
      unfold queryLine Utf8.encodesOpt
      simp only
      split
      · next hempty =>
          rw [hempty]
          rfl
      · simp (disch := decide) only [List.all_cons, List.all_nil, Utf8.encodes_append,
          Utf8.encodes_of_isLow, Bool.true_and, Bool.and_true]

/-- The prompt of the first stage has an encoding when the texts that it quotes do. -/
theorem Prompts.encodes_diagnoseUser (ctx : CaseContext) :
    p.utf8.encodes (p.diagnoseUser ctx) = ctx.encodable p.utf8 := by
  have hclasses : p.utf8.encodes (p.strList ctx.allowedClasses) = true := p.encodes_str rfl
  unfold diagnoseUser joinLines
  simp (disch := decide) only [Utf8.encodes_append, Utf8.encodes_of_isLow,
    Utf8.encodes_intercalate, List.all_append, List.all_cons, List.all_nil, hclasses,
    p.encodes_queryLine, p.encodes_caseFacts, p.encodes_ragEvidence, Bool.true_and, Bool.and_true,
    Bool.and_assoc, CaseContext.encodable]

/-- The prompt of the second stage quotes nothing else. -/
theorem Prompts.encodes_proposeUser {ctx : CaseContext} (h : ctx.encodable p.utf8 = true)
    (diagnosis : Fields) : p.utf8.encodes (p.proposeUser ctx diagnosis) = true := by
  have hclasses : p.utf8.encodes (p.strList ctx.allowedClasses) = true := p.encodes_str rfl
  have hverbs : p.utf8.encodes (p.strList ctx.allowedVerbs) = true := p.encodes_str rfl
  have hdiagnosis : p.utf8.encodes (p.str (.obj diagnosis)) = true := p.encodes_str rfl
  simp only [CaseContext.encodable, Bool.and_eq_true] at h
  obtain ⟨⟨⟨⟨⟨hreason, -⟩, hrail⟩, hbucket⟩, -⟩, hepisodes⟩ := h
  unfold proposeUser joinLines
  simp (disch := decide) only [Utf8.encodes_append, Utf8.encodes_of_isLow,
    Utf8.encodes_intercalate, List.all_append, List.all_cons, List.all_nil, hclasses, hverbs,
    hdiagnosis, hreason, hrail, p.encodes_caseFacts, hbucket, p.encodes_ragEvidence, hepisodes,
    Bool.and_true]

/-- A prompt behind a system prompt without surrogates has a hash when it has an encoding. -/
theorem Prompts.bundleHash_eq_ok_iff {system : List String} (user : String)
    (hsystem : system.all Utf8.isLow = true) :
    (∃ hash, p.bundleHash [joinLines system, user] = .ok hash) ↔
      p.utf8.encodes user = true := by
  have hlines : system.all p.utf8.encodes = true :=
    List.all_eq_true.2 fun line hline =>
      p.utf8.encodes_of_isLow (List.all_eq_true.1 hsystem line hline)
  have hjoined : p.utf8.encodes ("\n---\n".intercalate [joinLines system, user]) =
      p.utf8.encodes user := by
    unfold joinLines
    simp (disch := decide) only [Utf8.encodes_intercalate, List.all_cons, List.all_nil, hlines,
      Bool.true_and, Bool.and_true]
  rw [← hjoined, ← Utf8.encode_eq_ok_iff]
  simp only [bundleHash]
  cases p.utf8.encode ("\n---\n".intercalate [joinLines system, user]) with
  | error e =>
      refine iff_of_false ?_ ?_
      · rintro ⟨hash, h⟩
        cases h
      · intro h
        cases h
  | ok u => exact iff_of_true ⟨_, rfl⟩ rfl

/-- Both prompts of a case have a hash exactly when the texts that they quote have an
encoding. -/
theorem Prompts.hashes_iff (ctx : CaseContext) (diagnosis : Fields) :
    (∃ hash hash', p.diagnosePromptHash ctx = .ok hash ∧
        p.proposePromptHash ctx diagnosis = .ok hash') ↔ ctx.encodable p.utf8 = true := by
  have hdiagnose : (∃ hash, p.diagnosePromptHash ctx = .ok hash) ↔
      p.utf8.encodes (p.diagnoseUser ctx) = true :=
    p.bundleHash_eq_ok_iff _ (by decide +kernel)
  have hpropose : (∃ hash, p.proposePromptHash ctx diagnosis = .ok hash) ↔
      p.utf8.encodes (p.proposeUser ctx diagnosis) = true :=
    p.bundleHash_eq_ok_iff _ (by decide +kernel)
  rw [p.encodes_diagnoseUser] at hdiagnose
  constructor
  · rintro ⟨hash, _, h, -⟩
    exact hdiagnose.1 ⟨hash, h⟩
  · intro h
    obtain ⟨hash, hhash⟩ := hdiagnose.2 h
    obtain ⟨hash', hhash'⟩ := hpropose.2 (p.encodes_proposeUser h diagnosis)
    exact ⟨hash, hash', hhash, hhash'⟩

end

/-- Prompts of a few values. -/
def plainPrompts (utf8 : Utf8) : Prompts where
  py := plainConversions
  utf8
  scoreText := fun _ => ""
  sha256 := fun _ => ""
  quoted := by
    intro v h
    have hnone : v.text?.getD "None" = "None" := by
      rw [h]
      rfl
    exact (congrArg utf8.encodes hnone).trans (utf8.encodes_of_isLow (by decide))
  scored := fun _ => rfl

end RecoveryAgent.Ai
