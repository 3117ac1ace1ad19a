import RecoveryAgent.Ai.Client
import RecoveryAgent.Ai.Provenance

/-!
# The repair call

`_json_with_repair` asks once more after an `LLMError` and after nothing else. A reply that
is neither usable nor reported as an `LLMError` leaves its stage without a repair: content
that is no text, text that `json.loads` refuses around its braces, and JSON that the schema
of the stage does not accept, which is validated outside of the repair.
-/

namespace RecoveryAgent.Ai

open Library Python

/-!
## Kinds of replies
-/

section

variable (json : JsonModule)

/-- What `chat_json` raises as an `LLMError`. -/
inductive Reported : HttpReply → Prop where
  | failed (text : String) : Reported (.failed text)
  | shape {data : Json} (content : contentOf data = none) : Reported (.body data)
  | text {data : Json} {s t : String} (content : contentOf data = some (.str s))
      (decode : json.loads (extracted s) = .error (.decode t))
      (braces : fragment? (extracted s) = none) : Reported (.body data)

/-- What leaves `chat_json` as another exception. -/
inductive Raised : HttpReply → Prop where
  | content {data v : Json} (content : contentOf data = some v) (text : ∀ s, v ≠ .str s) :
      Raised (.body data)
  | loads {data : Json} {s : String} {f : Failure} (content : contentOf data = some (.str s))
      (other : json.loads (extracted s) = .error (.other f)) : Raised (.body data)
  | fragment {data : Json} {s t part : String} {e : LoadsError}
      (content : contentOf data = some (.str s))
      (decode : json.loads (extracted s) = .error (.decode t))
      (braces : fragment? (extracted s) = some part) (broken : json.loads part = .error e) :
      Raised (.body data)

variable {json}

theorem Reported.chatJson {reply : HttpReply} (h : Reported json reply) :
    ∃ text, chatJson json reply = .llmError text := by
  cases h with
  | failed text => exact ⟨_, rfl⟩
  | shape content => exact ⟨_, by simp only [Ai.chatJson, content]; rfl⟩
  | text content decode braces =>
      exact ⟨_, by simp only [Ai.chatJson, content, parseJsonContent, decode, braces]; rfl⟩

theorem Raised.chatJson {reply : HttpReply} (h : Raised json reply) :
    ∃ f, chatJson json reply = .raised f := by
  cases h with
  | @content data v content text =>
      cases v with
      | str s => exact absurd rfl (text s)
      | _ => exact ⟨_, by simp only [Ai.chatJson, content]; rfl⟩
  | loads content other =>
      exact ⟨_, by simp only [Ai.chatJson, content, parseJsonContent, other]; rfl⟩
  | fragment content decode braces broken =>
      exact ⟨_, by simp only [Ai.chatJson, content, parseJsonContent, decode, braces, broken]; rfl⟩

variable (json) in
/-- Every reply is parsed, reported or raised. -/
theorem chatJson_cases (reply : HttpReply) :
    (∃ v, chatJson json reply = .value v) ∨ Reported json reply ∨ Raised json reply := by
  cases reply with
  | failed text => exact Or.inr (Or.inl (.failed text))
  | body data =>
      cases hcontent : contentOf data with
      | none => exact Or.inr (Or.inl (.shape hcontent))
      | some v =>
          by_cases htext : ∃ s, v = .str s
          · obtain ⟨s, rfl⟩ := htext
            cases hloads : json.loads (extracted s) with
            | ok v => exact Or.inl ⟨v, by simp only [chatJson, hcontent, parseJsonContent, hloads]⟩
            | error e =>
                cases e with
                | other f => exact Or.inr (Or.inr (.loads hcontent hloads))
                | decode t =>
                    cases hbraces : fragment? (extracted s) with
                    | none => exact Or.inr (Or.inl (.text hcontent hloads hbraces))
                    | some part =>
                        cases hpart : json.loads part with
                        | error e =>
                            exact Or.inr (Or.inr (.fragment hcontent hloads hbraces hpart))
                        | ok v =>
                            exact Or.inl ⟨v, by
                              simp only [chatJson, hcontent, parseJsonContent, hloads, hbraces,
                                hpart]⟩
          · exact Or.inr (Or.inr (.content hcontent fun s hs => htext ⟨s, hs⟩))

variable (json) (reads : Json → Prop)

/-- JSON that the stage accepts. -/
def Usable (reply : HttpReply) : Prop := ∃ v, chatJson json reply = .value v ∧ reads v

/-- A reply that is neither usable nor reported: an exception of another type, or JSON of
another type or against the schema. -/
inductive Unrepaired (reply : HttpReply) : Prop where
  | raised (raised : Raised json reply)
  | refused {v : Json} (value : chatJson json reply = .value v) (refused : ¬reads v)

variable {json reads} {reply : HttpReply}

theorem Reported.not_usable (h : Reported json reply) : ¬Usable json reads reply := by
  rintro ⟨v, hvalue, -⟩
  obtain ⟨text, htext⟩ := h.chatJson
  rw [htext] at hvalue
  cases hvalue

theorem Unrepaired.not_usable (h : Unrepaired json reads reply) : ¬Usable json reads reply := by
  rintro ⟨v, hvalue, hreads⟩
  cases h with
  | raised raised =>
      obtain ⟨f, hf⟩ := raised.chatJson
      rw [hf] at hvalue
      cases hvalue
  | refused value refused =>
      rw [value] at hvalue
      cases hvalue
      exact refused hreads

theorem Unrepaired.not_reported (h : Unrepaired json reads reply) : ¬Reported json reply := by
  intro hreported
  obtain ⟨text, htext⟩ := hreported.chatJson
  cases h with
  | raised raised =>
      obtain ⟨f, hf⟩ := raised.chatJson
      rw [hf] at htext
      cases htext
  | refused value _ =>
      rw [value] at htext
      cases htext

/-- Every reply is of one of the three kinds. -/
theorem reply_cases (json : JsonModule) (reads : Json → Prop) (reply : HttpReply) :
    Usable json reads reply ∨ Reported json reply ∨ Unrepaired json reads reply := by
  rcases chatJson_cases json reply with ⟨v, hvalue⟩ | hreported | hraised
  · by_cases hreads : reads v
    · exact Or.inl ⟨v, hvalue, hreads⟩
    · exact Or.inr (Or.inr (.refused hvalue hreads))
  · exact Or.inr (Or.inl hreported)
  · exact Or.inr (Or.inr (.raised hraised))

end

/-!
## One stage
-/

/-- What `Model.model_validate` accepts. -/
def Pydantic.Reads {α : Type} (p : Pydantic) (title : String) (ofFields? : Fields → Option α)
    (v : Json) : Prop := ∃ a, p.validate title ofFields? v = .ok a

section

variable {json : JsonModule} {agent : Agent} {replies : ℕ → HttpReply}
  (hclient : ∀ n, agent.client.chatJson n = chatJson json (replies n))
  {α : Type} (title : String) (ofFields? : Fields → Option α) (n : ℕ)

include hclient

/-- A usable reply ends the stage. -/
theorem Agent.ask_of_usable
    (h : Usable json (agent.pydantic.Reads title ofFields?) (replies n)) :
    ∃ a, agent.ask title ofFields? n = (.ok a, n + 1) := by
  obtain ⟨v, hvalue, a, ha⟩ := h
  refine ⟨a, ?_⟩
  simp only [ask, jsonWithRepair, hclient, hvalue]
  exact congrArg (·, n + 1) ha

/-- A reply that is reported is asked for again. -/
theorem Agent.ask_of_reported (h : Reported json (replies n)) :
    (agent.ask title ofFields? n).2 = n + 2 ∧
      ((∃ a, (agent.ask title ofFields? n).1 = .ok a) ↔
        Usable json (agent.pydantic.Reads title ofFields?) (replies (n + 1))) := by
  obtain ⟨text, htext⟩ := h.chatJson
  simp only [ask, jsonWithRepair, hclient, htext, Usable]
  cases hsecond : chatJson json (replies (n + 1)) with
  | value v =>
      refine ⟨rfl, ?_⟩
      constructor
      · exact fun hread => ⟨v, rfl, hread⟩
      · rintro ⟨v', hvalue, hread⟩
        cases hvalue
        exact hread
  | llmError text' => exact ⟨rfl, iff_of_false (nofun) (nofun)⟩
  | raised f => exact ⟨rfl, iff_of_false (nofun) (nofun)⟩

/-- Any other reply ends the stage without a result. -/
theorem Agent.ask_of_unrepaired
    (h : Unrepaired json (agent.pydantic.Reads title ofFields?) (replies n)) :
    ∃ f, agent.ask title ofFields? n = (.error f, n + 1) := by
  cases h with
  | raised raised =>
      obtain ⟨f, hf⟩ := raised.chatJson
      refine ⟨f, ?_⟩
      simp only [ask, jsonWithRepair, hclient, hf]
      rfl
  | @refused v value refused =>
      simp only [ask, jsonWithRepair, hclient, value]
      cases hread : agent.pydantic.validate title ofFields? v with
      | error f => exact ⟨f, congrArg (·, n + 1) hread⟩
      | ok a => exact absurd ⟨a, hread⟩ refused

/-- A stage without a result has asked twice, for two replies it could not use, exactly when
its first reply is not of the third kind. -/
theorem Agent.repaired_iff :
    ((∀ a, (agent.ask title ofFields? n).1 ≠ .ok a) →
      (agent.ask title ofFields? n).2 = n + 2 ∧
        ¬Usable json (agent.pydantic.Reads title ofFields?) (replies n) ∧
        ¬Usable json (agent.pydantic.Reads title ofFields?) (replies (n + 1))) ↔
      ¬Unrepaired json (agent.pydantic.Reads title ofFields?) (replies n) := by
  rcases reply_cases json (agent.pydantic.Reads title ofFields?) (replies n)
    with husable | hreported | hunrepaired
  · obtain ⟨a, ha⟩ := ask_of_usable hclient title ofFields? n husable
    rw [ha]
    exact iff_of_true (fun h => absurd rfl (h a)) fun h => h.not_usable husable
  · obtain ⟨hcalls, hresult⟩ := ask_of_reported hclient title ofFields? n hreported
    refine iff_of_true (fun h => ⟨hcalls, hreported.not_usable, fun husable => ?_⟩)
      fun h => h.not_reported hreported
    obtain ⟨a, ha⟩ := hresult.2 husable
    exact h a ha
  · obtain ⟨f, hf⟩ := ask_of_unrepaired hclient title ofFields? n hunrepaired
    rw [hf]
    refine iff_of_false (fun h => ?_) (not_not.2 hunrepaired)
    have hcalls := (h nofun).1
    simp only at hcalls
    omega

end

/-!
## The stages of a run
-/

/-- The run has fallen back on the rules at this stage. -/
def FellBack (stage : String) (result : AgentRunResult) : Prop :=
  ∃ detail, result.fallbackReason = some (stage ++ ":" ++ detail)

theorem Failure.detail_ne (f : Failure) : f.detail ≠ "" := by
  intro h
  have hletters := congrArg String.toList h
  simp [Failure.detail] at hletters

theorem Agent.fallbackReason_fallback (agent : Agent) (ctx : CaseContext)
    (rules : Policy.DecisionBundle) (reason : String) (diagnosis : Diagnosis) (f : Failure) :
    FellBack reason (agent.fallback ctx rules reason diagnosis f.detail) := by
  refine ⟨f.detail, ?_⟩
  simp only [fallback, if_neg f.detail_ne]

/-- A run falls back at one stage only. -/
theorem FellBack.not_propose {result : AgentRunResult} (h : FellBack "diagnose_failed" result) :
    ¬FellBack "propose_failed" result := by
  rintro ⟨detail', hreason'⟩
  obtain ⟨detail, hreason⟩ := h
  have hfirst : "diagnose_failed".toList.head? = some 'd' := by decide
  have hfirst' : "propose_failed".toList.head? = some 'p' := by decide
  have hletters := congrArg (fun text => text.toList.head?)
    (Option.some.inj (hreason.symm.trans hreason'))
  simp only [String.toList_append, List.head?_append, hfirst, hfirst', Option.some_or] at hletters
  exact absurd hletters (by decide)

/-- A run of an available model falls back at one of the stages, or at none. -/
inductive Agent.Stages (agent : Agent) : AgentRunResult × ℕ → Prop where
  | undiagnosed {result : AgentRunResult} (silent : ∀ d, agent.rawDiagnosis.1 ≠ .ok d)
      (fellBack : FellBack "diagnose_failed" result) :
      agent.Stages (result, agent.rawDiagnosis.2)
  | unproposed {result : AgentRunResult} {d : Diagnosis} (diagnosed : agent.rawDiagnosis.1 = .ok d)
      (silent : ∀ p, (agent.propose agent.rawDiagnosis.2).1 ≠ .ok p)
      (fellBack : FellBack "propose_failed" result) :
      agent.Stages (result, (agent.propose agent.rawDiagnosis.2).2)
  | proposed {result : AgentRunResult} {n : ℕ} {d : Diagnosis} {p : ProposalPayload}
      (diagnosed : agent.rawDiagnosis.1 = .ok d)
      (proposed : (agent.propose agent.rawDiagnosis.2).1 = .ok p)
      (kept : result.fallbackReason = none) : agent.Stages (result, n)

theorem Agent.run_stages (agent : Agent) (ctx : CaseContext)
    (havailable : agent.client.available = true) : agent.Stages (agent.run ctx) := by
  have hthere : ¬agent.client.available = false := by
    rw [havailable]
    exact Bool.true_eq_false.mp
  unfold run
  rw [if_neg hthere]
  cases hraw : agent.rawDiagnosis.1 with
  | error f =>
      rw [diagnose_of_error hraw]
      refine .undiagnosed (fun d hd => ?_) (agent.fallbackReason_fallback ctx _ _ _ f)
      rw [hraw] at hd
      cases hd
  | ok d =>
      rw [diagnose_of_ok hraw]
      simp only
      cases hproposal : (agent.propose agent.rawDiagnosis.2).1 with
      | error f =>
          have hpropose : agent.propose agent.rawDiagnosis.2 =
              (.error f, (agent.propose agent.rawDiagnosis.2).2) := by
            rw [← hproposal]
          rw [hpropose]
          refine .unproposed hraw (fun p hp => ?_) (agent.fallbackReason_fallback ctx _ _ _ f)
          rw [hproposal] at hp
          cases hp
      | ok p =>
          have hpropose : agent.propose agent.rawDiagnosis.2 =
              (.ok p, (agent.propose agent.rawDiagnosis.2).2) := by
            rw [← hproposal]
          rw [hpropose]
          exact .proposed hraw hproposal rfl

/-!
## Every run
-/

def Pydantic.ReadsDiagnosis (p : Pydantic) : Json → Prop :=
  p.Reads "Diagnosis" (Diagnosis.ofFields? p)

def Pydantic.ReadsProposal (p : Pydantic) : Json → Prop :=
  p.Reads "ProposalPayload" (ProposalPayload.ofFields? p)

/-- A stage that falls back has made two calls, and could use neither reply. -/
structure Agent.Repairs (agent : Agent) (json : JsonModule) (replies : ℕ → HttpReply)
    (result : AgentRunResult) (calls : ℕ) : Prop where
  diagnose : FellBack "diagnose_failed" result → calls = 2 ∧
    ¬Usable json agent.pydantic.ReadsDiagnosis (replies 0) ∧
      ¬Usable json agent.pydantic.ReadsDiagnosis (replies 1)
  propose : FellBack "propose_failed" result → calls = agent.rawDiagnosis.2 + 2 ∧
    ¬Usable json agent.pydantic.ReadsProposal (replies agent.rawDiagnosis.2) ∧
      ¬Usable json agent.pydantic.ReadsProposal (replies (agent.rawDiagnosis.2 + 1))

/-- A run that has not fallen back has nothing to repair. -/
theorem Agent.repairs_of_kept {agent : Agent} {json : JsonModule} {replies : ℕ → HttpReply}
    {result : AgentRunResult} {calls : ℕ} (kept : result.fallbackReason = none) :
    agent.Repairs json replies result calls := by
  have hkept : ∀ stage, ¬FellBack stage result := by
    rintro stage ⟨detail, hreason⟩
    rw [kept] at hreason
    cases hreason
  exact ⟨fun h => absurd h (hkept _), fun h => absurd h (hkept _)⟩

/-- A run that uses the model has nothing to repair. -/
theorem Agent.Stages.repairs_of_proposes {agent : Agent} {x : AgentRunResult × ℕ}
    (h : agent.Stages x) (json : JsonModule) (replies : ℕ → HttpReply) {d : Diagnosis}
    {p : ProposalPayload} (hdiagnosed : agent.rawDiagnosis.1 = .ok d)
    (hproposed : agent.Proposes p) : agent.Repairs json replies x.1 x.2 := by
  cases h with
  | undiagnosed silent _ => exact absurd hdiagnosed (silent d)
  | unproposed _ silent _ => exact absurd hproposed (silent p)
  | proposed _ _ kept => exact Agent.repairs_of_kept kept

/-- An available model behind a server that sends these replies. -/
def httpAgent (json : JsonModule) (model : String) (replies : ℕ → HttpReply)
    (engine : Policy.PolicyEngine) (pydantic : Pydantic) (prompts : Prompts) : Agent where
  client := httpClient json model true replies
  engine
  pydantic
  prompts

section

variable {json : JsonModule} {agent : Agent} {replies : ℕ → HttpReply}
  (hclient : ∀ n, agent.client.chatJson n = chatJson json (replies n))

include hclient

/-- The two stages of a run repair what they were sent exactly when neither begins with a
reply of the third kind. -/
theorem Agent.Stages.repairs_iff {x : AgentRunResult × ℕ} (h : agent.Stages x) :
    agent.Repairs json replies x.1 x.2 ↔
      ¬Unrepaired json agent.pydantic.ReadsDiagnosis (replies 0) ∧
        ∀ d, agent.rawDiagnosis.1 = .ok d →
          ¬Unrepaired json agent.pydantic.ReadsProposal (replies agent.rawDiagnosis.2) := by
  have hdiagnose := agent.repaired_iff hclient "Diagnosis" (Diagnosis.ofFields? agent.pydantic) 0
  have hpropose := agent.repaired_iff hclient "ProposalPayload"
    (ProposalPayload.ofFields? agent.pydantic) agent.rawDiagnosis.2
  unfold Pydantic.ReadsDiagnosis Pydantic.ReadsProposal
  rw [← hdiagnose, ← hpropose]
  cases h with
  | undiagnosed silent fellBack =>
      constructor
      · exact fun h => ⟨fun _ => h.diagnose fellBack, fun d hd => absurd hd (silent d)⟩
      · exact fun h => ⟨fun _ => h.1 silent, fun h' => absurd h' fellBack.not_propose⟩
  | unproposed diagnosed silent fellBack =>
      constructor
      · exact fun h => ⟨fun h' => absurd diagnosed (h' _), fun _ _ _ => h.propose fellBack⟩
      · exact fun h => ⟨fun h' => absurd fellBack h'.not_propose, fun _ => h.2 _ diagnosed silent⟩
  | @proposed result n d p diagnosed proposed kept =>
      exact iff_of_true (Agent.repairs_of_kept kept)
        ⟨fun h => absurd diagnosed (h _), fun _ _ h => absurd proposed (h _)⟩

/-- The second stage begins after one call or after two. -/
theorem Agent.proposal_iff (good : HttpReply → Prop)
    (hrepaired : ¬Unrepaired json agent.pydantic.ReadsDiagnosis (replies 0)) :
    (∀ d, agent.rawDiagnosis.1 = .ok d → good (replies agent.rawDiagnosis.2)) ↔
      (Usable json agent.pydantic.ReadsDiagnosis (replies 0) → good (replies 1)) ∧
        (Reported json (replies 0) → Usable json agent.pydantic.ReadsDiagnosis (replies 1) →
          good (replies 2)) := by
  rcases reply_cases json agent.pydantic.ReadsDiagnosis (replies 0) with
    husable | hreported | hunrepaired
  · obtain ⟨d, hd⟩ := agent.ask_of_usable hclient "Diagnosis" _ 0 husable
    have hraw : agent.rawDiagnosis = (.ok d, 1) := hd
    rw [hraw]
    constructor
    · exact fun h => ⟨fun _ => h d rfl, fun hreported => absurd husable hreported.not_usable⟩
    · exact fun h _ _ => h.1 husable
  · obtain ⟨hcalls, hresult⟩ := agent.ask_of_reported hclient "Diagnosis"
      (Diagnosis.ofFields? agent.pydantic) 0 hreported
    have htwo : agent.rawDiagnosis.2 = 2 := hcalls
    rw [htwo]
    constructor
    · refine fun h => ⟨fun husable => absurd husable hreported.not_usable, fun _ husable => ?_⟩
      obtain ⟨d, hd⟩ := hresult.2 husable
      exact h d hd
    · exact fun h d hd => h.2 hreported (hresult.1 ⟨d, hd⟩)
  · exact absurd hunrepaired hrepaired

end

/-- No stage that is reached begins with a reply of the third kind. -/
structure RepairableStarts (json : JsonModule) (p : Pydantic) (replies : ℕ → HttpReply) : Prop where
  diagnose : ¬Unrepaired json p.ReadsDiagnosis (replies 0)
  propose : Usable json p.ReadsDiagnosis (replies 0) →
    ¬Unrepaired json p.ReadsProposal (replies 1)
  propose_later : Reported json (replies 0) → Usable json p.ReadsDiagnosis (replies 1) →
    ¬Unrepaired json p.ReadsProposal (replies 2)

/-- In every run that returns, a stage that falls back has made its repair call and could use
neither reply, exactly when no stage that is reached begins with an exception other than an
`LLMError` or with JSON that the stage does not accept. -/
theorem every_unusable_reply_repaired_iff (json : JsonModule) (model : String)
    (replies : ℕ → HttpReply) (engine : Policy.PolicyEngine) (pydantic : Pydantic)
    (prompts : Prompts) (ctx : CaseContext) :
    (∀ result calls, (httpAgent json model replies engine pydantic prompts).tryRun ctx =
        .ok (result, calls) →
      (httpAgent json model replies engine pydantic prompts).Repairs json replies result calls) ↔
      (Scorable ctx → RepairableStarts json pydantic replies) := by
  have hpydantic : (httpAgent json model replies engine pydantic prompts).pydantic = pydantic := rfl
  have havailable : (httpAgent json model replies engine pydantic prompts).client.available =
      true := rfl
  have hclient : ∀ n, (httpAgent json model replies engine pydantic prompts).client.chatJson n =
      chatJson json (replies n) := fun _ => rfl
  generalize httpAgent json model replies engine pydantic prompts = agent at *
  have hstages := agent.run_stages ctx havailable
  have hrun := hstages.repairs_iff hclient
  have hproposal := agent.proposal_iff hclient fun reply =>
    ¬Unrepaired json agent.pydantic.ReadsProposal reply
  rw [← hpydantic]
  constructor
  · intro h hscorable
    have hboth : agent.Repairs json replies (agent.run ctx).1 (agent.run ctx).2 := by
      by_cases hhashable : agent.Hashable ctx
      · exact h _ _ ((agent.tryRun_eq_ok_iff ctx).2 ⟨⟨hscorable, hhashable⟩, rfl⟩)
      · -- only a run that uses the model is hashed
        unfold Agent.Hashable at hhashable
        push Not at hhashable
        obtain ⟨d, p, hdiagnosed, hproposed, -⟩ := hhashable
        exact hstages.repairs_of_proposes json replies hdiagnosed.2 hproposed
    have hrepairs := hrun.1 hboth
    obtain ⟨hone, htwo⟩ := (hproposal hrepairs.1).1 hrepairs.2
    exact ⟨hrepairs.1, hone, htwo⟩
  · intro h result calls hresult
    obtain ⟨⟨hscorable, -⟩, hsame⟩ := (agent.tryRun_eq_ok_iff ctx).1 hresult
    have hstarts := h hscorable
    have hrepairs := hrun.2 ⟨hstarts.diagnose,
      (hproposal hstarts.diagnose).2 ⟨hstarts.propose, hstarts.propose_later⟩⟩
    rw [← hsame] at hrepairs
    exact hrepairs

def readsNothing : JsonModule where
  loads _ := .error (.decode "Expecting value: line 1 column 1 (char 0)")
  loads_sound := nofun
  reprText s := s
  repr _ := ""

/-- A message whose content is `null`. -/
def nullReply : HttpReply :=
  .body (.obj [("choices", .arr [.obj [("message", .obj [("content", .null)])]])])

/-- The model that answers without content is asked once. -/
theorem null_content_not_repaired :
    ∃ result, (httpAgent readsNothing "qwen3:8b" (fun _ => nullReply) .shipped
        ⟨fun _ => none, fun _ => none, fun _ _ => ""⟩ (plainPrompts .scalar)).tryRun
          lowBalance = .ok (result, 1) ∧
      FellBack "diagnose_failed" result ∧
      ¬(httpAgent readsNothing "qwen3:8b" (fun _ => nullReply) .shipped
        ⟨fun _ => none, fun _ => none, fun _ _ => ""⟩ (plainPrompts .scalar)).Repairs
          readsNothing (fun _ => nullReply) result 1 := by
  have hfell : FellBack "diagnose_failed"
      ((httpAgent readsNothing "qwen3:8b" (fun _ => nullReply) .shipped
        ⟨fun _ => none, fun _ => none, fun _ _ => ""⟩ (plainPrompts .scalar)).run
          lowBalance).1 := Agent.fallbackReason_fallback _ _ _ _ _ _
  have hhashable : (httpAgent readsNothing "qwen3:8b" (fun _ => nullReply) .shipped
      ⟨fun _ => none, fun _ => none, fun _ _ => ""⟩ (plainPrompts .scalar)).Hashable
        lowBalance := by
    rintro d p ⟨-, hdiagnosed⟩
    cases hdiagnosed
  refine ⟨_, (Agent.tryRun_eq_ok_iff _ _).2 ⟨⟨scorable_lowBalance, hhashable⟩, rfl⟩, hfell,
    fun h => ?_⟩
  exact absurd (h.diagnose hfell).1 (by decide)

end RecoveryAgent.Ai
