import RecoveryAgent.Demo.Links
import RecoveryAgent.Memory.Retrieval
import RecoveryAgent.Memory.Seed

/-!
# The retrieval in the live flow

Between the opening of the case and the agent, the live flow asks the memory service. It comes
to the agent unless the retrieval raises, or the time of the retrieval cannot be shown.
-/

namespace RecoveryAgent.Demo

open Library Python Policy Ledger Guard Execute Ai Memory Generator

/-- The flow with a memory service: its retrieval is that for a card payment. -/
def withMemory (env : DemoEnv) (memory : RetrievalEnv) : DemoEnv :=
  { env with retrieve := fun failureReason => retrieveForPayment memory failureReason "card" }

def Event.isAgent : Event → Bool
  | step key .. => key = "agent"
  | _ => false

/-- The flow opens its case. -/
def Opens (env : DemoEnv) (input : DemoInput) (db : Db) : Prop :=
  ∃ caseId, (openCase env input (start env db)).result = .ok caseId

/-- The flow comes to the agent. -/
def ReachesAgent (env : DemoEnv) (input : DemoInput) (db : Db) : Prop :=
  Hands (·.isAgent = true) (iterAiDemoCase env input) (start env db)

section

variable {env : DemoEnv} {input : DemoInput} {db : Db}

/-- The line about the retrieval is made exactly when its time is a number. -/
theorem ragDetail_iff (rag : RagMetrics) :
    (∃ detail, ragDetail rag = .ok detail) ↔ FiniteLatency rag := by
  unfold ragDetail FiniteLatency
  cases rag.retrievalLatencyMs with
  | none => exact iff_of_true ⟨_, rfl⟩ nofun
  | some latency =>
      cases latency with
      | fin q => exact iff_of_true ⟨_, rfl⟩ fun x hx => by cases hx; rfl
      | nan => exact iff_of_false nofun fun h => Bool.noConfusion (h .nan rfl)
      | posInf => exact iff_of_false nofun fun h => Bool.noConfusion (h .posInf rfl)
      | negInf => exact iff_of_false nofun fun h => Bool.noConfusion (h .negInf rfl)

theorem hands_lift_bind {P : Event → Prop} {α β : Type} {x : Except Failure α} {f : α → Flow β}
    {w : World} : Hands P (Flow.lift x >>= f) w ↔ ∃ a, x = .ok a ∧ Hands P (f a) w := by
  have hsilent : ¬Hands P (Flow.lift x) w := not_hands_effect
  rw [hands_bind, or_iff_right hsilent]
  exact exists_congr fun a => and_congr_left' mapError_eq_ok_iff

/-- A step that is not the agent's comes before the rest. -/
theorem hands_step_bind {β : Type} {key title status detail thinking : String}
    {f : PUnit → Flow β} {w : World} (hkey : key ≠ "agent") :
    Hands (·.isAgent = true) (yield (.step key title status detail thinking) >>= f) w ↔
      Hands (·.isAgent = true) (f ⟨⟩) w :=
  hands_yield_bind fun h => hkey (of_decide_eq_true h)

/-- The flow comes to the agent exactly when its case is open and the retrieval returns metrics
with a time that can be shown. -/
theorem reachesAgent_iff :
    ReachesAgent env input db ↔
      Opens env input db ∧ ∃ rag, env.retrieve input.rawErrorReason = .ok rag ∧
        FiniteLatency rag := by
  have hsilent : ¬Hands (·.isAgent = true) (openCase env input) (start env db) :=
    not_hands_effect
  unfold ReachesAgent iterAiDemoCase Opens
  rw [hands_step_bind (by decide), hands_bind, or_iff_right hsilent, ← exists_and_right]
  refine exists_congr fun caseId => and_congr_right fun hopen => ?_
  rw [hands_step_bind (by decide), hands_step_bind (by decide), hands_lift_bind]
  refine exists_congr fun rag => and_congr_right fun hrag => ?_
  rw [hands_lift_bind, ← ragDetail_iff]
  refine exists_congr fun detail => and_iff_left ?_
  -- the metrics and the chunks are followed by the agent's first step
  refine (hands_step_bind (by decide)).2 ((hands_yield_bind Bool.noConfusion).2 ?_)
  exact hands_bind.2 (Or.inr ⟨⟨⟩, rfl, hands_bind.2 (Or.inl (hands_yield.2 rfl))⟩)

end

/-- An answer with a total that is no number. -/
def uncounted : Json := .obj [("results", .arr []), ("total_results", .str "many")]

/-- A memory service that gives such an answer. -/
def uncountedMemory : RetrievalEnv where
  config := { enabled := true, apiKey := "key", maxRetries := 4 }
  py :=
    { bareTexts with
      errorText := fun _ => "invalid literal for int() with base 10: 'many'"
      floatOfText := fun _ => none }
  raised
    | .valueError text => ⟨"ValueError", text⟩
    | _ => ⟨"Exception", ""⟩
  elapsedMs := 0
  service := fun _ => .ok { statusCode := 200, json := .ok uncounted }

end RecoveryAgent.Demo
