import RecoveryAgent.Library.Run

/-!
# States that only grow

Where every step of a machine relates the state before it to the state after it by a
relation that is reflexive and transitive, so does every run. An effect of a run is the
effect of one of its steps, and that step is made in a state that has grown out of the
first one.
-/

namespace Library

namespace Run

variable {S I C : Type*} {step : S → I → S × List C}

/-- The relation holds from every state to the next, and along a chain. -/
structure Growing (step : S → I → S × List C) (R : S → S → Prop) : Prop where
  refl : ∀ s, R s s
  trans : ∀ {s t u}, R s t → R t u → R s u
  step : ∀ s i, R s (step s i).1

variable {R : S → S → Prop}

theorem Growing.final (h : Growing step R) (s : S) (is : List I) : R s (final step s is) := by
  induction is generalizing s with
  | nil => exact h.refl s
  | cons i is ih => exact h.trans (h.step s i) (ih _)

/-- Of two states of a run the later one has grown out of the earlier one. -/
theorem Growing.final_append (h : Growing step R) (s : S) (is js : List I) :
    R (Run.final step s is) (Run.final step s (is ++ js)) := by
  rw [Run.final_append]
  exact h.final _ js

theorem exists_step_of_mem_emitted {s : S} {is : List I} {c : C} (h : c ∈ emitted step s is) :
    ∃ js i ks, is = js ++ i :: ks ∧ c ∈ (step (Run.final step s js) i).2 := by
  induction is generalizing s with
  | nil => cases h
  | cons i is ih =>
      rcases List.mem_append.1 h with hc | hc
      · exact ⟨[], i, is, rfl, hc⟩
      · obtain ⟨js, j, ks, rfl, hstep⟩ := ih hc
        exact ⟨i :: js, j, ks, rfl, hstep⟩

/-- A property of states that growth keeps and that no step emits against is never emitted
against: `forbids` says what effects a state rules out. -/
theorem Growing.not_mem_emitted (h : Growing step R) (forbids : S → C → Prop)
    (hkept : ∀ {s t} c, R s t → forbids s c → forbids t c)
    (hstep : ∀ s i, ∀ c ∈ (step s i).2, ¬forbids s c) {s : S} {c : C} (hs : forbids s c)
    (is : List I) : c ∉ emitted step s is := by
  intro hc
  obtain ⟨js, i, -, -, hc⟩ := exists_step_of_mem_emitted hc
  exact hstep _ i c hc (hkept c (h.final s js) hs)

/-!
## Some of the effects
-/

/-- The machine that shows only the effects with a property. -/
def showing (step : S → I → S × List C) (p : C → Bool) (s : S) (i : I) : S × List C :=
  ((step s i).1, (step s i).2.filter p)

theorem final_showing (p : C → Bool) (s : S) (is : List I) :
    Run.final (showing step p) s is = Run.final step s is := by
  induction is generalizing s with
  | nil => rfl
  | cons i is ih => exact ih _

theorem emitted_showing (p : C → Bool) (s : S) (is : List I) :
    emitted (showing step p) s is = (emitted step s is).filter p := by
  induction is generalizing s with
  | nil => rfl
  | cons i is ih => rw [emitted_cons, emitted_cons, List.filter_append, ← ih]; rfl

end Run

end Library
