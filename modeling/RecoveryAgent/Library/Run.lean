import Mathlib.Data.List.Nodup
import Mathlib.Data.Set.Basic

/-!
# Runs of a machine that emits effects

A machine has a state and, for each input, makes one step: a new state and the
list of effects that the step emitted. `final` is the state after a list of
inputs, `emitted` the effects of all its steps in order, and `along` says that
a condition holds before every step of the run. The rules below turn a fact
about one step into a fact about every run: an invariant is kept, an effect
whose key is recorded happens at most once, and effects paid from a budget are
bounded by it.
-/

namespace Library

namespace Run

variable {S I C : Type*} (step : S → I → S × List C)

/-- The state after the inputs. -/
def final : S → List I → S
  | s, [] => s
  | s, i :: is => final (step s i).1 is

/-- The effects emitted along the inputs, in order. -/
def emitted : S → List I → List C
  | _, [] => []
  | s, i :: is => (step s i).2 ++ emitted (step s i).1 is

/-- `P` holds of the state and the input before every step of the run. -/
def along (P : S → I → Prop) : S → List I → Prop
  | _, [] => True
  | s, i :: is => P s i ∧ along P (step s i).1 is

@[simp] theorem final_nil (s : S) : final step s [] = s := rfl

@[simp] theorem final_cons (s : S) (i : I) (is : List I) :
    final step s (i :: is) = final step (step s i).1 is := rfl

@[simp] theorem emitted_cons (s : S) (i : I) (is : List I) :
    emitted step s (i :: is) = (step s i).2 ++ emitted step (step s i).1 is := rfl

@[simp] theorem along_nil (P : S → I → Prop) (s : S) : along step P s [] := trivial

theorem along_cons (P : S → I → Prop) (s : S) (i : I) (is : List I) :
    along step P s (i :: is) ↔ P s i ∧ along step P (step s i).1 is := Iff.rfl

theorem final_append (s : S) (is js : List I) :
    final step s (is ++ js) = final step (final step s is) js := by
  induction is generalizing s with
  | nil => rfl
  | cons i is ih => exact ih (s := (step s i).1)

/-- A condition on the inputs alone holds along every run of such inputs. -/
theorem along_of_forall_mem {P : I → Prop} (s : S) {is : List I} (h : ∀ i ∈ is, P i) :
    along step (fun _ i => P i) s is := by
  induction is generalizing s with
  | nil => trivial
  | cons i is ih =>
      exact ⟨h i List.mem_cons_self, ih _ fun j hj => h j (List.mem_cons_of_mem _ hj)⟩

/-- A condition along the run and one on its inputs give a condition along the
run. -/
theorem along_of_along {P R : S → I → Prop} {Q : I → Prop} {s : S} {is : List I}
    (his : along step P s is) (hmem : ∀ i ∈ is, Q i) (h : ∀ s i, P s i → Q i → R s i) :
    along step R s is := by
  induction is generalizing s with
  | nil => trivial
  | cons i is ih =>
      constructor
      · exact h s i his.1 (hmem i List.mem_cons_self)
      · exact ih his.2 fun j hj => hmem j (List.mem_cons_of_mem _ hj)

/-- An invariant that every step keeps holds after every run. -/
theorem final_of_preserved {P : S → I → Prop} {Inv : S → Prop}
    (hstep : ∀ s i, Inv s → P s i → Inv (step s i).1) {s : S} {is : List I}
    (hs : Inv s) (his : along step P s is) : Inv (final step s is) := by
  induction is generalizing s with
  | nil => exact hs
  | cons i is ih => exact ih (hstep s i hs his.1) his.2

/-- An invariant that every step keeps, whatever the input, holds after every
run. -/
theorem final_of_step {Inv : S → Prop} (hstep : ∀ s i, Inv s → Inv (step s i).1) {s : S}
    (hs : Inv s) (is : List I) : Inv (final step s is) :=
  final_of_preserved step (P := fun _ _ => True) (fun s i h _ => hstep s i h) hs
    (along_of_forall_mem step s fun _ _ => trivial)

/-- A mark that a step sets exactly when `Q` holds of it, and that no step takes back, is
missing after a run exactly when it was missing at first and no step of the run sets it. -/
theorem not_final_iff_along {marked : S → Prop} {Q : S → I → Prop}
    (hstep : ∀ s i, marked (step s i).1 ↔ marked s ∨ Q s i) (s : S) (is : List I) :
    ¬marked (final step s is) ↔ ¬marked s ∧ along step (fun s i => ¬Q s i) s is := by
  induction is generalizing s with
  | nil => exact (and_iff_left trivial).symm
  | cons i is ih =>
      rw [final_cons, ih, hstep, not_or, and_assoc]
      rfl

/-- What every step keeps of the state and of all that was emitted so far, every run
keeps. -/
theorem final_emitted_of_step {Inv : S → List C → Prop}
    (hstep : ∀ s acc i, Inv s acc → Inv (step s i).1 (acc ++ (step s i).2)) {s : S}
    {acc : List C} (hs : Inv s acc) (is : List I) :
    Inv (final step s is) (acc ++ emitted step s is) := by
  induction is generalizing s acc with
  | nil => simpa [emitted] using hs
  | cons i is ih =>
      have hnext := ih (hstep s acc i hs)
      rw [List.append_assoc] at hnext
      exact hnext

/-- A count that every step raises by the effects it emits counts the effects of
the run. -/
theorem final_add_emitted (count : S → ℕ) (counted : C → Bool)
    (hstep : ∀ s i, count (step s i).1 = count s + (step s i).2.countP counted) (s : S)
    (is : List I) : count (final step s is) = count s + (emitted step s is).countP counted := by
  induction is generalizing s with
  | nil => rfl
  | cons i is ih =>
      rw [final_cons, ih, hstep, emitted_cons, List.countP_append, Nat.add_assoc]

/-!
## Recorded effects

A step that emits an effect only when its key is not recorded, records the keys
it emits, and never forgets a key, emits every key at most once in a whole run.
-/

section Recorded

variable {K : Type*} (key : C → K) (recorded : S → Set K) (P : S → I → Prop)

/-- What one step of a recording machine does. -/
structure Recording : Prop where
  kept : ∀ s i, recorded s ⊆ recorded (step s i).1
  fresh : ∀ s i, P s i → ∀ c ∈ (step s i).2, key c ∉ recorded s
  noted : ∀ s i, P s i → ∀ c ∈ (step s i).2, key c ∈ recorded (step s i).1
  single : ∀ s i, ((step s i).2.map key).Nodup

variable {step key recorded P}

theorem Recording.recorded_final (h : Recording step key recorded P) (s : S) (is : List I) :
    recorded s ⊆ recorded (final step s is) := by
  induction is generalizing s with
  | nil => exact fun _ hk => hk
  | cons i is ih => exact fun k hk => ih _ (h.kept s i hk)

theorem Recording.emitted_fresh (h : Recording step key recorded P) {s : S} {is : List I}
    (his : along step P s is) : ∀ c ∈ emitted step s is, key c ∉ recorded s := by
  induction is generalizing s with
  | nil => intro c hc; cases hc
  | cons i is ih =>
      intro c hc
      rcases List.mem_append.1 hc with hc | hc
      · exact h.fresh s i his.1 c hc
      · exact fun hrec => ih his.2 c hc (h.kept s i hrec)

theorem Recording.emitted_noted (h : Recording step key recorded P) {s : S} {is : List I}
    (his : along step P s is) : ∀ c ∈ emitted step s is, key c ∈ recorded (final step s is) := by
  induction is generalizing s with
  | nil => intro c hc; cases hc
  | cons i is ih =>
      intro c hc
      rcases List.mem_append.1 hc with hc | hc
      · exact h.recorded_final _ is (h.noted s i his.1 c hc)
      · exact ih his.2 c hc

/-- No key is emitted twice. -/
theorem Recording.emitted_nodup (h : Recording step key recorded P) {s : S} {is : List I}
    (his : along step P s is) : ((emitted step s is).map key).Nodup := by
  induction is generalizing s with
  | nil => exact List.nodup_nil
  | cons i is ih =>
      rw [emitted_cons, List.map_append]
      refine List.Nodup.append (h.single s i) (ih his.2) ?_
      intro k hk hk'
      obtain ⟨c, hc, rfl⟩ := List.mem_map.1 hk
      obtain ⟨d, hd, hdc⟩ := List.mem_map.1 hk'
      exact h.emitted_fresh his.2 d hd (hdc ▸ h.noted s i his.1 c hc)

end Recorded

/-!
## Budgeted effects

`used` counts what has been spent of a budget of `cap`. A step emits at most one
counted effect, and only below the cap; it then either raises `used` or closes
the machine, after which no counted effect is emitted. The counted effects of a
run are then within what was left of the budget.
-/

section Budget

variable (counted : C → Bool) (used : S → ℕ) (closed : S → Prop) (cap : ℕ)
  (P : S → I → Prop)

structure Budgeted : Prop where
  kept : ∀ s i, P s i → used s ≤ used (step s i).1
  shut : ∀ s i, P s i → closed s → closed (step s i).1 ∧ (step s i).2.countP counted = 0
  spend : ∀ s i, P s i → (step s i).2.countP counted = 0 ∨
    ((step s i).2.countP counted = 1 ∧ used s < cap ∧
      (used s + 1 ≤ used (step s i).1 ∨ closed (step s i).1))

variable {step counted used closed cap P}

/-- A closed machine emits no counted effect any more. -/
theorem Budgeted.emitted_closed (h : Budgeted step counted used closed cap P) {s : S}
    (hs : closed s) {is : List I} (his : along step P s is) :
    (emitted step s is).countP counted = 0 := by
  induction is generalizing s with
  | nil => rfl
  | cons i is ih =>
      obtain ⟨hnext, hnone⟩ := h.shut s i his.1 hs
      rw [emitted_cons, List.countP_append, hnone, ih hnext his.2]

/-- The counted effects of a run stay within what the budget has left. -/
theorem Budgeted.emitted_le (h : Budgeted step counted used closed cap P) {s : S}
    {is : List I} (his : along step P s is) :
    (emitted step s is).countP counted ≤ cap - used s := by
  induction is generalizing s with
  | nil => exact Nat.zero_le _
  | cons i is ih =>
      have hrest := ih his.2
      have hkept := h.kept s i his.1
      rw [emitted_cons, List.countP_append]
      rcases h.spend s i his.1 with hnone | ⟨hone, hroom, hpaid | hclosed⟩
      · omega
      · omega
      · have := h.emitted_closed hclosed his.2
        omega

end Budget

end Run

end Library
