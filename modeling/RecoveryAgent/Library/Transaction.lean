import Mathlib.Logic.Function.Basic
import RecoveryAgent.Library.Run

/-!
# Interleaved transactions

Any number of parties share a store. A transaction loads a copy of what it
needs, decides from that copy what to write, and commits; each of the three is
one step, and the steps of different parties interleave freely. Nothing is
checked at the commit, so a decision may be made from a copy that is stale by
the time it is written.
-/

namespace Library

namespace Transaction

/-- What one party does. A party that finds nothing to load is done at once. -/
structure Script (D C W : Type*) where
  load : D → Option C
  decide : D → C → W
  commit : D → C → W → D

/-- How far a party has come. -/
inductive Phase (C W : Type*) where
  | ready
  | loaded (copy : C)
  | decided (copy : C) (write : W)
  | finished

/-- The store and the phase of every party. -/
structure Shared (ι D C W : Type*) where
  store : D
  phase : ι → Phase C W

variable {ι D C W : Type*}

def Phase.isDecided : Phase C W → Bool
  | decided _ _ => true
  | _ => false

/-- The copy that a party works on. -/
def Phase.copy? : Phase C W → Option C
  | loaded copy => some copy
  | decided copy _ => some copy
  | _ => none

/-- One step of one party. -/
def Script.advance (tx : Script D C W) (store : D) : Phase C W → D × Phase C W
  | .ready =>
      match tx.load store with
      | some copy => (store, .loaded copy)
      | none => (store, .finished)
  | .loaded copy => (store, .decided copy (tx.decide store copy))
  | .decided copy write => (tx.commit store copy write, .finished)
  | .finished => (store, .finished)

/-- What a party still does to the store when nobody comes in between. -/
def Script.complete (tx : Script D C W) (store : D) : Phase C W → D
  | .ready =>
      match tx.load store with
      | some copy => tx.commit store copy (tx.decide store copy)
      | none => store
  | .loaded copy => tx.commit store copy (tx.decide store copy)
  | .decided copy write => tx.commit store copy write
  | .finished => store

/-- The phase was reached from this store alone. -/
def Script.Tracks (tx : Script D C W) (store : D) : Phase C W → Prop
  | .ready => True
  | .loaded copy => tx.load store = some copy
  | .decided copy write => tx.load store = some copy ∧ write = tx.decide store copy
  | .finished => True

/-- A copy in hand was loaded from the store, and so was what is decided. -/
theorem Script.Tracks.of_copy? {tx : Script D C W} {store : D} {phase : Phase C W} {copy : C}
    (h : tx.Tracks store phase) (hcopy : phase.copy? = some copy) :
    tx.load store = some copy ∧
      (phase = .loaded copy ∨ phase = .decided copy (tx.decide store copy)) := by
  cases phase with
  | ready => cases hcopy
  | loaded _ =>
      cases hcopy
      exact ⟨h, Or.inl rfl⟩
  | decided _ write =>
      cases hcopy
      obtain ⟨hload, hwrite⟩ := h
      exact ⟨hload, Or.inr (by rw [hwrite])⟩
  | finished => cases hcopy

theorem Phase.exists_copy_of_isDecided {phase : Phase C W} (h : phase.isDecided = true) :
    ∃ copy write, phase = .decided copy write := by
  cases phase with
  | decided copy write => exact ⟨copy, write, rfl⟩
  | ready => cases h
  | loaded copy => cases h
  | finished => cases h

/-- All parties before their first step. -/
def start (store : D) : Shared ι D C W := ⟨store, fun _ => .ready⟩

/-- As long as no party is done, the store is the one of the start, and every
copy and decision comes from it. -/
def Undisturbed (tx : ι → Script D C W) (store : D) (s : Shared ι D C W) : Prop :=
  (∀ i, s.phase i ≠ .finished) → s.store = store ∧ ∀ i, (tx i).Tracks store (s.phase i)

theorem start_undisturbed (tx : ι → Script D C W) (store : D) :
    Undisturbed tx store (start store) := by
  intro _
  constructor
  · rfl
  · intro i
    exact True.intro

variable [DecidableEq ι]

/-- A step of party `i`; a commit is an effect that names the party. -/
def step (tx : ι → Script D C W) (s : Shared ι D C W) (i : ι) : Shared ι D C W × List ι :=
  (⟨((tx i).advance s.store (s.phase i)).1,
      Function.update s.phase i ((tx i).advance s.store (s.phase i)).2⟩,
    if (s.phase i).isDecided then [i] else [])

variable {tx : ι → Script D C W}

theorem step_phase_self (s : Shared ι D C W) (i : ι) :
    (step tx s i).1.phase i = ((tx i).advance s.store (s.phase i)).2 :=
  Function.update_self ..

theorem step_phase_of_ne (s : Shared ι D C W) {i j : ι} (h : j ≠ i) :
    (step tx s i).1.phase j = s.phase j :=
  Function.update_of_ne h ..

theorem step_of_finished {s : Shared ι D C W} {i : ι} (h : s.phase i = .finished) :
    (step tx s i).1 = s := by
  have hphase : Function.update s.phase i .finished = s.phase := by
    rw [← h]
    exact Function.update_eq_self i s.phase
  simp only [step, h, Script.advance, hphase]

/-- A party that is done stays done. -/
theorem step_finished {s : Shared ι D C W} {j : ι} (h : s.phase j = .finished) (i : ι) :
    (step tx s i).1.phase j = .finished := by
  by_cases hij : j = i
  · subst hij
    rw [step_of_finished h, h]
  · rw [step_phase_of_ne s hij, h]

/-- Only a commit changes the store. -/
theorem step_store {s : Shared ι D C W} {i : ι} (h : (step tx s i).1.phase i ≠ .finished) :
    (step tx s i).1.store = s.store := by
  rw [step_phase_self] at h
  have hadvance : ((tx i).advance s.store (s.phase i)).1 = s.store := by
    cases hphase : s.phase i with
    | ready =>
        simp only [Script.advance]
        split <;> rfl
    | loaded copy => rfl
    | decided copy write =>
        rw [hphase] at h
        exact absurd rfl h
    | finished => rfl
  exact hadvance

theorem advance_tracks {tx : Script D C W} {store : D} {phase : Phase C W}
    (h : tx.Tracks store phase) : tx.Tracks store (tx.advance store phase).2 := by
  cases phase with
  | ready =>
      unfold Script.advance
      cases hload : tx.load store with
      | some copy => exact hload
      | none => trivial
  | loaded copy => exact ⟨h, rfl⟩
  | decided copy write => trivial
  | finished => trivial

theorem step_undisturbed {store : D} {s : Shared ι D C W} (h : Undisturbed tx store s) (i : ι) :
    Undisturbed tx store (step tx s i).1 := by
  intro hrunning
  obtain ⟨hstore, htracks⟩ := h fun j hj => hrunning j (step_finished hj i)
  constructor
  · rw [step_store (hrunning i), hstore]
  · intro j
    by_cases hji : j = i
    · subst hji
      rw [step_phase_self, hstore]
      exact advance_tracks (htracks j)
    · rw [step_phase_of_ne s hji]
      exact htracks j

theorem final_undisturbed (store : D) (is : List ι) :
    Undisturbed tx store (Run.final (step tx) (start store) is) := by
  have hstep : ∀ s i, Undisturbed tx store s → Undisturbed tx store (step tx s i).1 :=
    fun _ i h => step_undisturbed h i
  exact Run.final_of_step (step tx) hstep (start_undisturbed tx store) is

theorem complete_advance (tx : Script D C W) (store : D) (phase : Phase C W) :
    tx.complete (tx.advance store phase).1 (tx.advance store phase).2 =
      tx.complete store phase := by
  cases phase with
  | ready =>
      unfold Script.advance Script.complete
      cases hload : tx.load store with
      | some copy => rfl
      | none => rfl
  | loaded copy => rfl
  | decided copy write => rfl
  | finished => rfl

/-- When all other parties are done, the last one completes from where it
stands. -/
theorem final_store_of_last {s : Shared ι D C W} {j : ι}
    (hothers : ∀ i, i ≠ j → s.phase i = .finished) {is : List ι}
    (hdone : (Run.final (step tx) s is).phase j = .finished) :
    (Run.final (step tx) s is).store = (tx j).complete s.store (s.phase j) := by
  induction is generalizing s with
  | nil =>
      have hphase : s.phase j = .finished := hdone
      rw [Run.final_nil, hphase]
      rfl
  | cons i is ih =>
      have hnext := ih (fun k hk => step_finished (hothers k hk) i) hdone
      rw [Run.final_cons, hnext]
      by_cases hij : i = j
      · subst hij
        rw [step_phase_self]
        exact complete_advance (tx i) s.store (s.phase i)
      · rw [step_of_finished (hothers i hij)]

end Transaction

/-- What a column holds after a transaction that has loaded `loaded` and leaves
`mine`, when `stored` is stored meanwhile: it is written only if it was
changed. -/
def column {α : Type*} [DecidableEq α] (loaded mine stored : α) : α :=
  if mine = loaded then stored else mine

@[simp] theorem column_undisturbed {α : Type*} [DecidableEq α] (loaded mine : α) :
    column loaded mine loaded = mine := by
  unfold column
  split
  · next h => exact h.symm
  · rfl

end Library
