import Mathlib.Logic.Function.Basic
import RecoveryAgent.Library.Run

/-!
# Transactions with a checked commit

Any number of parties share a store. A transaction checks the store once, then
works statement by statement on a buffer of its own, and hands the buffer over in
one commit, which the store takes as a whole or refuses. Every statement is one
step, and the steps of different parties interleave freely; so many checks may
have been made before the first commit. What is left of an interleaving is the
order of its commits: the store is what those make of it one after the other.
-/

namespace Library

namespace Commit

/-- What one party does. -/
structure Script (D B : Type*) where
  check : D → Bool
  blank : B
  statements : List (B → B)
  commit : D → B → Option D

/-- How far a party has come. -/
inductive Phase (B : Type*) where
  | ready
  | working (rest : List (B → B)) (buffer : B)
  | committed
  | rejected
  | declined

/-- The store and the phase of every party. -/
structure Shared (ι D B : Type*) where
  store : D
  phase : ι → Phase B

variable {ι D B : Type*}

/-- The buffer after some statements. -/
def written (buffer : B) (statements : List (B → B)) : B :=
  statements.foldl (fun b statement => statement b) buffer

/-- The buffer that a party commits. -/
def Script.buffer (tx : Script D B) : B := written tx.blank tx.statements

/-- One step of one party. -/
def Script.advance (tx : Script D B) (store : D) : Phase B → D × Phase B
  | .ready =>
      if tx.check store then (store, .working tx.statements tx.blank) else (store, .declined)
  | .working (statement :: rest) buffer => (store, .working rest (statement buffer))
  | .working [] buffer =>
      match tx.commit store buffer with
      | some store' => (store', .committed)
      | none => (store, .rejected)
  | phase => (store, phase)

/-- What a party does to the store when nobody comes in between. -/
def Script.alone (tx : Script D B) (store : D) : D :=
  if tx.check store then (tx.commit store tx.buffer).getD store else store

/-- All parties before their first step. -/
def start (store : D) : Shared ι D B := ⟨store, fun _ => .ready⟩

/-- The commits of these parties, one after the other, lead from one store to the
other. -/
inductive Applied (tx : ι → Script D B) (init : D) : List ι → D → Prop where
  | nil : Applied tx init [] init
  | concat {done : List ι} {store store' : D} {i : ι} (before : Applied tx init done store)
      (taken : (tx i).commit store (tx i).buffer = some store') :
      Applied tx init (done ++ [i]) store'

/-- The store is what the commits so far have made of it, and everyone else has
left no trace. -/
structure Ordered (tx : ι → Script D B) (init : D) (s : Shared ι D B) (done : List ι) : Prop where
  applied : Applied tx init done s.store
  nodup : done.Nodup
  committed : ∀ i, s.phase i = .committed ↔ i ∈ done
  working : ∀ i rest buffer, s.phase i = .working rest buffer →
    written buffer rest = (tx i).buffer

theorem start_ordered (tx : ι → Script D B) (store : D) : Ordered tx store (start store) [] where
  applied := .nil
  nodup := List.nodup_nil
  committed := by simp [start]
  working := by simp [start]

section

variable {tx : Script D B} {store store' : D}

theorem advance_of_check (h : tx.check store = true) :
    tx.advance store .ready = (store, .working tx.statements tx.blank) := if_pos h

theorem advance_of_not_check (h : tx.check store = false) :
    tx.advance store .ready = (store, .declined) := if_neg (by simp [h])

theorem advance_statement (statement : B → B) (rest : List (B → B)) (buffer : B) :
    tx.advance store (.working (statement :: rest) buffer) =
      (store, .working rest (statement buffer)) := rfl

theorem advance_of_taken {buffer : B} (h : tx.commit store buffer = some store') :
    tx.advance store (.working [] buffer) = (store', .committed) := by
  simp only [Script.advance, h]

theorem advance_of_refused {buffer : B} (h : tx.commit store buffer = none) :
    tx.advance store (.working [] buffer) = (store, .rejected) := by
  simp only [Script.advance, h]

variable (store) in
/-- What an advancing party leaves: the same store without a commit, or the store
that its commit has made. -/
theorem advance_cases {phase : Phase B}
    (hbuffer : ∀ rest buffer, phase = .working rest buffer → written buffer rest = tx.buffer) :
    ((tx.advance store phase).1 = store ∧
        ((tx.advance store phase).2 = .committed ↔ phase = .committed) ∧
        ∀ rest buffer, (tx.advance store phase).2 = .working rest buffer →
          written buffer rest = tx.buffer) ∨
      (phase ≠ .committed ∧ (tx.advance store phase).2 = .committed ∧
        tx.commit store tx.buffer = some (tx.advance store phase).1) := by
  cases phase with
  | ready =>
      left
      cases hcheck : tx.check store with
      | true =>
          rw [advance_of_check hcheck]
          refine ⟨rfl, by simp, ?_⟩
          intro rest buffer hworking
          cases hworking
          rfl
      | false =>
          rw [advance_of_not_check hcheck]
          exact ⟨rfl, by simp, by simp⟩
  | working rest buffer =>
      have hsame := hbuffer rest buffer rfl
      cases rest with
      | cons statement rest =>
          left
          rw [advance_statement]
          refine ⟨rfl, by simp, ?_⟩
          intro rest' buffer' hworking
          cases hworking
          exact hsame
      | nil =>
          have hcommit : tx.commit store buffer = tx.commit store tx.buffer :=
            congrArg (tx.commit store) hsame
          cases htaken : tx.commit store buffer with
          | some store' =>
              rw [advance_of_taken htaken]
              exact Or.inr ⟨by simp, rfl, hcommit.symm.trans htaken⟩
          | none =>
              rw [advance_of_refused htaken]
              exact Or.inl ⟨rfl, by simp, by simp⟩
  | committed => exact Or.inl ⟨rfl, Iff.rfl, by simp [Script.advance]⟩
  | rejected => exact Or.inl ⟨rfl, Iff.rfl, by simp [Script.advance]⟩
  | declined => exact Or.inl ⟨rfl, Iff.rfl, by simp [Script.advance]⟩

end

def Phase.isCommitted : Phase B → Bool
  | committed => true
  | _ => false

theorem Phase.isCommitted_iff {phase : Phase B} :
    phase.isCommitted = true ↔ phase = .committed := by
  cases phase <;> simp [isCommitted]

variable [DecidableEq ι]

/-- A step of party `i`; a commit that is taken is an effect that names the
party. -/
def step (tx : ι → Script D B) (s : Shared ι D B) (i : ι) : Shared ι D B × List ι :=
  (⟨((tx i).advance s.store (s.phase i)).1,
      Function.update s.phase i ((tx i).advance s.store (s.phase i)).2⟩,
    if ((tx i).advance s.store (s.phase i)).2.isCommitted && !(s.phase i).isCommitted then [i]
    else [])

variable {tx : ι → Script D B}

theorem step_ordered {init : D} {s : Shared ι D B} {done : List ι}
    (h : Ordered tx init s done) (i : ι) :
    Ordered tx init (step tx s i).1 (done ++ (step tx s i).2) := by
  have hphase : ∀ j, (step tx s i).1.phase j =
      if j = i then ((tx i).advance s.store (s.phase i)).2 else s.phase j := fun j =>
    Function.update_apply ..
  rcases advance_cases s.store (h.working i) with
    ⟨hstore, hcommitted, hworking⟩ | ⟨hnew, hdone, htaken⟩
  · have hnone : (step tx s i).2 = [] := by
      have hflags : ((tx i).advance s.store (s.phase i)).2.isCommitted =
          (s.phase i).isCommitted := by
        rw [Bool.eq_iff_iff, Phase.isCommitted_iff, Phase.isCommitted_iff, hcommitted]
      simp [step, hflags]
    have hsame : (step tx s i).1.store = s.store := hstore
    rw [hnone, List.append_nil]
    constructor
    · rw [hsame]
      exact h.applied
    · exact h.nodup
    · intro j
      rw [hphase]
      split
      · next hj =>
          rw [hj, hcommitted]
          exact h.committed i
      · exact h.committed j
    · intro j rest buffer hj
      rw [hphase] at hj
      split at hj
      · next hji =>
          rw [hji]
          exact hworking rest buffer hj
      · exact h.working j rest buffer hj
  · have hsome : (step tx s i).2 = [i] := by
      have hafter : ((tx i).advance s.store (s.phase i)).2.isCommitted = true :=
        Phase.isCommitted_iff.2 hdone
      have hbefore : (s.phase i).isCommitted = false := by
        rw [Bool.eq_false_iff]
        exact fun hcommitted => hnew (Phase.isCommitted_iff.1 hcommitted)
      simp [step, hafter, hbefore]
    have hfresh : i ∉ done := fun hi => hnew ((h.committed i).2 hi)
    rw [hsome]
    constructor
    · exact .concat h.applied htaken
    · exact List.Nodup.append h.nodup (List.nodup_singleton i) (by simpa using hfresh)
    · intro j
      rw [hphase, List.mem_append, List.mem_singleton, ← h.committed j]
      split
      · next hj => simp [hj, hdone]
      · next hj => simp [hj]
    · intro j rest buffer hj
      rw [hphase] at hj
      split at hj
      · rw [hdone] at hj
        cases hj
      · exact h.working j rest buffer hj

/-- Every interleaving is the sequence of its commits. -/
theorem final_ordered (store : D) (is : List ι) :
    Ordered tx store (Run.final (step tx) (start store) is)
      (Run.emitted (step tx) (start store) is) := by
  have hstep : ∀ s done i, Ordered tx store s done →
      Ordered tx store (step tx s i).1 (done ++ (step tx s i).2) :=
    fun _ _ i h => step_ordered h i
  exact Run.final_emitted_of_step (step tx) hstep (start_ordered tx store) is

/-- A step of a party from a phase, by what the party does there. -/
theorem step_of_advance {s : Shared ι D B} {i : ι} {store : D} {phase : Phase B}
    (h : (tx i).advance s.store (s.phase i) = (store, phase)) :
    (step tx s i).1.store = store ∧ (step tx s i).1.phase i = phase := by
  constructor
  · exact congrArg Prod.fst h
  · exact (Function.update_self ..).trans (congrArg Prod.snd h)

/-- A party at work that nobody disturbs commits its buffer. -/
theorem final_working {s : Shared ι D B} {i : ι} {rest : List (B → B)} {buffer : B}
    (h : s.phase i = .working rest buffer) :
    (Run.final (step tx) s (List.replicate (rest.length + 1) i)).store =
      ((tx i).commit s.store (written buffer rest)).getD s.store := by
  induction rest generalizing s buffer with
  | nil =>
      change (step tx s i).1.store = ((tx i).commit s.store buffer).getD s.store
      cases htaken : (tx i).commit s.store buffer with
      | some store' =>
          exact (step_of_advance (by rw [h]; exact advance_of_taken htaken)).1
      | none => exact (step_of_advance (by rw [h]; exact advance_of_refused htaken)).1
  | cons statement rest ih =>
      obtain ⟨hstore, hphase⟩ : (step tx s i).1.store = s.store ∧
          (step tx s i).1.phase i = .working rest (statement buffer) :=
        step_of_advance (by rw [h]; exact advance_statement statement rest buffer)
      rw [List.length_cons, List.replicate_succ, Run.final_cons, ih hphase, hstore]
      rfl

/-- A party that has declined does nothing. -/
theorem final_declined {s : Shared ι D B} {i : ι} (h : s.phase i = .declined) (n : ℕ) :
    (Run.final (step tx) s (List.replicate n i)).store = s.store := by
  induction n generalizing s with
  | zero => rfl
  | succ n ih =>
      obtain ⟨hstore, hphase⟩ : (step tx s i).1.store = s.store ∧
          (step tx s i).1.phase i = .declined :=
        step_of_advance (by rw [h]; rfl)
      rw [List.replicate_succ, Run.final_cons, ih hphase, hstore]

/-- A party that nobody disturbs does what it does alone. -/
theorem final_alone (store : D) (i : ι) :
    (Run.final (step tx) (start store)
      (List.replicate ((tx i).statements.length + 2) i)).store = (tx i).alone store := by
  rw [List.replicate_succ, Run.final_cons]
  unfold Script.alone
  cases hcheck : (tx i).check store with
  | true =>
      obtain ⟨hstore, hphase⟩ : (step tx (start store) i).1.store = store ∧
          (step tx (start store) i).1.phase i = .working (tx i).statements (tx i).blank :=
        step_of_advance (advance_of_check hcheck)
      rw [final_working hphase, hstore]
      rfl
  | false =>
      obtain ⟨hstore, hphase⟩ : (step tx (start store) i).1.store = store ∧
          (step tx (start store) i).1.phase i = .declined :=
        step_of_advance (advance_of_not_check hcheck)
      rw [final_declined hphase, hstore]
      rfl

end Commit

end Library
