import Mathlib.Data.List.Basic

/-!
# Generators that may be closed early

A generator hands out values one by one while it works on a state. Its consumer
may stop at any of them; the generator is then closed there, and only its
cleanups run. So a generator means, from a state: what it hands out, each value
with the state that is left when it is closed at it, and the state and the
result when it is run to its end. `Meets` is the triple for generators, with a
condition for every place where the consumer may stop, and one rule for each
construct.
-/

namespace Library

structure Generated (σ Y ε α : Type*) where
  closed : List (Y × σ) := []
  state : σ
  result : Except ε α

/-- A generator over a state, with the values it hands out, what it may raise
and what it returns. -/
def Generator (σ Y ε α : Type*) := σ → Generated σ Y ε α

namespace Generator

universe u

variable {σ Y ε : Type*} {α β : Type u}

def yield (y : Y) : Generator σ Y ε PUnit.{u + 1} := fun s =>
  { closed := [(y, s)], state := s, result := .ok ⟨⟩ }

/-- A step that hands out nothing, and may raise. -/
def effect (f : σ → Except ε α × σ) : Generator σ Y ε α := fun s =>
  { state := (f s).2, result := (f s).1 }

protected def pure (a : α) : Generator σ Y ε α := fun s => { state := s, result := .ok a }

protected def bind (g : Generator σ Y ε α) (f : α → Generator σ Y ε β) : Generator σ Y ε β :=
  fun s =>
    match (g s).result with
    | .ok a =>
        { closed := (g s).closed ++ (f a (g s).state).closed
          state := (f a (g s).state).state
          result := (f a (g s).state).result }
    | .error e => { closed := (g s).closed, state := (g s).state, result := .error e }

instance : Monad (Generator σ Y ε) where
  pure := Generator.pure
  bind := Generator.bind

/-- `try: ... finally: ...`. The cleanup runs at the end, however that comes
about, and when the generator is closed inside. -/
def withCleanup (cleanup : σ → σ) (g : Generator σ Y ε α) : Generator σ Y ε α := fun s =>
  { closed := (g s).closed.map fun p => (p.1, cleanup p.2)
    state := cleanup (g s).state
    result := (g s).result }

/-- One value for each element of a list. -/
def yieldAll (ys : List Y) : Generator σ Y ε PUnit.{u + 1} := fun s =>
  { closed := ys.map fun y => (y, s), state := s, result := .ok ⟨⟩ }

/-!
## Triples
-/

/-- From a state with `pre`, `during` holds wherever the generator is closed,
`post` at its end, and `raised` where it raises. -/
def Meets (pre : σ → Prop) (g : Generator σ Y ε α) (during : Y → σ → Prop)
    (post : α → σ → Prop) (raised : σ → Prop) : Prop :=
  ∀ s, pre s → (∀ p ∈ (g s).closed, during p.1 p.2) ∧
    match (g s).result with
    | .ok a => post a (g s).state
    | .error _ => raised (g s).state

variable {pre : σ → Prop} {during : Y → σ → Prop} {post : α → σ → Prop}
  {raised : σ → Prop} {g : Generator σ Y ε α}

/-- A fact about the values so far may be assumed. -/
theorem Meets.of_fact {fact : Prop} (h : fact → Meets pre g during post raised) :
    Meets (fun s => fact ∧ pre s) g during post raised :=
  fun s hs => h hs.1 s hs.2

/-- `mid` is what holds between the two parts. -/
theorem Meets.bind (mid : α → σ → Prop) {f : α → Generator σ Y ε β} {post : β → σ → Prop}
    (hg : Meets pre g during mid raised)
    (hf : ∀ a, Meets (mid a) (f a) during post raised) :
    Meets pre (g >>= f) during post raised := by
  intro s hs
  obtain ⟨hclosed, hend⟩ := hg s hs
  change (∀ p ∈ (Generator.bind g f s).closed, _) ∧
    match (Generator.bind g f s).result with
    | .ok a => post a (Generator.bind g f s).state
    | .error _ => raised (Generator.bind g f s).state
  unfold Generator.bind
  cases hresult : (g s).result with
  | error e =>
      rw [hresult] at hend
      exact ⟨hclosed, hend⟩
  | ok a =>
      rw [hresult] at hend
      obtain ⟨hrest, hpost⟩ := hf a (g s).state hend
      refine ⟨?_, hpost⟩
      intro p hp
      rcases List.mem_append.1 hp with hp | hp
      · exact hclosed p hp
      · exact hrest p hp

theorem Meets.yield {y : Y} {post : PUnit → σ → Prop}
    (h : ∀ s, pre s → during y s ∧ post ⟨⟩ s) :
    Meets pre (Generator.yield y : Generator σ Y ε PUnit) during post raised := by
  intro s hs
  obtain ⟨hduring, hpost⟩ := h s hs
  constructor
  · intro p hp
    rw [List.mem_singleton.1 hp]
    exact hduring
  · exact hpost

theorem Meets.yieldAll {ys : List Y} {post : PUnit → σ → Prop}
    (h : ∀ s, pre s → (∀ y ∈ ys, during y s) ∧ post ⟨⟩ s) :
    Meets pre (Generator.yieldAll ys : Generator σ Y ε PUnit) during post raised := by
  intro s hs
  obtain ⟨hduring, hpost⟩ := h s hs
  constructor
  · intro p hp
    obtain ⟨y, hy, rfl⟩ := List.mem_map.1 hp
    exact hduring y hy
  · exact hpost

theorem Meets.effect {f : σ → Except ε α × σ}
    (h : ∀ s, pre s →
      match (f s).1 with
      | .ok a => post a (f s).2
      | .error _ => raised (f s).2) :
    Meets pre (Generator.effect f : Generator σ Y ε α) during post raised := by
  intro s hs
  constructor
  · intro p hp
    cases hp
  · exact h s hs

theorem Meets.withCleanup {cleanup : σ → σ}
    (h : Meets pre g (fun y s => during y (cleanup s)) (fun a s => post a (cleanup s))
      fun s => raised (cleanup s)) :
    Meets pre (Generator.withCleanup cleanup g) during post raised := by
  intro s hs
  obtain ⟨hclosed, hend⟩ := h s hs
  constructor
  · intro p hp
    obtain ⟨q, hq, rfl⟩ := List.mem_map.1 hp
    exact hclosed q hq
  · exact hend

/-!
## What is handed out
-/

/-- Run to its end, the generator hands out a value with the property. -/
def Hands (P : Y → Prop) (g : Generator σ Y ε α) (s : σ) : Prop := ∃ p ∈ (g s).closed, P p.1

variable {P : Y → Prop} {s : σ}

/-- Either the first part hands it out, or it ends with a result and the rest does. -/
theorem hands_bind {f : α → Generator σ Y ε β} :
    Hands P (g >>= f) s ↔
      Hands P g s ∨ ∃ a, (g s).result = .ok a ∧ Hands P (f a) (g s).state := by
  change (∃ p ∈ (Generator.bind g f s).closed, P p.1) ↔ _
  unfold Generator.bind
  cases hresult : (g s).result with
  | error e =>
      constructor
      · exact Or.inl
      · rintro (h | ⟨a, ha, -⟩)
        · exact h
        · cases ha
  | ok a =>
      constructor
      · rintro ⟨p, hp, h⟩
        rcases List.mem_append.1 hp with hp | hp
        · exact Or.inl ⟨p, hp, h⟩
        · exact Or.inr ⟨a, rfl, p, hp, h⟩
      · rintro (⟨p, hp, h⟩ | ⟨a', ha', p, hp, h⟩)
        · exact ⟨p, List.mem_append_left _ hp, h⟩
        · cases ha'
          exact ⟨p, List.mem_append_right _ hp, h⟩

/-- A first part that hands out nothing of the kind and raises nothing. -/
theorem hands_bind_of_silent {a : α} {f : α → Generator σ Y ε β} (hsilent : ¬Hands P g s)
    (hresult : (g s).result = .ok a) :
    Hands P (g >>= f) s ↔ Hands P (f a) (g s).state := by
  rw [hands_bind, or_iff_right hsilent, hresult]
  constructor
  · rintro ⟨a', ha', h⟩
    cases ha'
    exact h
  · exact fun h => ⟨a, rfl, h⟩

theorem hands_yield {y : Y} : Hands P (Generator.yield y : Generator σ Y ε PUnit) s ↔ P y := by
  constructor
  · rintro ⟨p, hp, h⟩
    rw [List.mem_singleton.1 hp] at h
    exact h
  · exact fun h => ⟨(y, s), List.mem_singleton_self _, h⟩

/-- A value that is none of the kind comes before the rest. -/
theorem hands_yield_bind {y : Y} {f : PUnit → Generator σ Y ε β} (hy : ¬P y) :
    Hands P (Generator.yield y >>= f) s ↔ Hands P (f ⟨⟩) s :=
  hands_bind_of_silent (fun h => hy (hands_yield.1 h)) rfl

theorem not_hands_effect {f : σ → Except ε α × σ} :
    ¬Hands P (Generator.effect f : Generator σ Y ε α) s := by
  rintro ⟨p, hp, -⟩
  cases hp

end Generator

end Library
