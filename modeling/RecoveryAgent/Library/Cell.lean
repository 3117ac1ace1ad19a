import Mathlib.Data.Option.Basic

/-!
# Computations over one cell

A cell that all computations share and that a computation may write before it fails: what
it has written stays. A computation that is run under a value of its own leaves the cell at
a fixed value, and a sequence of such computations answers as if there were no cell.
-/

namespace Library

universe u

/-- What runs over a cell: it answers or fails, and leaves a value in the cell. -/
def Cell (σ α : Type*) := σ → Option α × σ

namespace Cell

section

variable {σ : Type*}

instance : Monad (Cell σ) where
  pure a := fun s => (some a, s)
  bind x f := fun s =>
    match x s with
    | (some a, s') => f a s'
    | (none, s') => (none, s')

def write (s' : σ) : Cell σ PUnit := fun _ => (some ⟨⟩, s')

/-- A computation that only reads the cell. -/
def read {α : Type*} (f : σ → Option α) : Cell σ α := fun s => (f s, s)

/-- `last` runs after `x` in any case; when it fails, so does the whole. -/
def tryFinally {α : Type u} (x : Cell σ α) (last : Cell σ PUnit.{u + 1}) : Cell σ α := fun s =>
  match x s with
  | (r, s') =>
      match last s' with
      | (some _, s'') => (r, s'')
      | (none, s'') => (none, s'')

end

section

variable {σ : Type*} {α β : Type u} {x : Cell σ α} {f : α → Cell σ β} {s d : σ}

@[simp] theorem pure_apply (a : α) : (pure a : Cell σ α) s = (some a, s) := rfl

@[simp] theorem read_apply (g : σ → Option α) : read g s = (g s, s) := rfl

theorem bind_of_some {a : α} (h : x s = (some a, d)) : (x >>= f) s = f a d := by
  change (match x s with | (some a, s') => f a s' | (none, s') => (none, s')) = _
  rw [h]

theorem bind_of_none (h : x s = (none, d)) : (x >>= f) s = (none, d) := by
  change (match x s with | (some a, s') => f a s' | (none, s') => (none, s')) = _
  rw [h]

/-- What comes after a computation that leaves `d`, and leaves `d` itself, does not see the
cell. -/
theorem bind_settled {r : Option α} {g : α → Option β} (hx : x s = (r, d))
    (hf : ∀ a, f a d = (g a, d)) : (x >>= f) s = (r.bind g, d) := by
  cases r with
  | some a => exact (bind_of_some hx).trans (hf a)
  | none => exact bind_of_none hx

/-- A computation under a value of its own, with the cell written at the end. -/
def during (value reset : σ) (x : Cell σ α) : Cell σ α := do
  write value
  tryFinally x (write reset)

theorem during_apply (value reset : σ) :
    during value reset x s = ((x value).1, reset) := rfl

end

end Cell

end Library
