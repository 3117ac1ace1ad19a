import Mathlib.Data.List.Induction
import Mathlib.Logic.Function.Basic

/-!
# The latest entry of each key

A dictionary that a loop fills from a list: of several entries with one key the last one
wins. An entry without a key is passed over.
-/

namespace Library

variable {α κ β : Type*} [DecidableEq κ] (key : α → Option κ) (val : α → β)

/-- The dictionary that the loop leaves. -/
def latest (xs : List α) : κ → Option β :=
  xs.foldl (fun found x =>
    match key x with
    | some k => Function.update found k (some (val x))
    | none => found) fun _ => none

theorem latest_concat (xs : List α) (x : α) (k : κ) :
    latest key val (xs ++ [x]) k =
      if key x = some k then some (val x) else latest key val xs k := by
  unfold latest
  rw [List.foldl_append, List.foldl_cons, List.foldl_nil]
  cases hkey : key x with
  | none => rw [if_neg (by simp)]
  | some k' =>
      simp only
      by_cases hk : k' = k
      · rw [hk, if_pos rfl, Function.update_self]
      · rw [if_neg (by simpa using hk), Function.update_of_ne (Ne.symm hk)]

theorem latest_map {γ : Type*} (f : γ → α) (xs : List γ) :
    latest key val (xs.map f) = latest (fun x => key (f x)) (fun x => val (f x)) xs := by
  rw [latest, List.foldl_map, latest]

/-- Where the second part of the list has no entry, the first part decides. -/
theorem latest_append (xs ys : List α) (k : κ) :
    latest key val (xs ++ ys) k = (latest key val ys k).or (latest key val xs k) := by
  induction ys using List.reverseRecOn with
  | nil => rw [List.append_nil]; rfl
  | append_singleton ys y ih =>
      rw [← List.append_assoc, latest_concat, latest_concat, ih]
      split <;> rfl

/-- Lists whose entries agree one by one fill one dictionary. -/
theorem latest_congr {γ : Type*} {key' : γ → Option κ} {val' : γ → β} {xs : List α} {ys : List γ}
    (h : List.Forall₂ (fun x y => key x = key' y ∧ val x = val' y) xs ys) :
    latest key val xs = latest key' val' ys := by
  have hloop : ∀ found : κ → Option β,
      xs.foldl (fun found x =>
        match key x with
        | some k => Function.update found k (some (val x))
        | none => found) found =
      ys.foldl (fun found y =>
        match key' y with
        | some k => Function.update found k (some (val' y))
        | none => found) found := by
    induction h with
    | nil => exact fun found => rfl
    | cons hxy _ ih =>
        intro found
        rw [List.foldl_cons, List.foldl_cons, hxy.1, hxy.2]
        exact ih _
  exact hloop _

/-- It holds the last entry with the key. -/
theorem latest_eq_find? (xs : List α) (k : κ) :
    latest key val xs k = (xs.reverse.find? fun x => key x = some k).map val := by
  induction xs using List.reverseRecOn with
  | nil => rfl
  | append_singleton xs x ih =>
      rw [latest_concat, List.reverse_append, List.reverse_singleton, List.singleton_append,
        List.find?_cons, ih]
      by_cases hkey : key x = some k
      · rw [if_pos hkey, decide_eq_true hkey]
        rfl
      · rw [if_neg hkey, decide_eq_false hkey]

/-- An entry that no later one replaces. -/
theorem latest_eq_some_iff {xs : List α} {k : κ} {v : β} :
    latest key val xs k = some v ↔ ∃ before x after, xs = before ++ x :: after ∧
      key x = some k ∧ val x = v ∧ ∀ y ∈ after, key y ≠ some k := by
  rw [latest_eq_find?, Option.map_eq_some_iff]
  constructor
  · rintro ⟨x, hfound, hval⟩
    obtain ⟨hkey, later, earlier, hreverse, hlater⟩ := List.find?_eq_some_iff_append.1 hfound
    refine ⟨earlier.reverse, x, later.reverse, ?_, of_decide_eq_true hkey, hval, ?_⟩
    · rw [← List.reverse_reverse xs, hreverse]
      simp
    · intro y hy
      simpa using hlater y (List.mem_reverse.1 hy)
  · rintro ⟨before, x, after, rfl, hkey, hval, hafter⟩
    refine ⟨x, List.find?_eq_some_iff_append.2 ⟨decide_eq_true hkey, after.reverse,
      before.reverse, by simp, ?_⟩, hval⟩
    intro y hy
    simpa using hafter y (List.mem_reverse.1 hy)

theorem latest_eq_none_iff {xs : List α} {k : κ} :
    latest key val xs k = none ↔ ∀ x ∈ xs, key x ≠ some k := by
  rw [latest_eq_find?, Option.map_eq_none_iff, List.find?_eq_none]
  simp

/-- What it holds comes from an entry. -/
theorem exists_of_latest {xs : List α} {k : κ} {v : β} (h : latest key val xs k = some v) :
    ∃ x ∈ xs, key x = some k ∧ val x = v := by
  obtain ⟨before, x, after, rfl, hkey, hval, -⟩ := (latest_eq_some_iff key val).1 h
  exact ⟨x, List.mem_append_right before List.mem_cons_self, hkey, hval⟩

end Library
