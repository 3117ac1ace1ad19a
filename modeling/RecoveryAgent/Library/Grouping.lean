import Mathlib.Algebra.BigOperators.Group.Finset.Piecewise
import Mathlib.Algebra.BigOperators.Group.List.Basic
import Mathlib.Algebra.Ring.Nat
import Mathlib.Data.List.Nodup

/-!
# Sums over groups

A list is split into the groups of its items with one key. A sum over the list is the sum
over the groups of the sums in each group, when every key of the list is listed once;
groups that are empty may be left out.
-/

namespace Library

namespace Grouping

variable {α κ M : Type*} [DecidableEq κ] [AddCommMonoid M]

/-- The items with this key. -/
def group (key : α → κ) (xs : List α) (k : κ) : List α := xs.filter fun x => key x = k

variable {key : α → κ} {xs : List α}

theorem mem_group {k : κ} {x : α} : x ∈ group key xs k ↔ x ∈ xs ∧ key x = k := by
  simp [group]

/-- A value that one key has. -/
theorem sum_single {keys : List κ} (hnodup : keys.Nodup) {k : κ} (hk : k ∈ keys) (m : M) :
    (keys.map fun k' => if k = k' then m else 0).sum = m := by
  rw [← List.sum_toFinset _ hnodup, Finset.sum_ite_eq, if_pos (List.mem_toFinset.2 hk)]

/-- The groups add up to the whole. -/
theorem sum_groups (f : α → M) {keys : List κ} (hnodup : keys.Nodup)
    (hcovers : ∀ x ∈ xs, key x ∈ keys) :
    (keys.map fun k => ((group key xs k).map f).sum).sum = (xs.map f).sum := by
  induction xs with
  | nil => simp [group]
  | cons x xs ih =>
      have hrest := ih fun y hy => hcovers y (List.mem_cons_of_mem _ hy)
      have hhead : ∀ k, ((group key (x :: xs) k).map f).sum =
          (if key x = k then f x else 0) + ((group key xs k).map f).sum := by
        intro k
        by_cases hk : key x = k
        · simp [group, hk]
        · simp [group, hk]
      simp only [hhead]
      rw [List.sum_map_add, sum_single hnodup (hcovers x List.mem_cons_self), hrest,
        List.map_cons, List.sum_cons]

theorem sum_map_sub {β N : Type*} [AddCommGroup N] (f g : β → N) (l : List β) :
    (l.map fun b => f b - g b).sum = (l.map f).sum - (l.map g).sum := by
  rw [eq_sub_iff_add_eq, ← List.sum_map_add]
  simp only [sub_add_cancel]

/-- What is left out of a sum may be nothing. -/
theorem sum_filter_of_zero {β : Type*} {g : β → M} {p : β → Bool} {l : List β}
    (hzero : ∀ b ∈ l, p b = false → g b = 0) : ((l.filter p).map g).sum = (l.map g).sum := by
  induction l with
  | nil => rfl
  | cons b l ih =>
      have hrest := ih fun c hc => hzero c (List.mem_cons_of_mem _ hc)
      cases hb : p b with
      | true => rw [List.filter_cons_of_pos hb, List.map_cons, List.map_cons, List.sum_cons,
          List.sum_cons, hrest]
      | false =>
          have hnone := hzero b List.mem_cons_self hb
          rw [List.filter_cons_of_neg (by simp [hb]), List.map_cons, List.sum_cons, hnone, zero_add,
            hrest]

/-- The groups that are not empty add up to the whole. -/
theorem sum_present (f : α → M) {keys : List κ} (hnodup : keys.Nodup)
    (hcovers : ∀ x ∈ xs, key x ∈ keys) :
    ((keys.filter fun k => !(group key xs k).isEmpty).map
      fun k => ((group key xs k).map f).sum).sum = (xs.map f).sum := by
  rw [sum_filter_of_zero, sum_groups f hnodup hcovers]
  intro k _ hempty
  have hnil : group key xs k = [] := by simpa using hempty
  rw [hnil]
  rfl

theorem countP_eq_sum (p : α → Bool) (l : List α) :
    l.countP p = (l.map fun a => if p a then 1 else 0).sum := by
  induction l with
  | nil => rfl
  | cons a l ih => rw [List.countP_cons, List.map_cons, List.sum_cons, ih, Nat.add_comm]

/-!
## Lists of answers
-/

/-- When every item has an answer, so has the list. -/
theorem mapM_of_forall {β : Type*} {answer : α → Option β} {R : α → β → Prop} {l : List α}
    (h : ∀ a ∈ l, ∃ b, answer a = some b ∧ R a b) :
    ∃ bs, l.mapM answer = some bs ∧ List.Forall₂ R l bs := by
  induction l with
  | nil => exact ⟨[], rfl, List.Forall₂.nil⟩
  | cons a l ih =>
      obtain ⟨b, hb, hrel⟩ := h a List.mem_cons_self
      obtain ⟨bs, hbs, hrels⟩ := ih fun a' ha' => h a' (List.mem_cons_of_mem a ha')
      refine ⟨b :: bs, ?_, List.Forall₂.cons hrel hrels⟩
      simp [List.mapM_cons, hb, hbs]

/-- The answers of a list are answers of its items. -/
theorem forall₂_of_mapM {β : Type*} {answer : α → Option β} {l : List α} {bs : List β}
    (h : l.mapM answer = some bs) : List.Forall₂ (fun a b => answer a = some b) l bs := by
  induction l generalizing bs with
  | nil =>
      cases h
      exact List.Forall₂.nil
  | cons a l ih =>
      rw [List.mapM_cons] at h
      obtain ⟨b, hb, h⟩ := Option.bind_eq_some_iff.1 h
      obtain ⟨rest, hrest, h⟩ := Option.bind_eq_some_iff.1 h
      cases h
      exact List.Forall₂.cons hb (ih hrest)

/-- What holds of every answer. -/
theorem forall_mem_of_forall₂ {β : Type*} {R : α → β → Prop} {P : β → Prop}
    (hanswer : ∀ a b, R a b → P b) {l : List α} {bs : List β} (h : List.Forall₂ R l bs) :
    ∀ b ∈ bs, P b := by
  induction h with
  | nil => exact fun _ hb => absurd hb List.not_mem_nil
  | cons hrel _ ih =>
      intro b hb
      rcases List.mem_cons.1 hb with rfl | hb
      · exact hanswer _ _ hrel
      · exact ih b hb

/-- What related items have in common they have in sum. -/
theorem sum_of_forall₂ {β : Type*} {R : α → β → Prop} {f : α → M} {g : β → M}
    (hsame : ∀ a b, R a b → g b = f a) {l : List α} {bs : List β} (h : List.Forall₂ R l bs) :
    (bs.map g).sum = (l.map f).sum := by
  induction h with
  | nil => rfl
  | cons hrel _ ih => rw [List.map_cons, List.map_cons, List.sum_cons, List.sum_cons,
      hsame _ _ hrel, ih]

theorem map_of_forall₂ {β γ : Type*} {R : α → β → Prop} {f : α → γ} {g : β → γ}
    (hsame : ∀ a b, R a b → g b = f a) {l : List α} {bs : List β} (h : List.Forall₂ R l bs) :
    bs.map g = l.map f := by
  induction h with
  | nil => rfl
  | cons hrel _ ih => rw [List.map_cons, List.map_cons, hsame _ _ hrel, ih]

theorem exists_right_of_forall₂ {β : Type*} {R : α → β → Prop} {l : List α} {bs : List β}
    (h : List.Forall₂ R l bs) {a : α} (ha : a ∈ l) : ∃ b ∈ bs, R a b := by
  induction h with
  | nil => cases ha
  | cons hrel _ ih =>
      rcases List.mem_cons.1 ha with rfl | ha
      · exact ⟨_, List.mem_cons_self, hrel⟩
      · obtain ⟨b, hb, hab⟩ := ih ha
        exact ⟨b, List.mem_cons_of_mem _ hb, hab⟩

theorem exists_left_of_forall₂ {β : Type*} {R : α → β → Prop} {l : List α} {bs : List β}
    (h : List.Forall₂ R l bs) {b : β} (hb : b ∈ bs) : ∃ a ∈ l, R a b :=
  exists_right_of_forall₂ h.flip hb

/-- The items that are kept are those that have an answer. -/
theorem forall₂_filterMap {β : Type*} {p : α → Bool} {answer : α → Option β} {R : α → β → Prop}
    (hkept : ∀ a, p a = true → ∃ b, answer a = some b ∧ R a b)
    (hleft : ∀ a, p a = false → answer a = none) (l : List α) :
    List.Forall₂ R (l.filter p) (l.filterMap answer) := by
  induction l with
  | nil => exact List.Forall₂.nil
  | cons a l ih =>
      cases hp : p a with
      | true =>
          obtain ⟨b, hb, hrel⟩ := hkept a hp
          rw [List.filter_cons_of_pos hp, List.filterMap_cons_some hb]
          exact List.Forall₂.cons hrel ih
      | false =>
          rw [List.filter_cons_of_neg (by simp [hp]), List.filterMap_cons_none (hleft a hp)]
          exact ih

end Grouping

end Library
