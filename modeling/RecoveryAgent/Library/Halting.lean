import Mathlib.Data.List.Sort

/-!
# Loops that halt early

A loop plays a list of items until one of them halts it. An item is inert when it never
halts the loop and leaves unchanged what the other items depend on: such items may be
added to the list or dropped from it. They may be sorted in as well, since sorting keeps
the order of the others.
-/

namespace Library

namespace Halting

section

variable {S A : Type*} (step : S → A → S × Bool)

/-- The state in which the loop ends, and whether an item halted it. -/
def run : S → List A → S × Bool
  | s, [] => (s, false)
  | s, a :: rest =>
      let (s, halted) := step s a
      if halted then (s, true) else run s rest

/-- The items that were played, each with whether it halted the loop. -/
def trace : S → List A → List (A × Bool)
  | _, [] => []
  | s, a :: rest =>
      let (s, halted) := step s a
      if halted then [(a, true)] else (a, false) :: trace s rest

/-- What every item keeps, the loop keeps. -/
theorem run_invariant {P : S → Prop} (hstep : ∀ s a, P s → P (step s a).1) {s : S} (hs : P s)
    (items : List A) : P (run step s items).1 := by
  induction items generalizing s with
  | nil => exact hs
  | cons a rest ih =>
      unfold run
      simp only
      split
      · exact hstep s a hs
      · exact ih (hstep s a hs)

/-- A loop that was not halted has played all of its items. -/
theorem trace_of_not_halted {s : S} {items : List A} (h : (run step s items).2 = false) :
    trace step s items = items.map fun a => (a, false) := by
  induction items generalizing s with
  | nil => rfl
  | cons a rest ih =>
      unfold run at h
      unfold trace
      simp only at h ⊢
      by_cases hhalt : (step s a).2 = true
      · rw [if_pos hhalt] at h
        cases h
      · rw [if_neg hhalt] at h ⊢
        rw [ih h, List.map_cons]

/-- A loop was halted by one of its items, after the ones before it. -/
theorem halted_iff {s : S} {items : List A} :
    (run step s items).2 = true ↔ ∃ before a after, items = before ++ a :: after ∧
      (run step s before).2 = false ∧ (step (run step s before).1 a).2 = true := by
  constructor
  · intro h
    induction items generalizing s with
    | nil => cases h
    | cons a rest ih =>
        unfold run at h
        simp only at h
        by_cases hhalt : (step s a).2 = true
        · exact ⟨[], a, rest, rfl, rfl, hhalt⟩
        · rw [if_neg hhalt] at h
          obtain ⟨before, b, after, hitems, hbefore, hb⟩ := ih h
          refine ⟨a :: before, b, after, by rw [hitems, List.cons_append], ?_, ?_⟩
          · unfold run
            simp only
            rw [if_neg hhalt]
            exact hbefore
          · unfold run
            simp only
            rw [if_neg hhalt]
            exact hb
  · rintro ⟨before, a, after, rfl, hbefore, ha⟩
    induction before generalizing s with
    | nil =>
        change (step s a).2 = true at ha
        rw [List.nil_append, run]
        simp only
        rw [if_pos ha]
    | cons b before ih =>
        unfold run at hbefore ha
        simp only at hbefore ha
        rw [List.cons_append, run]
        simp only
        by_cases hhalt : (step s b).2 = true
        · rw [if_pos hhalt] at hbefore
          cases hbefore
        · rw [if_neg hhalt] at hbefore ha ⊢
          exact ih hbefore ha

/-- What was played when an item halted the loop. -/
theorem trace_of_halted {s : S} {before : List A} {a : A} (after : List A)
    (hbefore : (run step s before).2 = false)
    (ha : (step (run step s before).1 a).2 = true) :
    trace step s (before ++ a :: after) = (before.map fun b => (b, false)) ++ [(a, true)] := by
  induction before generalizing s with
  | nil =>
      change (step s a).2 = true at ha
      rw [List.nil_append, trace]
      simp only
      rw [if_pos ha]
      rfl
  | cons b before ih =>
      unfold run at hbefore ha
      simp only at hbefore ha
      rw [List.cons_append, trace]
      simp only
      by_cases hhalt : (step s b).2 = true
      · rw [if_pos hhalt] at hbefore
        cases hbefore
      · rw [if_neg hhalt] at hbefore ha ⊢
        rw [ih hbefore ha, List.map_cons, List.cons_append]

/-- Two loops whose states agree in what the items depend on halt alike, whatever inert
items one of them plays besides. -/
theorem run_filter {V : Type*} (view : S → V) (inert : A → Bool)
    (hcongr : ∀ s t a, view s = view t →
      (step s a).2 = (step t a).2 ∧ view (step s a).1 = view (step t a).1)
    (hinert : ∀ s a, inert a = true → (step s a).2 = false ∧ view (step s a).1 = view s)
    {s t : S} (hview : view s = view t) (items : List A) :
    (run step s items).2 = (run step t (items.filter fun a => !inert a)).2 ∧
      view (run step s items).1 = view (run step t (items.filter fun a => !inert a)).1 := by
  induction items generalizing s t with
  | nil => exact ⟨rfl, hview⟩
  | cons a rest ih =>
      cases ha : inert a with
      | true =>
          obtain ⟨hhalt, hsame⟩ := hinert s a ha
          rw [List.filter_cons_of_neg (by simp [ha]), run]
          simp only
          rw [if_neg (by simp [hhalt])]
          exact ih (hsame.trans hview)
      | false =>
          obtain ⟨hhalt, hsame⟩ := hcongr s t a hview
          rw [List.filter_cons_of_pos (by simp [ha]), run, run]
          simp only
          rw [← hhalt]
          split
          · exact ⟨rfl, hsame⟩
          · exact ih hsame

end

/-!
## Sorted loops
-/

section

variable {A : Type*} (r : A → A → Prop) [DecidableRel r] [IsTrans A r]

/-- An item that is filtered out does not disturb where the others are inserted. -/
theorem filter_orderedInsert (p : A → Bool) (a : A) {sorted : List A}
    (hsorted : sorted.Pairwise r) :
    (sorted.orderedInsert r a).filter p =
      if p a then (sorted.filter p).orderedInsert r a else sorted.filter p := by
  induction sorted with
  | nil =>
      rw [List.orderedInsert_nil, List.filter_cons]
      rfl
  | cons b rest ih =>
      obtain ⟨hb, hrest⟩ := List.pairwise_cons.1 hsorted
      rw [List.orderedInsert_cons]
      by_cases hab : r a b
      · -- the item comes first, before all that is kept
        rw [if_pos hab, List.filter_cons]
        have hfirst : ∀ c ∈ (b :: rest).filter p, r a c := by
          intro c hc
          rcases List.mem_cons.1 (List.mem_of_mem_filter hc) with rfl | hc
          · exact hab
          · exact IsTrans.trans a b c hab (hb c hc)
        split
        · cases hkept : (b :: rest).filter p with
          | nil => rw [List.orderedInsert_nil]
          | cons c kept =>
              have hac : r a c := hfirst c (by rw [hkept]; exact List.mem_cons_self)
              rw [List.orderedInsert_cons, if_pos hac]
        · rfl
      · rw [if_neg hab, List.filter_cons, List.filter_cons, ih hrest]
        split
        · split
          · rw [List.orderedInsert_cons, if_neg hab]
          · rfl
        · rfl

/-- Sorting keeps the order of what is kept. -/
theorem filter_insertionSort [Std.Total r] (p : A → Bool) (items : List A) :
    (items.insertionSort r).filter p = (items.filter p).insertionSort r := by
  induction items with
  | nil => rfl
  | cons a rest ih =>
      rw [List.insertionSort_cons, filter_orderedInsert r p a (List.pairwise_insertionSort r rest),
        ih, List.filter_cons]
      split
      · rw [List.insertionSort_cons]
      · rfl

end

end Halting

end Library
