import Mathlib.Data.Finset.Card
import RecoveryAgent.Library.Run

/-!
# Two ways to spend two quotas

Items are of two kinds, and there is a quota of `n` for the main ones and of `m` for the
side ones. A machine that runs out of the main quota admits nothing any more. In the
`joint` machine a side item is also charged to the main quota, and equal items are
admitted again; in the `separate` machine each kind has its own quota, and no item is
admitted twice. For both, the number of the admitted items is a function of counts.
-/

namespace Library

namespace Quota

variable {ι : Type*} (isMain : ι → Bool) (n m : ℕ)

/-- What is spent of the two quotas. -/
structure Used where
  main : ℕ := 0
  side : ℕ := 0

/-- Every admitted item is charged to the main quota. -/
def joint (u : Used) (x : ι) : Used × List ι :=
  if isMain x then
    if u.main < n then ({ u with main := u.main + 1 }, [x]) else (u, [])
  else if u.main < n ∧ u.side < m then (⟨u.main + 1, u.side + 1⟩, [x])
  else (u, [])

variable {isMain n m}

theorem joint_of_main {u : Used} {x : ι} (hx : isMain x = true) (hroom : u.main < n) :
    joint isMain n m u x = ({ u with main := u.main + 1 }, [x]) := by
  rw [joint, if_pos hx, if_pos hroom]

theorem joint_of_side {u : Used} {x : ι} (hx : isMain x = false)
    (hroom : u.main < n ∧ u.side < m) :
    joint isMain n m u x = (⟨u.main + 1, u.side + 1⟩, [x]) := by
  rw [joint, if_neg (by simp [hx]), if_pos hroom]

/-- Without room in the main quota, or for a side item in its own, nothing is admitted. -/
theorem joint_of_full {u : Used} {x : ι}
    (hfull : ¬(u.main < n ∧ (isMain x = false → u.side < m))) :
    joint isMain n m u x = (u, []) := by
  cases hx : isMain x with
  | true =>
      have hmain : ¬u.main < n := fun h => hfull ⟨h, by simp [hx]⟩
      rw [joint, if_pos hx, if_neg hmain]
  | false =>
      have hboth : ¬(u.main < n ∧ u.side < m) := fun h => hfull ⟨h.1, fun _ => h.2⟩
      rw [joint, if_neg (by simp [hx]), if_neg hboth]

/-- What the joint machine admits of the items. -/
theorem joint_length {u : Used} (hmain : u.main ≤ n) (hside : u.side ≤ m) (items : List ι) :
    (Run.emitted (joint isMain n m) u items).length =
      min (n - u.main) (items.countP isMain +
        min (m - u.side) (items.countP fun x => !isMain x)) := by
  induction items generalizing u with
  | nil => simp [Run.emitted]
  | cons x items ih =>
      rw [Run.emitted_cons, List.length_append, List.countP_cons, List.countP_cons]
      by_cases hroom : u.main < n ∧ (isMain x = false → u.side < m)
      · cases hx : isMain x with
        | true =>
            rw [joint_of_main hx hroom.1, ih (u := { u with main := u.main + 1 }) hroom.1 hside]
            simp
            omega
        | false =>
            have hboth := hroom.2 hx
            rw [joint_of_side hx ⟨hroom.1, hboth⟩,
              ih (u := ⟨u.main + 1, u.side + 1⟩) hroom.1 hboth]
            simp
            omega
      · rw [joint_of_full hroom, ih hmain hside]
        cases hx : isMain x with
        | true =>
            simp [hx] at hroom ⊢
            omega
        | false =>
            simp [hx] at hroom ⊢
            omega

/-!
## Separate quotas
-/

variable [DecidableEq ι] (isMain n m)

/-- Each kind has its own quota, and an item is admitted once. -/
def separate (s : Used × Finset ι) (x : ι) : (Used × Finset ι) × List ι :=
  if x ∉ s.2 ∧ s.1.main < n ∧ (isMain x = false → s.1.side < m) then
    ((if isMain x then { s.1 with main := s.1.main + 1 } else { s.1 with side := s.1.side + 1 },
      insert x s.2), [x])
  else (s, [])

/-- The distinct main items. -/
def mains (items : List ι) : Finset ι := (items.filter isMain).toFinset

/-- The side items that come before the `n`-th distinct main item, when the distinct main
items so far are `before`. -/
def openSides : Finset ι → List ι → List ι
  | _, [] => []
  | before, x :: items =>
      if isMain x then openSides (insert x before) items
      else if before.card < n then x :: openSides before items
      else openSides before items

/-- The machine in terms of what has come: `before` are the distinct main items so far,
and `sides` the distinct side items that came while there was room for a main one. -/
structure Tracks (s : Used × Finset ι) (before sides : Finset ι) : Prop where
  main_used : s.1.main = min n before.card
  side_used : s.1.side = min m sides.card
  main_kind : ∀ x ∈ before, isMain x = true
  side_kind : ∀ x ∈ sides, isMain x = false
  seen : ∀ x ∈ s.2, x ∈ before ∨ x ∈ sides
  main_seen : before.card < n → before ⊆ s.2
  side_seen : sides.card < m → sides ⊆ s.2

variable {isMain n m}

/-- One quota against the distinct items that have come for it. -/
structure Fills (quota used : ℕ) (seen items : Finset ι) : Prop where
  used : used = min quota items.card
  seen : items.card < quota → items ⊆ seen

/-- A new item that finds room takes one place. -/
theorem Fills.admit {quota used : ℕ} {seen items : Finset ι} (h : Fills quota used seen items)
    {x : ι} (hnew : x ∉ seen) (hroom : used < quota) :
    Fills quota (used + 1) (insert x seen) (insert x items) ∧
      1 = min quota (insert x items).card - min quota items.card := by
  have hused := h.used
  have hopen : items.card < quota := by omega
  have hfresh : x ∉ items := fun hmem => hnew (h.seen hopen hmem)
  have hcard := Finset.card_insert_of_notMem hfresh
  refine ⟨⟨by omega, fun _ => Finset.insert_subset_insert x (h.seen hopen)⟩, by omega⟩

/-- An item that is refused has come before, or the quota is spent. -/
theorem Fills.refuse {quota used : ℕ} {seen items : Finset ι} (h : Fills quota used seen items)
    {x : ι} (hown : x ∈ seen → x ∈ items) (hrefused : ¬(x ∉ seen ∧ used < quota)) :
    Fills quota used seen (insert x items) ∧
      0 = min quota (insert x items).card - min quota items.card := by
  have hused := h.used
  by_cases hroom : used < quota
  · have hseen : x ∈ seen := not_not.1 fun hnew => hrefused ⟨hnew, hroom⟩
    rw [Finset.insert_eq_self.2 (hown hseen), Nat.sub_self]
    exact ⟨h, rfl⟩
  · have hmore := Finset.card_le_card (Finset.subset_insert x items)
    exact ⟨⟨by omega, fun hopen => absurd hopen (by omega)⟩, by omega⟩

/-- A main item is admitted exactly when it is a new one and there is room. -/
theorem Tracks.step_main {s : Used × Finset ι} {before sides : Finset ι}
    (h : Tracks isMain n m s before sides) {x : ι} (hx : isMain x = true) :
    Tracks isMain n m (separate isMain n m s x).1 (insert x before) sides ∧
      (separate isMain n m s x).2.length =
        min n (insert x before).card - min n before.card := by
  have hfills : Fills n s.1.main s.2 before := ⟨h.main_used, h.main_seen⟩
  have hfar : x ∉ sides := fun hmem => absurd (h.side_kind x hmem) (by simp [hx])
  have hmains : ∀ y ∈ insert x before, isMain y = true := by
    intro y hy
    rcases Finset.mem_insert.1 hy with rfl | hy
    · exact hx
    · exact h.main_kind y hy
  by_cases hnew : x ∉ s.2 ∧ s.1.main < n
  · have hstep : separate isMain n m s x =
        (({ s.1 with main := s.1.main + 1 }, insert x s.2), [x]) := by
      rw [separate, if_pos ⟨hnew.1, hnew.2, by simp [hx]⟩, if_pos hx]
    obtain ⟨hnext, hone⟩ := hfills.admit hnew.1 hnew.2
    rw [hstep]
    refine ⟨⟨hnext.used, h.side_used, hmains, h.side_kind, ?_, hnext.seen, ?_⟩, hone⟩
    · intro y hy
      rcases Finset.mem_insert.1 hy with rfl | hy
      · exact Or.inl (Finset.mem_insert_self _ _)
      · exact (h.seen y hy).imp_left (Finset.mem_insert_of_mem ·)
    · exact fun hroom => (h.side_seen hroom).trans (Finset.subset_insert _ _)
  · have hstep : separate isMain n m s x = (s, []) := by
      rw [separate, if_neg fun hin => hnew ⟨hin.1, hin.2.1⟩]
    obtain ⟨hnext, hnone⟩ :=
      hfills.refuse (fun hseen => (h.seen x hseen).resolve_right hfar) hnew
    rw [hstep]
    refine ⟨⟨hnext.used, h.side_used, hmains, h.side_kind, ?_, hnext.seen, h.side_seen⟩, hnone⟩
    exact fun y hy => (h.seen y hy).imp_left (Finset.mem_insert_of_mem ·)

/-- A side item that comes in time is admitted exactly when it is a new one and there is
room. -/
theorem Tracks.step_side {s : Used × Finset ι} {before sides : Finset ι}
    (h : Tracks isMain n m s before sides) {x : ι} (hx : isMain x = false)
    (hopen : before.card < n) :
    Tracks isMain n m (separate isMain n m s x).1 before (insert x sides) ∧
      (separate isMain n m s x).2.length =
        min m (insert x sides).card - min m sides.card := by
  have hmain := h.main_used
  have hfills : Fills m s.1.side s.2 sides := ⟨h.side_used, h.side_seen⟩
  have hfar : x ∉ before := fun hmem => absurd (h.main_kind x hmem) (by simp [hx])
  have hsides : ∀ y ∈ insert x sides, isMain y = false := by
    intro y hy
    rcases Finset.mem_insert.1 hy with rfl | hy
    · exact hx
    · exact h.side_kind y hy
  by_cases hnew : x ∉ s.2 ∧ s.1.side < m
  · have hstep : separate isMain n m s x =
        (({ s.1 with side := s.1.side + 1 }, insert x s.2), [x]) := by
      rw [separate, if_pos ⟨hnew.1, by omega, fun _ => hnew.2⟩, if_neg (by simp [hx])]
    obtain ⟨hnext, hone⟩ := hfills.admit hnew.1 hnew.2
    rw [hstep]
    refine ⟨⟨h.main_used, hnext.used, h.main_kind, hsides, ?_, ?_, hnext.seen⟩, hone⟩
    · intro y hy
      rcases Finset.mem_insert.1 hy with rfl | hy
      · exact Or.inr (Finset.mem_insert_self _ _)
      · exact (h.seen y hy).imp_right (Finset.mem_insert_of_mem ·)
    · exact fun _ => (h.main_seen hopen).trans (Finset.subset_insert _ _)
  · have hstep : separate isMain n m s x = (s, []) := by
      rw [separate, if_neg fun hin => hnew ⟨hin.1, hin.2.2 hx⟩]
    obtain ⟨hnext, hnone⟩ :=
      hfills.refuse (fun hseen => (h.seen x hseen).resolve_left hfar) hnew
    rw [hstep]
    refine ⟨⟨h.main_used, hnext.used, h.main_kind, hsides, ?_, h.main_seen, hnext.seen⟩, hnone⟩
    exact fun y hy => (h.seen y hy).imp_right (Finset.mem_insert_of_mem ·)

/-- A side item that comes too late is refused. -/
theorem Tracks.step_late {s : Used × Finset ι} {before sides : Finset ι}
    (h : Tracks isMain n m s before sides) (x : ι) (hlate : ¬before.card < n) :
    separate isMain n m s x = (s, []) := by
  have hmain := h.main_used
  rw [separate, if_neg]
  omega

/-- What the separate machine admits of the items, on top of what it has admitted. -/
theorem Tracks.length {s : Used × Finset ι} {before sides : Finset ι}
    (h : Tracks isMain n m s before sides) (items : List ι) :
    (Run.emitted (separate isMain n m) s items).length + min n before.card + min m sides.card =
      min n (before ∪ mains isMain items).card +
        min m (sides ∪ (openSides isMain n before items).toFinset).card := by
  induction items generalizing s before sides with
  | nil => simp [Run.emitted, mains, openSides]
  | cons x items ih =>
      rw [Run.emitted_cons, List.length_append]
      cases hx : isMain x with
      | true =>
          obtain ⟨hnext, hone⟩ := h.step_main hx
          have hrest := ih hnext
          have hmains : before ∪ mains isMain (x :: items) =
              insert x before ∪ mains isMain items := by
            simp [mains, hx]
          have hmore := Finset.card_le_card (Finset.subset_insert x before)
          rw [openSides, if_pos hx, hmains, ← hrest, hone]
          omega
      | false =>
          have hmains : mains isMain (x :: items) = mains isMain items := by
            simp [mains, hx]
          rw [openSides, if_neg (by simp [hx]), hmains]
          by_cases hopen : before.card < n
          · obtain ⟨hnext, hone⟩ := h.step_side hx hopen
            have hrest := ih hnext
            have hsides : sides ∪ (x :: openSides isMain n before items).toFinset =
                insert x sides ∪ (openSides isMain n before items).toFinset := by
              simp
            have hmore := Finset.card_le_card (Finset.subset_insert x sides)
            rw [if_pos hopen, hsides, ← hrest, hone]
            omega
          · rw [h.step_late x hopen, if_neg hopen, ← ih h]
            simp

/-- What the separate machine admits from the start. -/
theorem separate_length (items : List ι) :
    (Run.emitted (separate isMain n m) ({}, ∅) items).length =
      min n (mains isMain items).card +
        min m (openSides isMain n ∅ items).toFinset.card := by
  have hstart : Tracks isMain n m (({}, ∅) : Used × Finset ι) ∅ ∅ := by
    constructor <;> simp
  have hlength := hstart.length items
  simpa using hlength

end Quota

end Library
