import Mathlib.Data.List.Forall2
import Mathlib.Data.List.Lemmas

/-!
# Marks in a text

A mark is a word of classes of letters, as a pattern that ignores the case of its letters
is. A text is cut at the first occurrence of a mark, and a block runs from an opening mark
to the first closing mark after it. What is said here is where a text is cut when other
text stands before or after it, and what removing its blocks leaves.
-/

namespace Library

variable {α : Type*}

/-- A word of classes of letters that is not empty. -/
structure Mark (α : Type*) where
  head : α → Bool
  tail : List (α → Bool)

namespace Mark

def word (m : Mark α) : List (α → Bool) := m.head :: m.tail

abbrev Spells (m : Mark α) (w : List α) : Prop := List.Forall₂ (fun p x => p x = true) m.word w

/-- No letter of the mark can begin it again. -/
def Borderless (m : Mark α) : Prop := ∀ x, m.head x = true → ∀ p ∈ m.tail, p x = false

/-- A letter that the mark has nowhere. -/
def Foreign (m : Mark α) (x : α) : Prop := ∀ p ∈ m.word, p x = false

end Mark

/-- What follows the word that a text begins with. -/
def afterWord? : List (α → Bool) → List α → Option (List α)
  | [], xs => some xs
  | _ :: _, [] => none
  | p :: ps, x :: xs => if p x then afterWord? ps xs else none

/-- What stands before the first occurrence of the mark and what stands after it. -/
def cut? (m : Mark α) : List α → Option (List α × List α)
  | [] => none
  | x :: xs =>
      match afterWord? m.word (x :: xs) with
      | some rest => some ([], rest)
      | none => (cut? m xs).map fun cut => (x :: cut.1, cut.2)

/-!
## Words at the beginning
-/

theorem afterWord?_eq_some_iff {ps : List (α → Bool)} {xs rest : List α} :
    afterWord? ps xs = some rest ↔
      ∃ w, xs = w ++ rest ∧ List.Forall₂ (fun p x => p x = true) ps w := by
  induction ps generalizing xs with
  | nil => simp [afterWord?]
  | cons p ps ih =>
      cases xs with
      | nil =>
          refine iff_of_false nofun ?_
          rintro ⟨w, hw, hspelled⟩
          obtain ⟨rfl, rfl⟩ := List.append_eq_nil_iff.1 hw.symm
          cases hspelled
      | cons x xs =>
          rw [afterWord?]
          by_cases hx : p x = true
          · rw [if_pos hx, ih]
            constructor
            · rintro ⟨w, rfl, hspelled⟩
              exact ⟨x :: w, rfl, .cons hx hspelled⟩
            · rintro ⟨w, hw, hspelled⟩
              cases hspelled with
              | cons _ hspelled =>
                  obtain ⟨-, rfl⟩ := List.cons.inj hw
                  exact ⟨_, rfl, hspelled⟩
          · rw [if_neg hx]
            refine iff_of_false nofun ?_
            rintro ⟨w, hw, hspelled⟩
            cases hspelled with
            | cons hy _ =>
                obtain ⟨rfl, -⟩ := List.cons.inj hw
                exact hx hy

/-- A word is spelled without the letters it has nowhere. -/
theorem notMem_of_spelled {ps : List (α → Bool)} {w : List α}
    (h : List.Forall₂ (fun p x => p x = true) ps w) {x : α} (hx : ∀ p ∈ ps, p x = false) :
    x ∉ w := by
  induction h with
  | nil => exact List.not_mem_nil
  | @cons p y ps w hy _ ih =>
      rw [List.mem_cons, not_or]
      refine ⟨?_, ih fun q hq => hx q (List.mem_cons_of_mem p hq)⟩
      rintro rfl
      rw [hx p List.mem_cons_self] at hy
      cases hy

/-- A word that is not there yet does not reach beyond a letter it does not have. -/
theorem afterWord?_append_none {ps : List (α → Bool)} {x : α} (hx : ∀ p ∈ ps, p x = false)
    {xs : List α} (h : afterWord? ps xs = none) (ys : List α) :
    afterWord? ps (xs ++ x :: ys) = none := by
  induction ps generalizing xs with
  | nil => cases h
  | cons p ps ih =>
      cases xs with
      | nil =>
          rw [List.nil_append, afterWord?, if_neg]
          rw [hx p List.mem_cons_self]
          exact Bool.false_ne_true
      | cons y xs =>
          rw [afterWord?] at h
          rw [List.cons_append, afterWord?]
          by_cases hy : p y = true
          · rw [if_pos hy] at h ⊢
            exact ih (fun q hq => hx q (List.mem_cons_of_mem p hq)) h
          · rw [if_neg hy]

theorem afterWord?_append_some {ps : List (α → Bool)} {xs rest : List α}
    (h : afterWord? ps xs = some rest) (ys : List α) :
    afterWord? ps (xs ++ ys) = some (rest ++ ys) := by
  obtain ⟨w, rfl, hspelled⟩ := afterWord?_eq_some_iff.1 h
  exact afterWord?_eq_some_iff.2 ⟨w, List.append_assoc w rest ys, hspelled⟩

/-!
## Cuts
-/

section

variable {m : Mark α}

theorem Mark.Spells.cut? {w : List α} (h : m.Spells w) (rest : List α) :
    cut? m (w ++ rest) = some ([], rest) := by
  have hword : afterWord? m.word (w ++ rest) = some rest :=
    afterWord?_eq_some_iff.2 ⟨w, rfl, h⟩
  cases h with
  | cons _ _ => rw [List.cons_append, Library.cut?, ← List.cons_append, hword]

/-- A cut takes one spelling of the mark out. -/
theorem cut?_eq_some {xs before rest : List α} (h : cut? m xs = some (before, rest)) :
    ∃ w, m.Spells w ∧ xs = before ++ (w ++ rest) := by
  induction xs generalizing before with
  | nil => cases h
  | cons x xs ih =>
      rw [cut?] at h
      cases hword : afterWord? m.word (x :: xs) with
      | some rest' =>
          rw [hword] at h
          cases h
          obtain ⟨w, hw, hspelled⟩ := afterWord?_eq_some_iff.1 hword
          exact ⟨w, hspelled, hw⟩
      | none =>
          simp only [hword, Option.map_eq_some_iff] at h
          obtain ⟨⟨before', rest'⟩, hcut, heq⟩ := h
          cases heq
          obtain ⟨w, hspelled, rfl⟩ := ih hcut
          exact ⟨w, hspelled, rfl⟩

/-- Text in which the mark cannot begin is passed over. -/
theorem cut?_append_left {xs : List α} (h : ∀ x ∈ xs, m.head x = false) (ys : List α) :
    cut? m (xs ++ ys) = (cut? m ys).map fun cut => (xs ++ cut.1, cut.2) := by
  induction xs with
  | nil => simp
  | cons x xs ih =>
      have hword : afterWord? m.word (x :: (xs ++ ys)) = none := by
        rw [Mark.word, afterWord?, if_neg]
        rw [h x List.mem_cons_self]
        exact Bool.false_ne_true
      rw [List.cons_append, cut?, hword, ih fun y hy => h y (List.mem_cons_of_mem x hy)]
      simp only [Option.map_map]
      rfl

theorem cut?_eq_none_of_head {xs : List α} (h : ∀ x ∈ xs, m.head x = false) :
    cut? m xs = none := by
  have hnone := cut?_append_left h []
  rwa [List.append_nil] at hnone

/-- A letter that the mark does not have separates the text before it from what follows. -/
theorem cut?_append_cons {x : α} (hx : m.Foreign x) (xs ys : List α) :
    cut? m (xs ++ x :: ys) =
      match cut? m xs with
      | some cut => some (cut.1, cut.2 ++ x :: ys)
      | none => (cut? m ys).map fun cut => (xs ++ x :: cut.1, cut.2) := by
  induction xs with
  | nil =>
      have hhead : ∀ y ∈ [x], m.head y = false := by
        intro y hy
        rw [List.mem_singleton.1 hy]
        exact hx m.head List.mem_cons_self
      simpa [cut?] using cut?_append_left hhead ys
  | cons y xs ih =>
      rw [List.cons_append, cut?, cut?, ← List.cons_append]
      cases hword : afterWord? m.word (y :: xs) with
      | some rest => simp only [afterWord?_append_some hword]
      | none =>
          simp only [afterWord?_append_none hx hword, ih]
          cases hcut : cut? m xs with
          | some cut => rfl
          | none => simp [Option.map_map, Function.comp_def]

/-- Text that has no letter of the mark does not matter after another. -/
theorem cut?_append_right {ys : List α} (h : ∀ y ∈ ys, m.Foreign y) (xs : List α) :
    cut? m (xs ++ ys) = (cut? m xs).map fun cut => (cut.1, cut.2 ++ ys) := by
  cases ys with
  | nil => simp
  | cons y ys =>
      have hnone : cut? m ys = none := cut?_eq_none_of_head fun z hz =>
        h z (List.mem_cons_of_mem y hz) m.head List.mem_cons_self
      rw [cut?_append_cons (h y List.mem_cons_self), hnone]
      cases cut? m xs with
      | some cut => rfl
      | none => rfl

/-- After text without the mark, a mark that cannot begin within itself is found where it
stands. -/
theorem cut?_append_spelled (hm : m.Borderless) {xs w : List α} (hw : m.Spells w)
    (h : cut? m xs = none) (rest : List α) : cut? m (xs ++ (w ++ rest)) = some (xs, rest) := by
  induction xs with
  | nil => exact hw.cut? rest
  | cons x xs ih =>
      rw [cut?] at h
      cases hword : afterWord? m.word (x :: xs) with
      | some rest' =>
          rw [hword] at h
          cases h
      | none =>
          rw [hword] at h
          have hlater : afterWord? m.word (x :: (xs ++ (w ++ rest))) = none := by
            rw [Mark.word, afterWord?] at hword ⊢
            by_cases hx : m.head x = true
            · rw [if_pos hx] at hword ⊢
              cases hw with
              | cons hy _ => exact afterWord?_append_none (hm _ hy) hword _
            · rw [if_neg hx]
          rw [List.cons_append, cut?, hlater, ih (by simpa using h)]
          rfl

end

/-!
## Blocks
-/

section

variable (m n : Mark α)

/-- What stands before the first block and what stands after it. -/
def block? (xs : List α) : Option (List α × List α) :=
  (cut? m xs).bind fun opened => (cut? n opened.2).map fun closed => (opened.1, closed.2)

variable {m n} in
theorem block?_eq_some {xs before rest : List α} (h : block? m n xs = some (before, rest)) :
    ∃ u inside w, m.Spells u ∧ n.Spells w ∧
      xs = before ++ (u ++ (inside ++ (w ++ rest))) := by
  obtain ⟨⟨before', rest'⟩, hopened, hclosed⟩ := Option.bind_eq_some_iff.1 h
  obtain ⟨⟨inside, rest''⟩, hcut, heq⟩ := Option.map_eq_some_iff.1 hclosed
  cases heq
  obtain ⟨u, hu, rfl⟩ := cut?_eq_some hopened
  obtain ⟨w, hw, hrest⟩ := cut?_eq_some hcut
  exact ⟨u, inside, w, hu, hw, congrArg (fun r => _ ++ (u ++ r)) hrest⟩

variable {m n} in
theorem block?_length {xs before rest : List α} (h : block? m n xs = some (before, rest)) :
    rest.length < xs.length := by
  obtain ⟨u, inside, w, hu, -, rfl⟩ := block?_eq_some h
  cases hu
  simp only [List.length_append, List.length_cons]
  omega

variable {m n} in
/-- A block is found again when text without the opening mark stands before it and text
without a letter of either mark after it. -/
theorem block?_append {before after : List α} (hbefore : ∀ x ∈ before, m.head x = false)
    (hopen : ∀ x ∈ after, m.Foreign x) (hclose : ∀ x ∈ after, n.Foreign x) (xs : List α) :
    block? m n (before ++ (xs ++ after)) =
      (block? m n xs).map fun block => (before ++ block.1, block.2 ++ after) := by
  rw [block?, cut?_append_left hbefore, cut?_append_right hopen, block?]
  cases cut? m xs with
  | none => rfl
  | some opened =>
      simp only [Option.map_some, Option.bind_some, cut?_append_right hclose, Option.map_map]
      rfl

/-- The text without its blocks. -/
def removeBlocks (xs : List α) : List α :=
  match _h : block? m n xs with
  | none => xs
  | some (before, rest) => before ++ removeBlocks rest
termination_by xs.length
decreasing_by exact block?_length _h

variable {m n}

theorem removeBlocks_of_none {xs : List α} (h : block? m n xs = none) :
    removeBlocks m n xs = xs := by
  rw [removeBlocks]
  split
  · rfl
  · next hsome => cases h.symm.trans hsome

theorem removeBlocks_of_some {xs before rest : List α} (h : block? m n xs = some (before, rest)) :
    removeBlocks m n xs = before ++ removeBlocks m n rest := by
  rw [removeBlocks]
  split
  · next hnone => cases h.symm.trans hnone
  · next hsome =>
      cases h.symm.trans hsome
      rfl

/-- Text in which no block can begin stays where it is. -/
theorem removeBlocks_append_left {before : List α} (h : ∀ x ∈ before, m.head x = false)
    (xs : List α) : removeBlocks m n (before ++ xs) = before ++ removeBlocks m n xs := by
  have hblock := block?_append (n := n) h (List.forall_mem_nil m.Foreign)
    (List.forall_mem_nil n.Foreign) xs
  rw [List.append_nil] at hblock
  cases hxs : block? m n xs with
  | none =>
      rw [hxs] at hblock
      rw [removeBlocks_of_none hblock, removeBlocks_of_none hxs]
  | some block =>
      rw [hxs] at hblock
      rw [removeBlocks_of_some hblock, removeBlocks_of_some hxs, List.append_nil, List.append_assoc]

theorem removeBlocks_sublist (xs : List α) : (removeBlocks m n xs).Sublist xs := by
  induction xs using removeBlocks.induct m n with
  | case1 xs hnone => rw [removeBlocks_of_none hnone]
  | case2 xs before rest hsome ih =>
      obtain ⟨u, inside, w, -, -, hsplit⟩ := block?_eq_some hsome
      rw [removeBlocks_of_some hsome, hsplit, ← List.append_assoc u, ← List.append_assoc,
        ← List.append_assoc]
      refine List.Sublist.append ?_ ih
      rw [List.append_assoc]
      exact List.sublist_append_left before _

/-- Removing a block takes away the letter that opens it. -/
theorem count_removeBlocks_lt [DecidableEq α] {z : α} (hz : ∀ x, m.head x = true → x = z)
    {xs before rest : List α} (h : block? m n xs = some (before, rest)) :
    (removeBlocks m n xs).count z < xs.count z := by
  obtain ⟨u, inside, w, hu, -, hsplit⟩ := block?_eq_some h
  have hrest := (removeBlocks_sublist (m := m) (n := n) rest).count_le z
  rw [removeBlocks_of_some h, hsplit]
  cases hu with
  | cons hhead _ =>
      rw [hz _ hhead]
      simp only [List.count_append, List.count_cons_self, List.cons_append]
      omega

/-- What holds of the parts of a text around a mark, and of texts put together, holds of a
text without its blocks. -/
theorem removeBlocks_keeps {good : List α → Prop}
    (happend : ∀ xs ys, good xs → good ys → good (xs ++ ys))
    (hopen : ∀ u, m.Spells u → ∀ xs ys, good (xs ++ (u ++ ys)) → good xs ∧ good ys)
    (hclose : ∀ w, n.Spells w → ∀ xs ys, good (xs ++ (w ++ ys)) → good ys)
    {xs : List α} (h : good xs) : good (removeBlocks m n xs) := by
  induction xs using removeBlocks.induct m n with
  | case1 xs hnone => rwa [removeBlocks_of_none hnone]
  | case2 xs before rest hsome ih =>
      obtain ⟨u, inside, w, hu, hw, hsplit⟩ := block?_eq_some hsome
      rw [hsplit] at h
      obtain ⟨hbefore, hinside⟩ := hopen u hu _ _ h
      rw [removeBlocks_of_some hsome]
      exact happend _ _ hbefore (ih (hclose w hw _ _ hinside))

end

end Library
