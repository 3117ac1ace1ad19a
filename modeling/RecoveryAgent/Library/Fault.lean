import Mathlib.Data.Option.Basic

/-!
# Where a sequence of fallible steps fails

The errors of a computation are sorted into kinds. A sequence of steps fails as the
first of its steps that fails, so its fault is the first fault of a list that names
one possible fault for each step.
-/

namespace Library

universe u

variable {ε κ : Type*} {α β : Type u}

/-- The kind of the error that a computation ends with. -/
def fault (kind : ε → κ) : Except ε α → Option κ
  | .ok _ => none
  | .error e => some (kind e)

def firstFault (fs : List (Option κ)) : Option κ := fs.findSome? id

/-- A fault that is there under a condition. -/
def faultIf (p : Prop) [Decidable p] (k : κ) : Option κ := if p then some k else none

@[simp] theorem firstFault_nil : firstFault ([] : List (Option κ)) = none := rfl

theorem firstFault_cons (f : Option κ) (fs : List (Option κ)) :
    firstFault (f :: fs) = f.or (firstFault fs) := by
  cases f <;> rfl

theorem firstFault_append (fs gs : List (Option κ)) :
    firstFault (fs ++ gs) = (firstFault fs).or (firstFault gs) := by
  induction fs with
  | nil => rfl
  | cons f fs ih => rw [List.cons_append, firstFault_cons, firstFault_cons, ih, Option.or_assoc]

section

variable {kind : ε → κ}

@[simp] theorem fault_ok (a : α) : fault kind (.ok a : Except ε α) = none := rfl

@[simp] theorem fault_pure (a : α) : fault kind (pure a : Except ε α) = none := rfl

@[simp] theorem fault_error (e : ε) : fault kind (.error e : Except ε α) = some (kind e) := rfl

theorem fault_eq_none_iff {x : Except ε α} : fault kind x = none ↔ ∃ a, x = .ok a := by
  cases x with
  | ok a => simp
  | error e => simp

theorem fault_eq_some_iff {x : Except ε α} {k : κ} :
    fault kind x = some k ↔ ∃ e, x = .error e ∧ kind e = k := by
  cases x with
  | ok a => simp
  | error e => simp

/-- A step and what comes after it. What comes after may use the value of the step,
as long as its fault is known from that value. -/
theorem fault_bind {x : Except ε α} {f : α → Except ε β} {rest : Option κ}
    (h : ∀ a, x = .ok a → fault kind (f a) = rest) :
    fault kind (x >>= f) = (fault kind x).or rest := by
  cases x with
  | ok a => exact h a rfl
  | error e => rfl

/-- The same, for what is left of a list of possible faults. -/
theorem fault_bind_first {x : Except ε α} {f : α → Except ε β} {k : Option κ}
    {rest : List (Option κ)} (hx : fault kind x = k)
    (h : ∀ a, x = .ok a → fault kind (f a) = firstFault rest) :
    fault kind (x >>= f) = firstFault (k :: rest) := by
  rw [fault_bind h, hx, firstFault_cons]

/-- Two steps, each of which fails in one way only. -/
theorem fault_bind_faultIf {x : Except ε α} {f : α → Except ε β} {b c : Bool} {k : κ}
    (hx : fault kind x = faultIf (!b) k) (hf : ∀ a, fault kind (f a) = faultIf (!c) k) :
    fault kind (x >>= f) = faultIf (!(b && c)) k := by
  rw [fault_bind fun a _ => hf a, hx]
  cases b with
  | true => rfl
  | false => rfl

/-- A step that is known to go well. -/
theorem fault_bind_of_ok {x : Except ε α} {f : α → Except ε β} {a : α} (hx : x = .ok a) :
    fault kind (x >>= f) = fault kind (f a) := by
  rw [hx]
  rfl

theorem bind_eq_ok {x : Except ε α} {f : α → Except ε β} {b : β} (h : x >>= f = .ok b) :
    ∃ a, x = .ok a ∧ f a = .ok b := by
  cases x with
  | ok a => exact ⟨a, rfl, h⟩
  | error e => cases h

theorem bind_eq_error {x : Except ε α} {f : α → Except ε β} {e : ε} (h : x >>= f = .error e) :
    x = .error e ∨ ∃ a, x = .ok a ∧ f a = .error e := by
  cases x with
  | ok a => exact Or.inr ⟨a, rfl, h⟩
  | error e' =>
      cases h
      exact Or.inl rfl

theorem mapError_eq_ok_iff {δ : Type*} {x : Except ε α} {g : ε → δ} {a : α} :
    x.mapError g = .ok a ↔ x = .ok a := by
  cases x <;> simp [Except.mapError]

/-- Errors that are turned into others. -/
theorem fault_mapError {δ : Type*} {kind : δ → κ} (g : ε → δ) (x : Except ε α) :
    fault kind (x.mapError g) = fault (fun e => kind (g e)) x := by
  cases x <;> rfl

/-!
A step for every item of a list.
-/

theorem mapM_eq_ok_cons {f : α → Except ε β} {a : α} {as : List α} {bs : List β} :
    (a :: as).mapM f = .ok bs ↔ ∃ b rest, f a = .ok b ∧ as.mapM f = .ok rest ∧ bs = b :: rest := by
  rw [List.mapM_cons]
  constructor
  · intro h
    obtain ⟨b, hb, h⟩ := bind_eq_ok h
    obtain ⟨rest, hrest, h⟩ := bind_eq_ok h
    exact ⟨b, rest, hb, hrest, (Except.ok.inj h).symm⟩
  · rintro ⟨b, rest, hb, hrest, rfl⟩
    rw [hb, hrest]
    rfl

/-- Two parts of a list give their results one after the other. -/
theorem mapM_eq_ok_append {f : α → Except ε β} {as as' : List α} {bs : List β} :
    (as ++ as').mapM f = .ok bs ↔
      ∃ cs cs', as.mapM f = .ok cs ∧ as'.mapM f = .ok cs' ∧ bs = cs ++ cs' := by
  rw [List.mapM_append]
  constructor
  · intro h
    obtain ⟨cs, hcs, h⟩ := bind_eq_ok h
    obtain ⟨cs', hcs', h⟩ := bind_eq_ok h
    exact ⟨cs, cs', hcs, hcs', (Except.ok.inj h).symm⟩
  · rintro ⟨cs, cs', hcs, hcs', rfl⟩
    rw [hcs, hcs']
    rfl

theorem length_of_mapM {f : α → Except ε β} {as : List α} {bs : List β}
    (h : as.mapM f = .ok bs) : bs.length = as.length := by
  induction as generalizing bs with
  | nil =>
      cases h
      rfl
  | cons a as ih =>
      obtain ⟨b, rest, -, hrest, rfl⟩ := mapM_eq_ok_cons.1 h
      rw [List.length_cons, List.length_cons, ih hrest]

/-- What the results show of their items. -/
theorem map_of_mapM {γ : Type*} {f : α → Except ε β} {g : β → γ} {k : α → γ} {as : List α}
    {bs : List β} (h : as.mapM f = .ok bs)
    (hshow : ∀ a ∈ as, ∀ b, f a = .ok b → g b = k a) : bs.map g = as.map k := by
  induction as generalizing bs with
  | nil =>
      cases h
      rfl
  | cons a as ih =>
      obtain ⟨b, rest, hb, hrest, rfl⟩ := mapM_eq_ok_cons.1 h
      rw [List.map_cons, List.map_cons, hshow a List.mem_cons_self b hb,
        ih hrest fun c hc => hshow c (List.mem_cons_of_mem a hc)]

/-- Another step gives the same results exactly when it does so for every item. -/
theorem mapM_eq_ok_congr {f g : α → Except ε β} {as : List α} {bs : List β}
    (h : as.mapM f = .ok bs) :
    as.mapM g = .ok bs ↔ ∀ a ∈ as, ∀ b, f a = .ok b → g a = .ok b := by
  induction as generalizing bs with
  | nil => exact iff_of_true h nofun
  | cons a as ih =>
      obtain ⟨b, rest, hb, hrest, rfl⟩ := mapM_eq_ok_cons.1 h
      rw [mapM_eq_ok_cons, List.forall_mem_cons, ← ih hrest]
      constructor
      · rintro ⟨b', rest', hb', hrest', heq⟩
        cases heq
        exact ⟨fun c hc => (Except.ok.inj (hb.symm.trans hc)) ▸ hb', hrest'⟩
      · rintro ⟨hsame, hrest'⟩
        exact ⟨b, rest, hsame b hb, hrest', rfl⟩

/-- A list has results exactly when every item has one. -/
theorem exists_mapM_eq_ok_iff {f : α → Except ε β} {as : List α} :
    (∃ bs, as.mapM f = .ok bs) ↔ ∀ a ∈ as, ∃ b, f a = .ok b := by
  induction as with
  | nil => exact iff_of_true ⟨[], rfl⟩ nofun
  | cons a as ih =>
      rw [List.forall_mem_cons, ← ih]
      constructor
      · rintro ⟨bs, h⟩
        obtain ⟨b, rest, hb, hrest, -⟩ := mapM_eq_ok_cons.1 h
        exact ⟨⟨b, hb⟩, rest, hrest⟩
      · rintro ⟨⟨b, hb⟩, rest, hrest⟩
        exact ⟨b :: rest, mapM_eq_ok_cons.2 ⟨b, rest, hb, hrest, rfl⟩⟩

/-- A fold whose steps raise at some of the items, and keep an invariant at the others. -/
theorem foldlM_eq_ite {σ : Type u} (inv : σ → Prop) {p : α → Bool} {e : ε}
    {f : σ → α → Except ε σ} {g : σ → α → σ}
    (hstep : ∀ s a, inv s → f s a = if p a then .error e else .ok (g s a))
    (hkept : ∀ s a, inv s → p a = false → inv (g s a)) (as : List α) {s : σ} (hs : inv s) :
    as.foldlM f s = if as.any p then .error e else .ok (as.foldl g s) := by
  induction as generalizing s with
  | nil => rfl
  | cons a as ih =>
      rw [List.foldlM_cons, hstep s a hs, List.any_cons, List.foldl_cons]
      cases ha : p a with
      | true => rfl
      | false => exact ih (hkept s a hs ha)

theorem fault_map {x : Except ε α} (g : α → β) : fault kind (g <$> x) = fault kind x := by
  cases x <;> rfl

end

section

variable {p : Prop} [Decidable p] {k : κ}

@[simp] theorem faultIf_eq_none_iff : faultIf p k = none ↔ ¬ p := by
  simp [faultIf]

@[simp] theorem faultIf_eq_some_iff {l : κ} : faultIf p k = some l ↔ p ∧ k = l := by
  simp [faultIf]

end

end Library
