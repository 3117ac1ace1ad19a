import RecoveryAgent.Python.Digits
import RecoveryAgent.Python.Errors

/-!
# Texts without an encoding

A Python text may hold lone surrogates: `json.loads` makes one of an escape. UTF-8 has no
bytes for them, so a text with one cannot be bound to a statement of the database, and
cannot be hashed.
-/

namespace RecoveryAgent.Python

open Library

/-- Which characters of a text stand for lone surrogates. No Lean character is one; what is
proved holds for every choice of stand-ins. -/
structure Utf8 where
  surrogate : Char → Bool
  surrogate_ge : ∀ c, surrogate c = true → 0xD800 ≤ c.toNat

namespace Utf8

/-- Every character stands for itself. -/
def scalar : Utf8 where
  surrogate := fun _ => false
  surrogate_ge := by
    intro c h
    cases h

def encodes (utf8 : Utf8) (s : String) : Bool := s.toList.all fun c => !utf8.surrogate c

/-- All characters of the text come before the surrogates, and stand for themselves. -/
def isLow (s : String) : Bool := s.toList.all fun c => c.toNat < 0xD800

/-- `None` and a text that has an encoding. -/
def encodesOpt (utf8 : Utf8) (s : Option String) : Bool :=
  match s with
  | none => true
  | some s => utf8.encodes s

/-- `s.encode("utf-8")`, as far as it raises. -/
def encode (utf8 : Utf8) (s : String) : Except PyError Unit :=
  if utf8.encodes s then .ok () else .error .unicodeEncodeError

/-- The same of what may be `None`. -/
def encodeOpt (utf8 : Utf8) (s : Option String) : Except PyError Unit :=
  match s with
  | none => .ok ()
  | some s => utf8.encode s

variable (utf8 : Utf8)

@[simp] theorem encodes_scalar (s : String) : scalar.encodes s = true :=
  List.all_eq_true.2 fun _ _ => rfl

@[simp] theorem encodesOpt_scalar (s : Option String) : scalar.encodesOpt s = true := by
  cases s with
  | none => rfl
  | some s => exact encodes_scalar s

@[simp] theorem encodes_append (s t : String) :
    utf8.encodes (s ++ t) = (utf8.encodes s && utf8.encodes t) := by
  rw [encodes, String.toList_append, List.all_append]
  rfl

theorem encodes_of_isLow {s : String} (h : isLow s = true) : utf8.encodes s = true := by
  rw [encodes, List.all_eq_true]
  intro c hc
  have hlow := of_decide_eq_true (List.all_eq_true.1 h c hc)
  by_contra hsurrogate
  rw [Bool.not_eq_true', Bool.not_eq_false] at hsurrogate
  exact absurd (utf8.surrogate_ge c hsurrogate) (Nat.not_le.2 hlow)

/-- The digits of a number stand for themselves. -/
theorem encodes_toString_int (i : ℤ) : utf8.encodes (toString i) = true := by
  refine utf8.encodes_of_isLow (List.all_eq_true.2 fun c hc => decide_eq_true ?_)
  by_cases hdigit : c.isDigit = true
  · exact (Char.isDigit_iff_toNat.1 hdigit).2.trans_lt (by decide)
  · have hsign : c = '-' := by
      by_contra hsign
      exact not_mem_toString_int (Bool.eq_false_iff.2 hdigit) hsign i hc
    rw [hsign]
    decide

/-- What is joined has an encoding when its parts do. -/
theorem encodes_intercalate {sep : String} (hsep : isLow sep = true) (xs : List String) :
    utf8.encodes (sep.intercalate xs) = xs.all utf8.encodes := by
  induction xs with
  | nil => rfl
  | cons x xs ih =>
      cases xs with
      | nil => rw [String.intercalate_singleton, List.all_cons, List.all_nil, Bool.and_true]
      | cons y xs =>
          rw [String.intercalate_cons_cons, encodes_append, encodes_append,
            utf8.encodes_of_isLow hsep, ih, Bool.and_true]
          rfl

theorem faultOf_encode (s : String) :
    faultOf (utf8.encode s) = faultIf (!utf8.encodes s) .escaped := by
  unfold encode faultIf
  cases utf8.encodes s <;> rfl

theorem faultOf_encodeOpt (s : Option String) :
    faultOf (utf8.encodeOpt s) = faultIf (!utf8.encodesOpt s) .escaped := by
  cases s with
  | none => rfl
  | some s => exact utf8.faultOf_encode s

theorem encode_eq_ok_iff {s : String} : utf8.encode s = .ok () ↔ utf8.encodes s = true := by
  unfold encode
  split
  · next h => exact iff_of_true rfl h
  · next h => exact iff_of_false (by rintro ⟨⟩) h

end Utf8

end RecoveryAgent.Python
