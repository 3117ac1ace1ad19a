import Mathlib.Algebra.Group.Int.Defs
import Mathlib.Algebra.Group.Nat.Defs
import Mathlib.Data.List.Infix
import RecoveryAgent.Library.Fault
import RecoveryAgent.Python.Values

/-!
# Python operations that raise

The exceptions that the code's calls on untyped JSON raise (`.get` on what is no
dictionary, `int`, `float`, `datetime.fromtimestamp` and `hmac.compare_digest`), and that
of `astimezone`. Only a `ValueError` is answered by the callers; any other exception
leaves them.
-/

namespace RecoveryAgent.Python

open Library

inductive PyError where
  | valueError (text : String)
  | attributeError
  | typeError
  | overflowError
  | osError
  | unicodeDecodeError
  | unicodeEncodeError
  deriving DecidableEq, Repr

/-- What an `except ValueError` makes of an exception. -/
inductive Fault where
  | caught
  | escaped
  deriving DecidableEq, Repr

def PyError.fault : PyError → Fault
  | valueError _ => .caught
  | _ => .escaped

/-- The fault of a computation with Python's exceptions. -/
abbrev faultOf {α : Type} (x : Except PyError α) : Option Fault := fault PyError.fault x

/-!
## Dictionaries
-/

/-- `d.get(key)`, `None` for a key that is not there. -/
def Fields.item (d : Fields) (key : String) : Json := (d.get? key).getD .null

namespace Json

/-- `v or w`. -/
def or (v w : Json) : Json := if v.truthy then v else w

/-- `v or w`, where `w` is computed only when it is needed. -/
def orElse (v : Json) (w : Except PyError Json) : Except PyError Json :=
  if v.truthy then .ok v else w

def isObj : Json → Bool
  | obj _ => true
  | _ => false

def fields : Json → Fields
  | obj d => d
  | _ => []

/-- `v.get(key)`, which only a dictionary has. -/
def get (v : Json) (key : String) : Except PyError Json :=
  match v with
  | obj d => .ok (Fields.item d key)
  | _ => .error .attributeError

/-- What is true and no dictionary. `v or {}` then has no `get`. -/
def misfit (v : Json) : Bool := v.truthy && !v.isObj

@[simp] theorem isObj_obj (d : Fields) : (obj d).isObj = true := rfl

@[simp] theorem fields_obj (d : Fields) : (obj d).fields = d := rfl

theorem eq_obj_of_isObj {v : Json} (h : v.isObj = true) : v = obj v.fields := by
  cases v with
  | obj d => rfl
  | _ => cases h

@[simp] theorem get_obj (d : Fields) (key : String) :
    (obj d).get key = .ok (Fields.item d key) := rfl

theorem faultOf_get (v : Json) (key : String) :
    faultOf (v.get key) = faultIf (!v.isObj) .escaped := by
  cases v <;> rfl

theorem get_eq_ok {v w : Json} {key : String} (h : v.get key = .ok w) :
    v.isObj = true ∧ w = Fields.item v.fields key := by
  cases v with
  | obj d => exact ⟨rfl, (Except.ok.inj h).symm⟩
  | _ => cases h

theorem or_isObj (v : Json) (d : Fields) : (v.or (obj d)).isObj = !v.misfit := by
  unfold or misfit
  cases v.truthy <;> simp

theorem faultOf_or_get (v : Json) (d : Fields) (key : String) :
    faultOf ((v.or (obj d)).get key) = faultIf v.misfit .escaped := by
  rw [faultOf_get, or_isObj, Bool.not_not]

theorem faultOf_orElse (v : Json) (w : Except PyError Json) :
    faultOf (v.orElse w) = if v.truthy then none else faultOf w := by
  unfold orElse
  split <;> rfl

/-- A value that is looked up in `v or {}` only when it is needed. -/
theorem faultOf_orElse_get (w v : Json) (d : Fields) (key : String) (g : Json → Json) :
    faultOf (w.orElse do
      let found ← (v.or (obj d)).get key
      return g found) = faultIf (v.misfit && !w.truthy) .escaped := by
  have hget : faultOf (g <$> (v.or (obj d)).get key) = faultIf v.misfit .escaped :=
    (fault_map g).trans (faultOf_or_get v d key)
  rw [faultOf_orElse]
  cases w.truthy with
  | true => simp [faultIf]
  | false => simpa using hget

end Json

/-!
## Texts
-/

/-- `s.isascii()`. -/
def isAscii (s : String) : Bool := s.toList.all fun c => c.toNat < 128

/-- `part in s`. -/
def hasText (part s : String) : Bool := part.toList <:+: s.toList

def startsWith (start s : String) : Bool := start.toList.isPrefixOf s.toList

/-- `s.endswith(stop)`. -/
def endsWith (stop s : String) : Bool := stop.toList.isSuffixOf s.toList

/-- `hmac.compare_digest(a, b)` on two texts. -/
def compareDigest (a b : String) : Except PyError Bool :=
  if isAscii a && isAscii b then .ok (a == b) else .error .typeError

/-!
## Numbers
-/

/-- How `str` writes a value and how `int` reads a text. -/
structure Conversions where
  textOf : Json → String
  textOf_eq : ∀ v s, v.text? = some s → textOf v = s
  intOfText : String → Option ℤ
  errorText : Json → String

/-- The conversions of a few values. -/
def plainConversions : Conversions where
  textOf := fun v => v.text?.getD "None"
  textOf_eq := Json.getD_text?_eq
  intOfText := fun _ => none
  errorText := fun _ => ""

/-- `int(v)`. A float is cut off towards zero. -/
def pyInt (py : Conversions) (v : Json) : Except PyError ℤ :=
  match v with
  | .int i => .ok i
  | .bool b => .ok (if b then 1 else 0)
  | .float (.fin q) => .ok (truncate q)
  | .float .nan => .error (.valueError (py.errorText v))
  | .float _ => .error .overflowError
  | .str s =>
      match py.intOfText s with
      | some i => .ok i
      | none => .error (.valueError (py.errorText v))
  | _ => .error .typeError

/-- The first integer that `float` refuses: half a step beyond the largest float. -/
def floatOverflow : ℕ := (2 ^ 54 - 1) * 2 ^ 970

/-- `float(i)`, in exact arithmetic. -/
def toFloat (i : ℤ) : Except PyError ℚ :=
  if i.natAbs < floatOverflow then .ok i else .error .overflowError

theorem toFloat_eq_ok_iff (i : ℤ) : (∃ q, toFloat i = .ok q) ↔ i.natAbs < floatOverflow := by
  unfold toFloat
  split
  · next h => exact iff_of_true ⟨_, rfl⟩ h
  · next h => exact iff_of_false nofun h

/-- How texts and values are read: `str`, `int`, and `float` of a text. -/
structure Readers extends Conversions where
  floatOfText : String → Option PyFloat

/-- `float(v)`. -/
def pyFloat (py : Readers) (v : Json) : Except PyError PyFloat :=
  match v with
  | .int i => (toFloat i).map .fin
  | .bool b => .ok (.fin (if b then 1 else 0))
  | .float x => .ok x
  | .str s =>
      match py.floatOfText s with
      | some x => .ok x
      | none => .error (.valueError (py.errorText v))
  | _ => .error .typeError

/-- `isinstance(v, (int, float))`; a bool is an int. -/
def isNumber : Json → Bool
  | .int _ => true
  | .bool _ => true
  | .float _ => true
  | _ => false

/-- The datetime of a number of microseconds since the epoch, in UTC. It has to be
a `time_t`, a time that `gmtime` knows, and a date of the years 1 to 9999. -/
def fromMicros (py : Conversions) (v : Json) (micros : ℤ) : Except PyError DateTime :=
  let seconds := micros / 1000000
  if seconds < -2 ^ 63 ∨ 2 ^ 63 ≤ seconds then .error .overflowError
  else if seconds < -67768040609740800 ∨ 67768036191676799 < seconds then .error .osError
  else if seconds < -62135596800 ∨ 253402300799 < seconds then
    .error (.valueError (py.errorText v))
  else .ok ⟨micros, some 0⟩

/-- A wall clock of the years 1 to 9999. -/
def isDate (micros : ℤ) : Bool :=
  -62135596800000000 ≤ micros && micros ≤ 253402300799999999

/-- `t.astimezone(timezone(offset))` of an aware datetime. It goes through UTC, and both
wall clocks have to be dates. -/
def DateTime.astimezone (t : DateTime) (offset : ℤ) : Except PyError DateTime :=
  let utc := t.micros - t.utcOffset.getD 0
  if isDate utc && isDate (utc + offset) then .ok ⟨utc + offset, some offset⟩
  else .error .overflowError

/-- The time can be told in India. -/
def DateTime.inIst (t : DateTime) : Bool :=
  let utc := t.micros - t.utcOffset.getD 0
  isDate utc && isDate (utc + istOffset)

theorem astimezone_istOffset (t : DateTime) :
    t.aware.astimezone istOffset =
      if t.inIst then .ok ⟨t.micros - t.utcOffset.getD 0 + istOffset, some istOffset⟩
      else .error .overflowError := rfl

/-- `datetime.fromtimestamp(v, tz=timezone.utc)` of a number. -/
def fromTimestamp (py : Conversions) (v : Json) : Except PyError DateTime :=
  match v with
  | .int i => fromMicros py v (i * 1000000)
  | .bool b => fromMicros py v (if b then 1000000 else 0)
  | .float (.fin q) => fromMicros py v (roundHalfEven (q * 1000000))
  | .float .nan => .error (.valueError (py.errorText v))
  | .float _ => .error .overflowError
  | _ => .error .typeError

end RecoveryAgent.Python
