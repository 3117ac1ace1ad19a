import Mathlib.Data.List.Basic
import Mathlib.Data.Rat.Defs
import Mathlib.Data.Int.Notation

/-!
# The Python values the code computes with

JSON values as `json.loads` returns them, the dictionaries that carry ledger
payloads, the string methods the code calls, and datetimes as far as the
contact window reads them.
-/

namespace RecoveryAgent.Python

/-- A Python float: an exact rational, or one of the values that `json.loads`
also accepts. -/
inductive PyFloat where
  | fin (q : ℚ)
  | nan
  | posInf
  | negInf
  deriving DecidableEq, Repr

/-- A JSON value. Objects keep their insertion order. -/
inductive Json where
  | null
  | bool (b : Bool)
  | int (i : ℤ)
  | float (x : PyFloat)
  | str (s : String)
  | arr (xs : List Json)
  | obj (fields : List (String × Json))

/-- A `dict[str, Any]`: the fields of a JSON object. -/
abbrev Fields := List (String × Json)

namespace Json

/-- Python's truth value: `None`, `False`, zero and what is empty are false. -/
def truthy : Json → Bool
  | null => false
  | bool b => b
  | int i => i != 0
  | float x => x != .fin 0
  | str s => s != ""
  | arr xs => !xs.isEmpty
  | obj fields => !fields.isEmpty

/-- `str(v)` for the values whose text is fixed: `None`, a bool, an int, a
string. -/
def text? : Json → Option String
  | null => some "None"
  | bool b => some (if b then "True" else "False")
  | int i => some (toString i)
  | str s => some s
  | _ => none

/-- An optional string, `None` as `null`. -/
def ofOptStr : Option String → Json
  | none => null
  | some s => str s

/-- An optional natural number, `None` as `null`. -/
def ofOptNat : Option ℕ → Json
  | none => null
  | some n => int n

/-- An optional integer, `None` as `null`. -/
def ofOptInt : Option ℤ → Json
  | none => null
  | some i => int i

theorem getD_text?_eq (v : Json) (s : String) (h : v.text? = some s) :
    v.text?.getD "None" = s := by
  rw [h, Option.getD_some]

@[simp] theorem text?_str (s : String) : (str s).text? = some s := rfl

@[simp] theorem text?_ofOptNat_isSome (n : Option ℕ) : (ofOptNat n).text?.isSome := by
  cases n <;> rfl

end Json

namespace Fields

/-- `d.get(key)`. -/
def get? (d : Fields) (key : String) : Option Json := d.lookup key

/-- `d[key] = value`: in place when the key is there, else at the end. -/
def set : Fields → String → Json → Fields
  | [], key, value => [(key, value)]
  | (k, v) :: d, key, value =>
      if k = key then (k, value) :: d else (k, v) :: set d key value

/-- `d.setdefault(key, value)`. -/
def setDefault (d : Fields) (key : String) (value : Json) : Fields :=
  if (get? d key).isSome then d else d ++ [(key, value)]

/-- `{**d, **e}`. -/
def merge (d e : Fields) : Fields := e.foldl (fun acc kv => set acc kv.1 kv.2) d

end Fields

/-!
## Strings

The two case maps are those of `str.lower` and `str.upper` on every character
whose image is ASCII; any other character is left as it is, and neither it nor
its real image is ASCII. A result equals an ASCII text exactly when Python's
does, and the code only looks the result up among ASCII keys.
-/

/-- The whitespace that `str.strip` removes. -/
def isSpace (c : Char) : Bool :=
  c.toNat ∈ [0x09, 0x0A, 0x0B, 0x0C, 0x0D, 0x1C, 0x1D, 0x1E, 0x1F, 0x20, 0x85, 0xA0, 0x1680,
    0x2000, 0x2001, 0x2002, 0x2003, 0x2004, 0x2005, 0x2006, 0x2007, 0x2008, 0x2009, 0x200A,
    0x2028, 0x2029, 0x202F, 0x205F, 0x3000]

/-- `s.strip()`. -/
def strip (s : String) : String :=
  String.ofList ((s.toList.dropWhile isSpace).reverse.dropWhile isSpace).reverse

/-- `str.lower` of one character, as far as the image is ASCII: the capital
letters, the Kelvin sign and the dotted capital I. -/
def lowerChar (c : Char) : List Char :=
  if 'A' ≤ c ∧ c ≤ 'Z' then [Char.ofNat (c.toNat + 32)]
  else if c.toNat = 0x212A then ['k']
  else if c.toNat = 0x130 then ['i', Char.ofNat 0x307]
  else [c]

/-- `str.upper` of one character, as far as the image is ASCII: the small
letters, the sharp s, the dotless i, the long s and the Latin ligatures. -/
def upperChar (c : Char) : List Char :=
  if 'a' ≤ c ∧ c ≤ 'z' then [Char.ofNat (c.toNat - 32)]
  else if c.toNat = 0xDF then ['S', 'S']
  else if c.toNat = 0x131 then ['I']
  else if c.toNat = 0x17F then ['S']
  else if c.toNat = 0xFB00 then ['F', 'F']
  else if c.toNat = 0xFB01 then ['F', 'I']
  else if c.toNat = 0xFB02 then ['F', 'L']
  else if c.toNat = 0xFB03 then ['F', 'F', 'I']
  else if c.toNat = 0xFB04 then ['F', 'F', 'L']
  else if c.toNat = 0xFB05 then ['S', 'T']
  else if c.toNat = 0xFB06 then ['S', 'T']
  else [c]

/-- `s.lower()`. -/
def lower (s : String) : String := String.ofList (s.toList.flatMap lowerChar)

/-- `s.upper()`. -/
def upper (s : String) : String := String.ofList (s.toList.flatMap upperChar)

/-- `s[:n]`. -/
def slice (n : ℕ) (s : String) : String := String.ofList (s.toList.take n)

/-!
## Numbers
-/

/-- Rounding to the nearest integer, halves to the even one. -/
def roundHalfEven (q : ℚ) : ℤ :=
  let below := q.floor
  if q - below < 1 / 2 then below
  else if 1 / 2 < q - below then below + 1
  else if below % 2 = 0 then below
  else below + 1

/-- `round(q, digits)` in exact arithmetic. -/
def round (q : ℚ) (digits : ℕ) : ℚ := roundHalfEven (q * 10 ^ digits) / 10 ^ digits

/-- `int(q)`: cut off towards zero. -/
def truncate (q : ℚ) : ℤ := if q < 0 then q.ceil else q.floor

/-!
## Datetimes
-/

/-- A datetime: its wall clock in microseconds since the epoch and its UTC
offset, absent in a naive datetime. -/
structure DateTime where
  micros : ℤ
  utcOffset : Option ℤ := some 0
  deriving DecidableEq, Repr

/-- `t.hour`. -/
def DateTime.hour (t : DateTime) : ℤ := t.micros / 3600000000 % 24

/-- `t.replace(tzinfo=timezone.utc)` of a naive datetime. -/
def DateTime.aware (t : DateTime) : DateTime := { t with utcOffset := some (t.utcOffset.getD 0) }

/-- `timedelta(hours=5, minutes=30)`. -/
def istOffset : ℤ := 19800000000

/-- The hour of the day in India. A naive datetime is read as UTC. -/
def DateTime.istHour (now : DateTime) : ℤ :=
  (now.micros - now.utcOffset.getD 0 + istOffset) / 3600000000 % 24

/-- Year, month and day of a day counted from the epoch, in the Gregorian
calendar. -/
def civil (day : ℤ) : ℤ × ℤ × ℤ :=
  let z := day + 719468
  let era := z / 146097
  let doe := z % 146097
  let yoe := (doe - doe / 1460 + doe / 36524 - doe / 146096) / 365
  let doy := doe - (365 * yoe + yoe / 4 - yoe / 100)
  let mp := (5 * doy + 2) / 153
  let month := if mp < 10 then mp + 3 else mp - 9
  (yoe + era * 400 + (if month ≤ 2 then 1 else 0), month, doy - (153 * mp + 2) / 5 + 1)

/-- The digits of `n`, filled up with zeros. -/
def padded (width : ℕ) (n : ℤ) : String :=
  let digits := (toString n.natAbs).toList
  String.ofList (List.replicate (width - digits.length) '0' ++ digits)

/-- The zeros do not change the number that is read back. -/
theorem ofDigitChars_padded (width : ℕ) (n : ℤ) :
    Nat.ofDigitChars 10 (padded width n).toList 0 = n.natAbs := by
  have hdigits : (toString n.natAbs).toList = Nat.toDigits 10 n.natAbs := Nat.toList_repr
  rw [padded, String.toList_ofList, Nat.ofDigitChars_append, Nat.ofDigitChars_replicate_zero,
    Nat.mul_zero, hdigits, Nat.ofDigitChars_ten_toDigits]

theorem padded_injective (width : ℕ) : Function.Injective fun n : ℕ => padded width n := by
  intro n m h
  have hread := congrArg (fun text => Nat.ofDigitChars 10 text.toList 0) h
  simpa only [ofDigitChars_padded, Int.natAbs_natCast] using hread

/-- The text of a datetime in a dump with `mode="json"`. -/
def DateTime.isoText (t : DateTime) : String :=
  let seconds := t.micros / 1000000
  let date := civil (seconds / 86400)
  let inDay := seconds % 86400
  let fraction := t.micros % 1000000
  let zone :=
    match t.utcOffset with
    | none => ""
    | some 0 => "Z"
    | some offset =>
        let minutes : ℤ := (offset / 60000000).natAbs
        (if offset < 0 then "-" else "+") ++ padded 2 (minutes / 60) ++ ":" ++
          padded 2 (minutes % 60)
  padded 4 date.1 ++ "-" ++ padded 2 date.2.1 ++ "-" ++ padded 2 date.2.2 ++ "T" ++
    padded 2 (inDay / 3600) ++ ":" ++ padded 2 (inDay / 60 % 60) ++ ":" ++ padded 2 (inDay % 60) ++
    (if fraction = 0 then "" else "." ++ padded 6 fraction) ++ zone

/-- `t.isoformat()`. -/
def isoformat (t : DateTime) : String :=
  let zone :=
    match t.utcOffset with
    | none => ""
    | some offset =>
        let part (n : ℤ) := padded 2 (n % 60)
        let seconds : ℤ := offset.natAbs / 1000000
        let fraction : ℤ := offset.natAbs % 1000000
        (if offset < 0 then "-" else "+") ++ padded 2 (seconds / 3600) ++ ":" ++
          part (seconds / 60) ++
          (if seconds % 60 = 0 ∧ fraction = 0 then "" else ":" ++ part seconds) ++
          (if fraction = 0 then "" else "." ++ padded 6 fraction)
  { t with utcOffset := none }.isoText ++ zone

theorem isoformat_ne_empty (t : DateTime) : isoformat t ≠ "" := by
  have hdash : '-' ∈ (isoformat t).toList := by
    have hsep : '-' ∈ "-".toList := by decide
    simp only [isoformat, DateTime.isoText, String.toList_append, List.mem_append, hsep, or_true,
      true_or]
  intro h
  rw [h] at hdash
  cases hdash

/-- 2026-08-21 06:00 UTC, 11:30 in India. -/
def daytime : DateTime := ⟨1787292000000000, some 0⟩

/-- 2026-08-21 18:30 UTC, midnight in India. -/
def nighttime : DateTime := ⟨1787337000000000, some 0⟩

example : daytime.istHour = 11 := by decide

example : nighttime.istHour = 0 := by decide

end RecoveryAgent.Python
