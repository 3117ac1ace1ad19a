import RecoveryAgent.Python.Lines

/-!
# Reading an integer

`int` of a text: whitespace around it is dropped, a sign may come first, and single
underscores may stand between the digits, which are those of any script. What `str` writes
for an integer is read back as that integer.
-/

namespace RecoveryAgent.Python

/-- The digits of a text in which single underscores may stand between digits. The flag says
that a digit came before. -/
def digitsBetween : Bool → List Char → Option (List Char)
  | afterDigit, [] => if afterDigit then some [] else none
  | afterDigit, c :: text =>
      if c = '_' then if afterDigit then digitsBetween false text else none
      else if isDecimal c then (digitsBetween true text).map (c :: ·)
      else none

/-- The most digits that `int` reads and `str` writes. -/
def maxDigits : ℕ := 4300

/-- The bound of the integers with so many digits. -/
@[irreducible] def intLimit : ℕ := Nat.pow 10 maxDigits

/-- The number that the digits of a text are. -/
def readDigits (text : List Char) : Option ℕ :=
  ((digitsBetween false text).filter fun digits => digits.length ≤ maxDigits).map intOfDecimals

/-- `int(s)`, or nothing where it raises. -/
def intOfText (s : String) : Option ℤ :=
  match (strip s).toList with
  | '-' :: text => (readDigits text).map fun n => -(n : ℤ)
  | '+' :: text => (readDigits text).map fun n => (n : ℤ)
  | text => (readDigits text).map fun n => (n : ℤ)

theorem digitsBetween_digits {digits : List Char} (hne : digits ≠ [])
    (h : ∀ c ∈ digits, c.isDigit = true) (afterDigit : Bool) :
    digitsBetween afterDigit digits = some digits := by
  induction digits generalizing afterDigit with
  | nil => exact absurd rfl hne
  | cons c digits ih =>
      have hc := h c List.mem_cons_self
      have hunderscore : c ≠ '_' := by
        rintro rfl
        exact absurd hc (by decide)
      rw [digitsBetween, if_neg hunderscore, if_pos (isDecimal_of_isDigit hc)]
      cases digits with
      | nil => rfl
      | cons d digits =>
          rw [ih (List.cons_ne_nil d digits) fun e he => h e (List.mem_cons_of_mem c he)]
          rfl

/-- A text without whitespace is left as it is. -/
theorem Word.strip_eq {s : String} (h : Word s) : strip s = s := by
  have hkeep : ∀ text : List Char, (∀ c ∈ text, isSpace c = false) →
      text.dropWhile isSpace = text := by
    intro text htext
    cases text with
    | nil => rfl
    | cons c text =>
        exact List.dropWhile_cons_of_neg (by rw [htext c List.mem_cons_self]; decide)
  rw [strip, hkeep _ h, hkeep _ fun c hc => h c (List.mem_reverse.1 hc), List.reverse_reverse,
    String.ofList_toList]

theorem length_toDigits_le_iff {n : ℕ} :
    (Nat.toDigits 10 n).length ≤ maxDigits ↔ n < intLimit := by
  unfold intLimit
  generalize hmax : maxDigits = k
  have hk : 0 < k := hmax ▸ by decide
  exact Nat.length_toDigits_le_iff (by decide) hk

theorem readDigits_toDigits (n : ℕ) :
    readDigits (Nat.toDigits 10 n) = if n < intLimit then some n else none := by
  have hdigits : ∀ c ∈ Nat.toDigits 10 n, c.isDigit = true := fun c hc =>
    Nat.isDigit_of_mem_toDigits (by decide) (by decide) hc
  rw [readDigits, digitsBetween_digits Nat.toDigits_ne_nil hdigits, Option.filter_some]
  simp only [decide_eq_true_eq, length_toDigits_le_iff]
  split
  · rw [Option.map_some, intOfDecimals_eq hdigits, Nat.ofDigitChars_ten_toDigits]
  · rfl

/-- An integer that is written is read back, as long as it has not too many digits. -/
theorem intOfText_toString (i : ℤ) :
    intOfText (toString i) = if i.natAbs < intLimit then some i else none := by
  rw [intOfText, (word_toString_int i).strip_eq, toString_int]
  match i with
  | .ofNat n =>
      obtain ⟨c, text, htext⟩ := List.exists_cons_of_ne_nil (Nat.toDigits_ne_nil (b := 10) (n := n))
      have hc : c.isDigit = true :=
        Nat.isDigit_of_mem_toDigits (by decide) (by decide) (htext ▸ List.mem_cons_self)
      have hminus : c ≠ '-' := by
        rintro rfl
        exact absurd hc (by decide)
      have hplus : c ≠ '+' := by
        rintro rfl
        exact absurd hc (by decide)
      have hsame : (Int.ofNat n).natAbs = n := rfl
      rw [hsame]
      simp only [htext]
      split
      · next heq => exact absurd (List.cons.inj heq).1 hminus
      · next heq => exact absurd (List.cons.inj heq).1 hplus
      · rw [← htext, readDigits_toDigits]
        split <;> rfl
  | .negSucc n =>
      have hsame : (Int.negSucc n).natAbs = n + 1 := rfl
      rw [hsame]
      simp only
      rw [readDigits_toDigits]
      split <;> rfl

end RecoveryAgent.Python
