import RecoveryAgent.Python.Values

/-!
# Numbers in texts

The text of an integer is a sign and digits, so it has no separator in it and no two
integers share it. In the other direction `int` and the pattern `\d` know the decimal digits
of all scripts.
-/

namespace RecoveryAgent.Python

/-- A text before a separator that it does not contain is fixed by the whole. -/
theorem split_at_separator {α : Type*} [DecidableEq α] {sep : α} {xs ys ss ts : List α}
    (hx : sep ∉ xs) (hy : sep ∉ ys) (h : xs ++ sep :: ss = ys ++ sep :: ts) :
    xs = ys ∧ ss = ts := by
  have htake : ∀ zs us : List α, sep ∉ zs → (zs ++ sep :: us).takeWhile (· ≠ sep) = zs := by
    intro zs us hz
    have hall : ∀ c ∈ zs, decide (c ≠ sep) = true :=
      fun c hc => decide_eq_true fun heq => hz (heq ▸ hc)
    rw [List.takeWhile_append_of_pos hall]
    simp
  have hsame : xs = ys := by rw [← htake xs ss hx, h, htake ys ts hy]
  subst hsame
  exact ⟨rfl, (List.cons.inj (List.append_cancel_left h)).2⟩

/-- A part that has no separator is on one side of it. -/
theorem infix_at_separator {α : Type*} {sep : α} {part xs ss : List α} (hsep : sep ∉ part) :
    part <:+: xs ++ sep :: ss ↔ part <:+: xs ∨ part <:+: ss := by
  constructor
  · rintro ⟨before, after, h⟩
    rcases List.append_eq_append_iff.1 h with ⟨rest, hxs, -⟩ | ⟨rest, hbefore, hrest⟩
    · exact Or.inl ⟨before, rest, hxs.symm⟩
    · cases rest with
      | nil => exact Or.inl ⟨before, [], hbefore.trans (List.append_nil xs) ▸ List.append_nil _⟩
      | cons c rest =>
          obtain ⟨rfl, rfl⟩ := List.cons.inj hrest
          rcases List.append_eq_append_iff.1 hbefore with ⟨inner, -, hpart⟩ | ⟨inner, -, hinner⟩
          · exact absurd (hpart ▸ List.mem_append_right inner List.mem_cons_self) hsep
          · cases inner with
            | nil =>
                rw [List.nil_append] at hinner
                exact absurd (hinner ▸ List.mem_cons_self) hsep
            | cons c inner =>
                obtain ⟨rfl, rfl⟩ := List.cons.inj hinner
                exact Or.inr ⟨inner, after, rfl⟩
  · rintro (h | h)
    · exact h.trans (List.prefix_append xs (sep :: ss)).isInfix
    · exact h.trans ((List.suffix_cons sep ss).trans (List.suffix_append xs _)).isInfix

/-!
## The digits of a number
-/

theorem not_mem_toDigits {c : Char} (h : c.isDigit = false) (n : ℕ) : c ∉ Nat.toDigits 10 n := by
  intro hmem
  have hdigit := Nat.isDigit_of_mem_toDigits (by decide) (by decide) hmem
  rw [h] at hdigit
  cases hdigit

/-- A text with a character that is no digit is no number. -/
theorem ne_toDigits {c : Char} {cs : List Char} (hmem : c ∈ cs) (h : c.isDigit = false) (n : ℕ) :
    cs ≠ Nat.toDigits 10 n := by
  rintro rfl
  exact not_mem_toDigits h n hmem

theorem toDigits_injective {n m : ℕ} (h : Nat.toDigits 10 n = Nat.toDigits 10 m) : n = m := by
  rw [← Nat.ofDigitChars_ten_toDigits (n := n), h, Nat.ofDigitChars_ten_toDigits]

/-- The text of an integer is digits after at most one sign. -/
theorem toString_int (i : ℤ) :
    (toString i).toList =
      match i with
      | .ofNat n => Nat.toDigits 10 n
      | .negSucc n => '-' :: Nat.toDigits 10 (n + 1) := by
  cases i with
  | ofNat n => exact Nat.toList_repr
  | negSucc n =>
      change ("-" ++ Nat.repr (n + 1)).toList = _
      rw [String.toList_append, Nat.toList_repr]
      rfl

theorem not_mem_toString_int {c : Char} (h : c.isDigit = false) (hsign : c ≠ '-') (i : ℤ) :
    c ∉ (toString i).toList := by
  rw [toString_int]
  cases i with
  | ofNat n => exact not_mem_toDigits h n
  | negSucc n =>
      intro hmem
      rcases List.mem_cons.1 hmem with hmem | hmem
      · exact hsign hmem
      · exact not_mem_toDigits h (n + 1) hmem

/-- No two integers have one text. -/
theorem toString_int_injective : Function.Injective fun i : ℤ => (toString i).toList := by
  intro i j h
  simp only [toString_int] at h
  match i, j with
  | .ofNat n, .ofNat m => rw [toDigits_injective h]
  | .ofNat n, .negSucc m =>
      exact absurd h.symm (ne_toDigits (c := '-') List.mem_cons_self (by decide) n)
  | .negSucc n, .ofNat m =>
      exact absurd h (ne_toDigits (c := '-') List.mem_cons_self (by decide) m)
  | .negSucc n, .negSucc m =>
      rw [Nat.succ.inj (toDigits_injective (List.cons.inj h).2)]

theorem isDigit_of_mem_padded {c : Char} {width : ℕ} {n : ℤ}
    (h : c ∈ (padded width n).toList) : c.isDigit = true := by
  rw [padded, String.toList_ofList, List.mem_append] at h
  rcases h with h | h
  · rw [List.eq_of_mem_replicate h]
    decide
  · have hdigits : (toString n.natAbs).toList = Nat.toDigits 10 n.natAbs := Nat.toList_repr
    rw [hdigits] at h
    exact Nat.isDigit_of_mem_toDigits (by decide) (by decide) h

theorem padded_ne_nil (width : ℕ) (n : ℤ) : (padded width n).toList ≠ [] := by
  have hdigits : (toString n.natAbs).toList = Nat.toDigits 10 n.natAbs := Nat.toList_repr
  rw [padded, String.toList_ofList, hdigits]
  exact List.append_ne_nil_of_right_ne_nil _ Nat.toDigits_ne_nil

/-!
## Reading numbers
-/

/-- The zeros of the decimal digits; the other nine follow each of them. -/
def decimalZeros : List ℕ :=
  [0x30, 0x660, 0x6F0, 0x7C0, 0x966, 0x9E6, 0xA66, 0xAE6, 0xB66, 0xBE6, 0xC66, 0xCE6, 0xD66, 0xDE6,
    0xE50, 0xED0, 0xF20, 0x1040, 0x1090, 0x17E0, 0x1810, 0x1946, 0x19D0, 0x1A80, 0x1A90, 0x1B50,
    0x1BB0, 0x1C40, 0x1C50, 0xA620, 0xA8D0, 0xA900, 0xA9D0, 0xA9F0, 0xAA50, 0xABF0, 0xFF10, 0x104A0,
    0x10D30, 0x11066, 0x110F0, 0x11136, 0x111D0, 0x112F0, 0x11450, 0x114D0, 0x11650, 0x116C0,
    0x11730, 0x118E0, 0x11950, 0x11C50, 0x11D50, 0x11DA0, 0x11F50, 0x16A60, 0x16AC0, 0x16B50,
    0x1D7CE, 0x1D7D8, 0x1D7E2, 0x1D7EC, 0x1D7F6, 0x1E140, 0x1E2F0, 0x1E4F0, 0x1E950, 0x1FBF0]

/-- The further characters of `str.isdigit`, as first and last of their blocks. -/
def otherDigits : List (ℕ × ℕ) :=
  [(0xB2, 0xB3), (0xB9, 0xB9), (0x1369, 0x1371), (0x19DA, 0x19DA), (0x2070, 0x2070),
    (0x2074, 0x2079), (0x2080, 0x2089), (0x2460, 0x2468), (0x2474, 0x247C), (0x2488, 0x2490),
    (0x24EA, 0x24EA), (0x24F5, 0x24FD), (0x24FF, 0x24FF), (0x2776, 0x277E), (0x2780, 0x2788),
    (0x278A, 0x2792), (0x10A40, 0x10A43), (0x10E60, 0x10E68), (0x11052, 0x1105A),
    (0x1F100, 0x1F10A)]

def decimalValue? (c : Char) : Option ℕ :=
  (decimalZeros.find? fun first => first ≤ c.toNat && c.toNat < first + 10).map (c.toNat - ·)

/-- `\d` of a pattern. -/
def isDecimal (c : Char) : Bool := (decimalValue? c).isSome

/-- `str.isdigit` of one character. -/
def isDigit (c : Char) : Bool :=
  isDecimal c || otherDigits.any fun block => block.1 ≤ c.toNat && c.toNat ≤ block.2

def intOfDecimals (digits : List Char) : ℕ :=
  digits.foldl (fun read c => 10 * read + (decimalValue? c).getD 0) 0

/-- The ASCII digits come first. -/
theorem decimalValue?_of_isDigit {c : Char} (h : c.isDigit = true) :
    decimalValue? c = some (c.toNat - 0x30) := by
  have hrange : 0x30 ≤ c.toNat ∧ c.toNat < 0x30 + 10 := by
    simp only [Char.isDigit, ge_iff_le, Bool.and_eq_true, decide_eq_true_eq] at h
    exact ⟨h.1, Nat.lt_succ_of_le h.2⟩
  rw [decimalValue?, decimalZeros, List.find?_cons_of_pos (by simpa using hrange)]
  rfl

theorem isDecimal_of_isDigit {c : Char} (h : c.isDigit = true) : isDecimal c = true := by
  rw [isDecimal, decimalValue?_of_isDigit h]
  rfl

/-- On ASCII digits `int` is the usual reading. -/
theorem intOfDecimals_eq {digits : List Char} (h : ∀ c ∈ digits, c.isDigit = true) :
    intOfDecimals digits = Nat.ofDigitChars 10 digits 0 := by
  rw [intOfDecimals, Nat.ofDigitChars_eq_foldl]
  apply List.foldl_ext
  intro read c hc
  rw [decimalValue?_of_isDigit (h c hc)]
  rfl

/-- Padding does not change what is read. -/
theorem intOfDecimals_padded (width n : ℕ) : intOfDecimals (padded width n).toList = n := by
  rw [intOfDecimals_eq fun c hc => isDigit_of_mem_padded hc, ofDigitChars_padded,
    Int.natAbs_natCast]

end RecoveryAgent.Python
