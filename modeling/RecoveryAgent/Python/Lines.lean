import RecoveryAgent.Python.Digits
import RecoveryAgent.Python.Values

/-!
# Lines

`str.splitlines` cuts a text at its line breaks, and takes `\r\n` for one break. Lines
without breaks that are joined by `\n` are cut into the same lines, but for an empty last
one.
-/

namespace RecoveryAgent.Python

/-- The characters at which `str.splitlines` cuts. -/
def isLineBreak (c : Char) : Bool :=
  c.toNat ∈ [0x0A, 0x0B, 0x0C, 0x0D, 0x1C, 0x1D, 0x1E, 0x85, 0x2028, 0x2029]

/-- The lines of a text from the letters of the first one, read backwards. The flag says
that the last letter was `\r`. -/
def cutLines : List Char → Bool → List Char → List (List Char)
  | line, _, [] => if line = [] then [] else [line.reverse]
  | line, afterReturn, c :: text =>
      if afterReturn && c = '\n' then cutLines line false text
      else if isLineBreak c then line.reverse :: cutLines [] (c = '\r') text
      else cutLines (c :: line) false text

/-- `s.splitlines()`. -/
def splitLines (s : String) : List String :=
  (cutLines [] false s.toList).map String.ofList

def OneLine (s : String) : Prop := ∀ c ∈ s.toList, isLineBreak c = false

instance (s : String) : Decidable (OneLine s) :=
  inferInstanceAs (Decidable (∀ c ∈ s.toList, isLineBreak c = false))

theorem OneLine.append {s t : String} (hs : OneLine s) (ht : OneLine t) : OneLine (s ++ t) := by
  intro c hc
  rw [String.toList_append, List.mem_append] at hc
  exact hc.elim (hs c) (ht c)

theorem cutLines_letters {line : List Char} (h : ∀ c ∈ line, isLineBreak c = false)
    (before text : List Char) :
    cutLines before false (line ++ text) = cutLines (line.reverse ++ before) false text := by
  induction line generalizing before with
  | nil => rfl
  | cons c line ih =>
      have hc : isLineBreak c = false := h c List.mem_cons_self
      rw [List.cons_append, cutLines, Bool.false_and, if_neg Bool.false_ne_true, hc,
        if_neg Bool.false_ne_true, ih fun d hd => h d (List.mem_cons_of_mem c hd),
        List.reverse_cons, List.append_assoc, List.singleton_append]

theorem cutLines_line {line : List Char} (h : ∀ c ∈ line, isLineBreak c = false)
    (text : List Char) :
    cutLines [] false (line ++ '\n' :: text) = line :: cutLines [] false text := by
  rw [cutLines_letters h, cutLines, Bool.false_and, if_neg Bool.false_ne_true,
    if_pos (by decide), List.append_nil, List.reverse_reverse]
  rfl

theorem cutLines_last {line : List Char} (h : ∀ c ∈ line, isLineBreak c = false)
    (hne : line ≠ []) : cutLines [] false line = [line] := by
  have hcut := cutLines_letters h [] []
  rw [List.append_nil, List.append_nil] at hcut
  rw [hcut, cutLines, if_neg (by simpa using hne), List.reverse_reverse]

/-- Lines that are joined are cut apart again. -/
theorem splitLines_intercalate {lines : List String} (hlines : ∀ s ∈ lines, OneLine s)
    {last : String} (hlast : OneLine last) (hne : last ≠ "") :
    splitLines (String.intercalate "\n" (lines ++ [last])) = lines ++ [last] := by
  rw [splitLines, String.toList_intercalate]
  induction lines with
  | nil =>
      have hletters : last.toList ≠ [] := by simpa using hne
      simp [cutLines_last hlast hletters]
  | cons line lines ih =>
      obtain ⟨next, rest, hrest⟩ := List.exists_cons_of_ne_nil
        (List.append_ne_nil_of_right_ne_nil lines (List.cons_ne_nil last []))
      have hjoined : ("\n".toList).intercalate ((line :: lines ++ [last]).map String.toList) =
          line.toList ++ '\n' ::
            ("\n".toList).intercalate ((lines ++ [last]).map String.toList) := by
        rw [List.cons_append, hrest, List.map_cons, List.map_cons, List.intercalate_cons_cons,
          List.append_assoc]
        rfl
      rw [hjoined, cutLines_line (hlines line List.mem_cons_self), List.map_cons,
        ih fun s hs => hlines s (List.mem_cons_of_mem line hs), String.ofList_toList]
      rfl

/-!
## Words
-/

/-- A text without whitespace. -/
def Word (s : String) : Prop := ∀ c ∈ s.toList, isSpace c = false

instance (s : String) : Decidable (Word s) :=
  inferInstanceAs (Decidable (∀ c ∈ s.toList, isSpace c = false))

theorem isLineBreak_of_isSpace {c : Char} (h : isSpace c = false) : isLineBreak c = false := by
  have hbreaks : ∀ n ∈ [0x0A, 0x0B, 0x0C, 0x0D, 0x1C, 0x1D, 0x1E, 0x85, 0x2028, 0x2029],
      isSpace (Char.ofNat n) = true := by
    decide
  refine decide_eq_false fun hmem => ?_
  have hspace := hbreaks c.toNat hmem
  rw [Char.ofNat_toNat, h] at hspace
  cases hspace

theorem isSpace_of_isDigit {c : Char} (h : c.isDigit = true) : isSpace c = false := by
  have hletters : ∀ n < 0x3A, 0x30 ≤ n → isSpace (Char.ofNat n) = false := by decide
  simp only [Char.isDigit, Bool.and_eq_true, decide_eq_true_eq] at h
  have hletter := hletters c.toNat
    ((UInt32.le_iff_toNat_le.1 (Char.le_def.1 h.2)).trans_lt (by decide))
    (UInt32.le_iff_toNat_le.1 (Char.le_def.1 h.1))
  rwa [Char.ofNat_toNat] at hletter

theorem Word.oneLine {s : String} (h : Word s) : OneLine s :=
  fun c hc => isLineBreak_of_isSpace (h c hc)

theorem Word.append {s t : String} (hs : Word s) (ht : Word t) : Word (s ++ t) := by
  intro c hc
  rw [String.toList_append, List.mem_append] at hc
  exact hc.elim (hs c) (ht c)

theorem word_of_digits {s : String} (h : ∀ c ∈ s.toList, c.isDigit = true) : Word s :=
  fun c hc => isSpace_of_isDigit (h c hc)

theorem word_padded (width : ℕ) (n : ℤ) : Word (padded width n) :=
  word_of_digits fun _ hc => isDigit_of_mem_padded hc

theorem word_toString_nat (n : ℕ) : Word (toString n) := by
  refine word_of_digits fun c hc => ?_
  have hdigits : (toString n).toList = Nat.toDigits 10 n := Nat.toList_repr
  rw [hdigits] at hc
  exact Nat.isDigit_of_mem_toDigits (by decide) (by decide) hc

theorem word_toString_int (i : ℤ) : Word (toString i) := by
  intro c hc
  by_cases hdigit : c.isDigit = true
  · exact isSpace_of_isDigit hdigit
  · have hsign : c = '-' := by
      by_contra hne
      exact not_mem_toString_int (Bool.eq_false_iff.2 hdigit) hne i hc
    rw [hsign]
    decide

end RecoveryAgent.Python
