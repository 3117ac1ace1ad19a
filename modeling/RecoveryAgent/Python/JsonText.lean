import Mathlib.Data.List.Basic
import RecoveryAgent.Python.Digits

/-!
# JSON texts

`json.dumps` of a value, and which texts stand for a value, as far as `json.loads` can be
held to it: a string stands for its own letters and escapes, and a later member of an
object replaces an earlier one of the same name. The text of a value stands for it, and
every backslash in it begins an escape.
-/

namespace RecoveryAgent.Python

/-- A property of the letters of a list is decided letter by letter, and not for all the
letters there are. -/
instance (priority := high) decidableForallMem (text : List Char) (p : Char → Prop)
    [DecidablePred p] : Decidable (∀ c ∈ text, p c) := List.decidableBAll p text

/-!
## Escapes
-/

/-- The letters with an escape of their own. -/
def shortEscapes : List (Char × Char) :=
  [('"', '"'), ('\\', '\\'), ('\n', 'n'), ('\r', 'r'), ('\t', 't'), (Char.ofNat 0x0C, 'f'),
    (Char.ofNat 0x08, 'b')]

def hexDigits : List Char := "0123456789abcdef".toList

def hexDigit (k : ℕ) : Char := hexDigits.getD k '0'

/-- The value of a hexadecimal digit in either case. -/
def hexValue? (c : Char) : Option ℕ :=
  if '0' ≤ c ∧ c ≤ '9' then some (c.toNat - 48)
  else if 'a' ≤ c ∧ c ≤ 'f' then some (c.toNat - 87)
  else if 'A' ≤ c ∧ c ≤ 'F' then some (c.toNat - 55)
  else none

/-- `\uXXXX`. -/
def unicodeEscape (n : ℕ) : List Char :=
  ['\\', 'u', hexDigit (n / 4096 % 16), hexDigit (n / 256 % 16), hexDigit (n / 16 % 16),
    hexDigit (n % 16)]

/-- The code unit that four digits stand for. -/
def codeUnit? (a b c d : Char) : Option ℕ := do
  let a ← hexValue? a
  let b ← hexValue? b
  let c ← hexValue? c
  let d ← hexValue? d
  return 4096 * a + 256 * b + 16 * c + d

/-- The code units of a letter: one, or the two surrogates. -/
def codeUnits (c : Char) : List ℕ :=
  if c.toNat < 0x10000 then [c.toNat]
  else [0xD800 + (c.toNat - 0x10000) / 0x400, 0xDC00 + (c.toNat - 0x10000) % 0x400]

/-- The letters that are written as they are, unless they have an escape of their own. -/
def isPrintable (n : ℕ) : Bool := 0x20 ≤ n && n ≤ 0x7E

/-- How `json.dumps` writes a letter, with `ensure_ascii`. -/
def escapeText (c : Char) : List Char :=
  match shortEscapes.lookup c with
  | some e => ['\\', e]
  | none => if isPrintable c.toNat then [c] else (codeUnits c).flatMap unicodeEscape

/-- The text of a string. -/
def quoted (s : String) : List Char := '"' :: (s.toList.flatMap escapeText ++ ['"'])

/-!
## Texts of values
-/

def Json.isScalar : Json → Bool
  | .str _ => false
  | .arr _ => false
  | .obj _ => false
  | _ => true

/-- The letters of numbers, of `NaN` and of the other names. -/
def isScalarChar (c : Char) : Bool := c.isAlphanum || c ∈ ['+', '-', '.']

structure FloatRepr where
  text : PyFloat → List Char
  text_chars : ∀ x, ∀ c ∈ text x, isScalarChar c = true

section

variable (repr : FloatRepr)

mutual

/-- `json.dumps(v)`. -/
def dumps : Json → List Char
  | .null => "null".toList
  | .bool b => if b then "true".toList else "false".toList
  | .int i => (toString i).toList
  | .float x => repr.text x
  | .str s => quoted s
  | .arr xs => '[' :: (dumpsItems [] xs ++ [']'])
  | .obj d => '{' :: (dumpsMembers [] d ++ ['}'])

/-- The items of an array, each after the separator. -/
def dumpsItems : List Char → List Json → List Char
  | _, [] => []
  | separator, v :: vs => separator ++ (dumps v ++ dumpsItems [',', ' '] vs)

/-- The members of an object, each after the separator. -/
def dumpsMembers : List Char → List (String × Json) → List Char
  | _, [] => []
  | separator, (key, v) :: d =>
      separator ++ (quoted key ++ (':' :: ' ' :: (dumps v ++ dumpsMembers [',', ' '] d)))

end

end

inductive StringText : List Char → List Char → Prop where
  | nil : StringText [] []
  | plain {c : Char} {u s : List Char} (quote : c ≠ '"') (backslash : c ≠ '\\')
      (control : 0x20 ≤ c.toNat) : StringText u s → StringText (c :: u) (c :: s)
  | short {c e : Char} {u s : List Char} (escape : (c, e) ∈ ('/', '/') :: shortEscapes) :
      StringText u s → StringText ('\\' :: e :: u) (c :: s)
  | unit {x a b c d : Char} {n : ℕ} {u s : List Char} (digits : codeUnit? a b c d = some n)
      (units : codeUnits x = [n]) :
      StringText u s → StringText ('\\' :: 'u' :: a :: b :: c :: d :: u) (x :: s)
  | pair {x a b c d a' b' c' d' : Char} {n n' : ℕ} {u s : List Char}
      (high : codeUnit? a b c d = some n) (low : codeUnit? a' b' c' d' = some n')
      (units : codeUnits x = [n, n']) :
      StringText u s →
        StringText ('\\' :: 'u' :: a :: b :: c :: d ::
          '\\' :: 'u' :: a' :: b' :: c' :: d' :: u) (x :: s)

def isJsonSpace (c : Char) : Bool := c ∈ [' ', '\t', '\n', '\r']

/-- Texts with commas between them. -/
def commaSeparated : List (List Char) → List Char
  | [] => []
  | [t] => t
  | t :: u :: ts => t ++ ',' :: commaSeparated (u :: ts)

/-- A text and what it stands for. -/
abbrev Reading (α : Type) := List Char × α

/-- A dictionary of members, in which the last one of each name counts. -/
def dictOf (members : List (String × Json)) : Fields :=
  members.foldl (fun d member => Fields.set d member.1 member.2) []

/-- A text stands for a value. Of the numbers and names only the alphabet is said. -/
inductive JsonText : List Char → Json → Prop where
  | scalar {t : List Char} {v : Json} (chars : ∀ c ∈ t, isScalarChar c = true)
      (scalar : v.isScalar = true) : JsonText t v
  | str {u : List Char} {s : String} (letters : StringText u s.toList) :
      JsonText ('"' :: (u ++ ['"'])) (.str s)
  | arr {space : List Char} (blank : ∀ c ∈ space, isJsonSpace c = true)
      (items : List (Reading Json)) (read : ∀ item ∈ items, JsonText item.1 item.2) :
      JsonText ('[' :: (space ++ (commaSeparated (items.map Prod.fst) ++ [']'])))
        (.arr (items.map Prod.snd))
  | obj {space : List Char} (blank : ∀ c ∈ space, isJsonSpace c = true)
      (members : List (Reading String × Reading Json))
      (names : ∀ member ∈ members, JsonText member.1.1 (.str member.1.2))
      (read : ∀ member ∈ members, JsonText member.2.1 member.2.2) :
      JsonText
        ('{' :: (space ++ (commaSeparated
          (members.map fun member => member.1.1 ++ ':' :: member.2.1) ++ ['}'])))
        (.obj (dictOf (members.map fun member => (member.1.2, member.2.2))))
  | pad {before t after : List Char} {v : Json} (left : ∀ c ∈ before, isJsonSpace c = true)
      (right : ∀ c ∈ after, isJsonSpace c = true) (text : JsonText t v) :
      JsonText (before ++ (t ++ after)) v

/-- The text of an integer is its digits and a sign. -/
theorem toString_int_chars (i : ℤ) : ∀ c ∈ (toString i).toList, isScalarChar c = true := by
  intro c hc
  have hdigit : c.isDigit = true ∨ c = '-' := by
    by_contra hno
    obtain ⟨hdigit, hsign⟩ := not_or.1 hno
    exact not_mem_toString_int (Bool.eq_false_iff.2 hdigit) hsign i hc
  rcases hdigit with hdigit | rfl
  · simp [isScalarChar, Char.isAlphanum, hdigit]
  · decide

section

variable (repr : FloatRepr)

/-- The text of a scalar has the letters of scalars only. -/
theorem dumps_chars {v : Json} (h : v.isScalar = true) :
    ∀ c ∈ dumps repr v, isScalarChar c = true := by
  cases v with
  | null =>
      rw [dumps]
      decide
  | bool b =>
      rw [dumps]
      revert b
      decide
  | int i => exact toString_int_chars i
  | float x => exact repr.text_chars x
  | str s => cases h
  | arr xs => cases h
  | obj d => cases h

end

/-!
## Texts with whole escapes

In such a text every backslash begins an escape as `json.dumps` writes them. What stands
before and after a letter that no escape has is again such a text.
-/

/-- An escape of `json.dumps`. -/
inductive Escape : List Char → Prop where
  | short {e : Char} (known : e ∈ shortEscapes.map Prod.snd) : Escape ['\\', e]
  | unit {a b c d : Char} {n : ℕ} (digits : codeUnit? a b c d = some n)
      (unprintable : isPrintable n = false) : Escape ['\\', 'u', a, b, c, d]

inductive Escaped : List Char → Prop where
  | nil : Escaped []
  | letter {c : Char} {t : List Char} (backslash : c ≠ '\\') : Escaped t → Escaped (c :: t)
  | escape {e t : List Char} (whole : Escape e) : Escaped t → Escaped (e ++ t)

def isEscapeChar (c : Char) : Bool :=
  c = '\\' || c = 'u' || c ∈ shortEscapes.map Prod.snd || (hexValue? c).isSome

theorem lt_of_isEscapeChar {c : Char} (h : isEscapeChar c = true) : c.toNat < 0x80 := by
  have hshort : ∀ e ∈ shortEscapes.map Prod.snd, e.toNat < 0x80 := by decide
  simp only [isEscapeChar, Bool.or_eq_true, decide_eq_true_eq] at h
  rcases h with ((rfl | rfl) | hknown) | hdigit
  · decide
  · decide
  · exact hshort c hknown
  · unfold hexValue? at hdigit
    split at hdigit
    · next h => exact (UInt32.le_iff_toNat_le.1 (Char.le_def.1 h.2)).trans_lt (by decide)
    · split at hdigit
      · next h => exact (UInt32.le_iff_toNat_le.1 (Char.le_def.1 h.2)).trans_lt (by decide)
      · split at hdigit
        · next h => exact (UInt32.le_iff_toNat_le.1 (Char.le_def.1 h.2)).trans_lt (by decide)
        · cases hdigit

/-- No whitespace is a letter of an escape. -/
theorem isEscapeChar_of_isSpace {c : Char} (h : isSpace c = true) : isEscapeChar c = false := by
  have hletters : ∀ n < 0x80, isSpace (Char.ofNat n) = true →
      isEscapeChar (Char.ofNat n) = false := by
    decide
  by_contra hescape
  rw [Bool.not_eq_false] at hescape
  have hletter := hletters c.toNat (lt_of_isEscapeChar hescape)
  rw [Char.ofNat_toNat] at hletter
  exact Bool.false_ne_true ((hletter h).symm.trans hescape)

theorem Escape.chars {e : List Char} (h : Escape e) : ∀ c ∈ e, isEscapeChar c = true := by
  cases h with
  | short known =>
      intro c hc
      simp only [List.mem_cons, List.not_mem_nil, or_false] at hc
      rcases hc with rfl | rfl
      · decide
      · rw [isEscapeChar, decide_eq_true known, Bool.or_true, Bool.true_or]
  | unit digits _ =>
      simp only [codeUnit?, Option.pure_def, Option.bind_eq_bind, Option.bind_eq_some_iff] at digits
      obtain ⟨a, ha, b, hb, c, hc, d, hd, -⟩ := digits
      simp [isEscapeChar, ha, hb, hc, hd]

namespace Escaped

theorem append {t u : List Char} (ht : Escaped t) (hu : Escaped u) : Escaped (t ++ u) := by
  induction ht with
  | nil => exact hu
  | letter backslash _ ih => exact .letter backslash ih
  | escape whole _ ih =>
      rw [List.append_assoc]
      exact .escape whole ih

theorem of_no_backslash {t : List Char} (h : '\\' ∉ t) : Escaped t := by
  induction t with
  | nil => exact .nil
  | cons c t ih =>
      rw [List.mem_cons, not_or] at h
      exact .letter (Ne.symm h.1) (ih h.2)

/-- A backslash begins an escape. -/
theorem of_backslash {e : Char} {t : List Char} (h : Escaped ('\\' :: e :: t)) :
    (e ∈ shortEscapes.map Prod.snd ∧ Escaped t) ∨
      ∃ a b c d n u, e = 'u' ∧ t = a :: b :: c :: d :: u ∧ codeUnit? a b c d = some n ∧
        isPrintable n = false ∧ Escaped u := by
  generalize htext : '\\' :: e :: t = text at h
  cases h with
  | nil => cases htext
  | letter backslash _ => exact absurd (List.cons.inj htext).1.symm backslash
  | escape whole rest =>
      cases whole with
      | short known =>
          obtain ⟨rfl, rfl⟩ := List.cons.inj (List.cons.inj htext).2
          exact Or.inl ⟨known, rest⟩
      | unit digits unprintable =>
          obtain ⟨rfl, rfl⟩ := List.cons.inj (List.cons.inj htext).2
          exact Or.inr ⟨_, _, _, _, _, _, rfl, rfl, digits, unprintable, rest⟩

theorem of_short {e : Char} {t : List Char} (h : Escaped ('\\' :: e :: t)) (he : e ≠ 'u') :
    Escaped t := by
  rcases h.of_backslash with ⟨-, hrest⟩ | ⟨a, b, c, d, n, u, hunit, -⟩
  · exact hrest
  · exact absurd hunit he

theorem of_unit {a b c d : Char} {t : List Char}
    (h : Escaped ('\\' :: 'u' :: a :: b :: c :: d :: t)) :
    ∃ n, codeUnit? a b c d = some n ∧ isPrintable n = false ∧ Escaped t := by
  rcases h.of_backslash with ⟨hknown, -⟩ | ⟨a', b', c', d', n, u, -, heq, hdigits, hrest⟩
  · exact absurd hknown (by decide)
  · cases heq
    exact ⟨n, hdigits, hrest⟩

theorem tail {c : Char} {t : List Char} (h : Escaped (c :: t)) (hc : c ≠ '\\') : Escaped t := by
  generalize htext : c :: t = text at h
  cases h with
  | nil => cases htext
  | letter _ rest =>
      rw [(List.cons.inj htext).2]
      exact rest
  | escape whole _ =>
      cases whole with
      | short _ => exact absurd (List.cons.inj htext).1 hc
      | unit _ _ => exact absurd (List.cons.inj htext).1 hc

theorem of_append_left {t u : List Char} (h : Escaped (t ++ u)) (ht : '\\' ∉ t) : Escaped u := by
  induction t with
  | nil => exact h
  | cons c t ih =>
      rw [List.mem_cons, not_or] at ht
      exact ih (h.tail (Ne.symm ht.1)) ht.2

/-- The text before a letter that no escape has, and the text after it. -/
theorem split {t : List Char} {c : Char} {u : List Char} (h : Escaped (t ++ c :: u))
    (hc : isEscapeChar c = false) : Escaped t ∧ Escaped u := by
  generalize htext : t ++ c :: u = text at h
  induction h generalizing t with
  | nil => cases List.append_eq_nil_iff.1 htext |>.2
  | @letter d rest backslash hrest ih =>
      cases t with
      | nil =>
          obtain ⟨-, rfl⟩ := List.cons.inj htext
          exact ⟨.nil, hrest⟩
      | cons x t =>
          obtain ⟨rfl, hrest'⟩ := List.cons.inj htext
          obtain ⟨hbefore, hafter⟩ := ih hrest'
          exact ⟨.letter backslash hbefore, hafter⟩
  | @escape e rest whole hrest ih =>
      rcases List.append_eq_append_iff.1 htext with ⟨inside, rfl, hsplit⟩ | ⟨inside, rfl, hsplit⟩
      · cases inside with
        | nil =>
            obtain ⟨-, hafter⟩ := ih (t := []) hsplit
            rw [List.append_nil] at whole
            exact ⟨by simpa using Escaped.escape whole .nil, hafter⟩
        | cons d inside =>
            -- the letter would be one of the escape
            obtain ⟨rfl, -⟩ := List.cons.inj hsplit
            have hletter := whole.chars c (by simp)
            rw [hc] at hletter
            exact absurd hletter Bool.false_ne_true
      · obtain ⟨hbefore, hafter⟩ := ih hsplit.symm
        exact ⟨.escape whole hbefore, hafter⟩

end Escaped

/-!
## What is dumped has whole escapes
-/

theorem hexValue?_hexDigit {k : ℕ} (h : k < 16) : hexValue? (hexDigit k) = some k := by
  revert k
  decide

theorem codeUnit?_digits {n : ℕ} (h : n < 0x10000) :
    codeUnit? (hexDigit (n / 4096 % 16)) (hexDigit (n / 256 % 16)) (hexDigit (n / 16 % 16))
      (hexDigit (n % 16)) = some n := by
  have hvalue :
      4096 * (n / 4096 % 16) + 256 * (n / 256 % 16) + 16 * (n / 16 % 16) + n % 16 = n := by
    omega
  have hdigit (k : ℕ) := hexValue?_hexDigit (Nat.mod_lt k (by decide : 16 > 0))
  rw [codeUnit?, hdigit, hdigit, hdigit, hdigit]
  exact congrArg some hvalue

theorem codeUnits_of_le {c : Char} (h : 0x10000 ≤ c.toNat) : codeUnits c =
    [0xD800 + (c.toNat - 0x10000) / 0x400, 0xDC00 + (c.toNat - 0x10000) % 0x400] :=
  if_neg (Nat.not_lt_of_le h)

theorem codeUnits_lt (c : Char) : ∀ n ∈ codeUnits c, n < 0x10000 := by
  have hrange : c.toNat < 0x110000 := by
    rcases c.valid with h | h
    · exact h.trans (by decide)
    · exact h.2
  unfold codeUnits
  split
  · next h => simpa using h
  · simp only [List.mem_cons, List.not_mem_nil, or_false, forall_eq_or_imp, forall_eq]
    omega

theorem codeUnits_printable {c : Char} (h : isPrintable c.toNat = true) :
    codeUnits c = [c.toNat] := by
  rw [isPrintable, Bool.and_eq_true, decide_eq_true_eq, decide_eq_true_eq] at h
  exact if_pos (by omega)

theorem codeUnits_unprintable {c : Char} (h : isPrintable c.toNat = false) :
    ∀ n ∈ codeUnits c, isPrintable n = false := by
  unfold codeUnits
  split
  · simpa using h
  · simp only [List.mem_cons, List.not_mem_nil, or_false, forall_eq_or_imp, forall_eq, isPrintable,
      Bool.and_eq_false_iff, decide_eq_false_iff_not]
    omega

theorem escaped_unicodeEscapes {units : List ℕ} (h : ∀ n ∈ units, n < 0x10000)
    (h' : ∀ n ∈ units, isPrintable n = false) : Escaped (units.flatMap unicodeEscape) := by
  induction units with
  | nil => exact .nil
  | cons n units ih =>
      rw [List.flatMap_cons]
      refine .escape (.unit (codeUnit?_digits (h n List.mem_cons_self))
        (h' n List.mem_cons_self)) (ih ?_ ?_)
      · exact fun m hm => h m (List.mem_cons_of_mem n hm)
      · exact fun m hm => h' m (List.mem_cons_of_mem n hm)

theorem escaped_escapeText (c : Char) : Escaped (escapeText c) := by
  unfold escapeText
  cases hlookup : shortEscapes.lookup c with
  | some e =>
      obtain ⟨before, after, hsplit, -⟩ := List.lookup_eq_some_iff.1 hlookup
      have hmem : e ∈ shortEscapes.map Prod.snd :=
        List.mem_map.2 ⟨(c, e), by rw [hsplit]; simp, rfl⟩
      exact .escape (.short hmem) .nil
  | none =>
      simp only
      split
      · refine .letter ?_ .nil
        rintro rfl
        exact absurd hlookup (by decide)
      · next hunprintable =>
          rw [Bool.not_eq_true] at hunprintable
          exact escaped_unicodeEscapes (codeUnits_lt c) (codeUnits_unprintable hunprintable)

theorem escaped_quoted (s : String) : Escaped (quoted s) := by
  have hletters : Escaped (s.toList.flatMap escapeText) := by
    induction s.toList with
    | nil => exact .nil
    | cons c cs ih =>
        rw [List.flatMap_cons]
        exact (escaped_escapeText c).append ih
  exact .letter (by decide) (hletters.append (.letter (by decide) .nil))

theorem escaped_of_scalar_chars {t : List Char} (h : ∀ c ∈ t, isScalarChar c = true) :
    Escaped t :=
  .of_no_backslash fun hmem => absurd (h _ hmem) (by decide)

section

variable (repr : FloatRepr)

mutual

theorem escaped_dumps : ∀ v : Json, Escaped (dumps repr v)
  | .str s => escaped_quoted s
  | .arr xs =>
      .letter (by decide) ((escaped_dumpsItems xs [] .nil).append (.letter (by decide) .nil))
  | .obj d =>
      .letter (by decide) ((escaped_dumpsMembers d [] .nil).append (.letter (by decide) .nil))
  | .null => escaped_of_scalar_chars (dumps_chars repr rfl)
  | .bool _ => escaped_of_scalar_chars (dumps_chars repr rfl)
  | .int _ => escaped_of_scalar_chars (dumps_chars repr rfl)
  | .float _ => escaped_of_scalar_chars (dumps_chars repr rfl)

theorem escaped_dumpsItems : ∀ (vs : List Json) (separator : List Char),
    Escaped separator → Escaped (dumpsItems repr separator vs)
  | [], _, _ => .nil
  | v :: vs, separator, hseparator =>
      hseparator.append ((escaped_dumps v).append
        (escaped_dumpsItems vs [',', ' '] (.of_no_backslash (by decide))))

theorem escaped_dumpsMembers : ∀ (d : List (String × Json)) (separator : List Char),
    Escaped separator → Escaped (dumpsMembers repr separator d)
  | [], _, _ => .nil
  | (key, v) :: d, separator, hseparator =>
      hseparator.append ((escaped_quoted key).append (.letter (by decide) (.letter (by decide)
        ((escaped_dumps v).append
          (escaped_dumpsMembers d [',', ' '] (.of_no_backslash (by decide)))))))

end

end

/-!
## What is dumped stands for its value
-/

theorem stringText_flatMap (s : List Char) : StringText (s.flatMap escapeText) s := by
  induction s with
  | nil => exact .nil
  | cons c s ih =>
      rw [List.flatMap_cons, escapeText]
      cases hlookup : shortEscapes.lookup c with
      | some e =>
          obtain ⟨before, after, hsplit, -⟩ := List.lookup_eq_some_iff.1 hlookup
          have hmem : (c, e) ∈ shortEscapes := by
            rw [hsplit]
            simp
          exact .short (List.mem_cons_of_mem _ hmem) ih
      | none =>
          simp only
          split
          · next hprintable =>
              rw [isPrintable, Bool.and_eq_true, decide_eq_true_eq] at hprintable
              refine .plain ?_ ?_ hprintable.1 ih
              · rintro rfl
                exact absurd hlookup (by decide)
              · rintro rfl
                exact absurd hlookup (by decide)
          · have hlt := codeUnits_lt c
            by_cases hone : c.toNat < 0x10000
            · have hunits : codeUnits c = [c.toNat] := if_pos hone
              rw [hunits]
              exact .unit (codeUnit?_digits hone) hunits ih
            · have hunits := codeUnits_of_le (Nat.le_of_not_lt hone)
              rw [hunits] at hlt ⊢
              exact .pair (codeUnit?_digits (hlt _ List.mem_cons_self))
                (codeUnit?_digits (hlt _ (List.mem_cons_of_mem _ List.mem_cons_self))) hunits ih

theorem jsonText_quoted (s : String) : JsonText (quoted s) (.str s) :=
  .str (stringText_flatMap s.toList)

theorem JsonText.blank {t : List Char} {v : Json} (h : JsonText t v) : JsonText (' ' :: t) v := by
  have hpad : JsonText ([' '] ++ (t ++ [])) v := .pad (by decide) nofun h
  rwa [List.append_nil] at hpad

mutual

def hasDistinctKeys : Json → Bool
  | .arr xs => haveDistinctKeys xs
  | .obj d => membersDistinct d
  | .null => true
  | .bool _ => true
  | .int _ => true
  | .float _ => true
  | .str _ => true

def haveDistinctKeys : List Json → Bool
  | [] => true
  | v :: vs => hasDistinctKeys v && haveDistinctKeys vs

def membersDistinct : List (String × Json) → Bool
  | [] => true
  | (key, v) :: d => !(d.any fun member => member.1 = key) && hasDistinctKeys v && membersDistinct d

end

theorem set_of_new {d : Fields} {key : String} (h : ∀ member ∈ d, member.1 ≠ key) (v : Json) :
    Fields.set d key v = d ++ [(key, v)] := by
  induction d with
  | nil => rfl
  | cons member d ih =>
      rw [Fields.set, if_neg (h member List.mem_cons_self),
        ih fun other hother => h other (List.mem_cons_of_mem member hother)]
      rfl

theorem dictOf_of_distinct {members : List (String × Json)} (h : membersDistinct members = true) :
    dictOf members = members := by
  have hfold : ∀ d : Fields, (∀ member ∈ members, ∀ other ∈ d, other.1 ≠ member.1) →
      members.foldl (fun d member => Fields.set d member.1 member.2) d = d ++ members := by
    induction members with
    | nil => simp
    | cons member members ih =>
        intro d hnew
        rw [membersDistinct, Bool.and_eq_true, Bool.and_eq_true, Bool.not_eq_true',
          List.any_eq_false] at h
        rw [List.foldl_cons, set_of_new (hnew member List.mem_cons_self), ih h.2,
          List.append_assoc, List.singleton_append]
        intro later hlater other hother
        rcases List.mem_append.1 hother with hother | hother
        · exact hnew later (List.mem_cons_of_mem member hlater) other hother
        · rw [List.mem_singleton.1 hother]
          exact fun hsame => h.1.1 later hlater (decide_eq_true hsame.symm)
  exact hfold [] fun _ _ _ hother => nomatch hother

section

variable (repr : FloatRepr)

theorem commaSeparated_items (t : List Char) (vs : List Json) :
    commaSeparated (t :: vs.map fun v => ' ' :: dumps repr v) =
      t ++ dumpsItems repr [',', ' '] vs := by
  induction vs generalizing t with
  | nil => simp [commaSeparated, dumpsItems]
  | cons v vs ih =>
      rw [List.map_cons, commaSeparated, ih, dumpsItems]
      rfl

theorem commaSeparated_members (t : List Char) (d : List (String × Json)) :
    commaSeparated (t :: d.map fun member =>
        ' ' :: (quoted member.1 ++ ':' :: ' ' :: dumps repr member.2)) =
      t ++ dumpsMembers repr [',', ' '] d := by
  induction d generalizing t with
  | nil => simp [commaSeparated, dumpsMembers]
  | cons member d ih =>
      rw [List.map_cons, commaSeparated, ih, dumpsMembers]
      simp

variable {repr} in
/-- The text of an array stands for its items. -/
theorem jsonText_arr {vs : List Json} (h : ∀ v ∈ vs, JsonText (dumps repr v) v) :
    JsonText (dumps repr (.arr vs)) (.arr vs) := by
  rw [dumps]
  cases vs with
  | nil => exact @JsonText.arr [] nofun [] nofun
  | cons v vs =>
      have hread := @JsonText.arr [] nofun
        ((dumps repr v, v) :: vs.map fun w => (' ' :: dumps repr w, w)) (by
          intro item hitem
          rcases List.mem_cons.1 hitem with rfl | hitem
          · exact h v List.mem_cons_self
          · obtain ⟨w, hw, rfl⟩ := List.mem_map.1 hitem
            exact (h w (List.mem_cons_of_mem v hw)).blank)
      simp only [List.map_cons, List.map_map, Function.comp_def, List.map_id',
        commaSeparated_items, List.nil_append] at hread
      rw [dumpsItems, List.nil_append]
      exact hread

variable {repr} in
/-- The text of an object stands for its members, when their names are distinct. -/
theorem jsonText_obj {d : List (String × Json)} (hdistinct : membersDistinct d = true)
    (h : ∀ member ∈ d, JsonText (dumps repr member.2) member.2) :
    JsonText (dumps repr (.obj d)) (.obj d) := by
  rw [dumps]
  cases d with
  | nil => exact @JsonText.obj [] nofun [] nofun nofun
  | cons member d =>
      have hread := @JsonText.obj [] nofun
        (((quoted member.1, member.1), (' ' :: dumps repr member.2, member.2)) ::
          d.map fun member =>
            ((' ' :: quoted member.1, member.1), (' ' :: dumps repr member.2, member.2)))
        (by
          intro reading hreading
          rcases List.mem_cons.1 hreading with rfl | hreading
          · exact jsonText_quoted member.1
          · obtain ⟨other, -, rfl⟩ := List.mem_map.1 hreading
            exact (jsonText_quoted other.1).blank)
        (by
          intro reading hreading
          rcases List.mem_cons.1 hreading with rfl | hreading
          · exact (h member List.mem_cons_self).blank
          · obtain ⟨other, hother, rfl⟩ := List.mem_map.1 hreading
            exact (h other (List.mem_cons_of_mem member hother)).blank)
      simp only [List.map_cons, List.map_map, Function.comp_def, List.map_id',
        List.cons_append, commaSeparated_members, List.nil_append] at hread
      rw [dictOf_of_distinct hdistinct] at hread
      rw [dumpsMembers, List.nil_append]
      simpa using hread

mutual

/-- The text of a value stands for it. -/
theorem jsonText_dumps : ∀ v : Json, hasDistinctKeys v = true → JsonText (dumps repr v) v
  | .str s, _ => jsonText_quoted s
  | .arr xs, h => jsonText_arr (jsonText_items xs h)
  | .obj d, h => jsonText_obj h (jsonText_members d h)
  | .null, _ => .scalar (dumps_chars repr rfl) rfl
  | .bool _, _ => .scalar (dumps_chars repr rfl) rfl
  | .int _, _ => .scalar (dumps_chars repr rfl) rfl
  | .float _, _ => .scalar (dumps_chars repr rfl) rfl

theorem jsonText_items : ∀ vs : List Json, haveDistinctKeys vs = true →
    ∀ v ∈ vs, JsonText (dumps repr v) v
  | [], _ => nofun
  | v :: vs, h => by
      rw [haveDistinctKeys, Bool.and_eq_true] at h
      intro w hw
      rcases List.mem_cons.1 hw with hw | hw
      · rw [hw]
        exact jsonText_dumps v h.1
      · exact jsonText_items vs h.2 w hw

theorem jsonText_members : ∀ d : List (String × Json), membersDistinct d = true →
    ∀ member ∈ d, JsonText (dumps repr member.2) member.2
  | [], _ => nofun
  | (key, v) :: d, h => by
      rw [membersDistinct, Bool.and_eq_true, Bool.and_eq_true] at h
      intro member hmember
      rcases List.mem_cons.1 hmember with hmember | hmember
      · rw [hmember]
        exact jsonText_dumps v h.1.2
      · exact jsonText_members d h.2 member hmember

end

end

end RecoveryAgent.Python
