import Mathlib.Data.List.Count
import RecoveryAgent.Python.JsonText

/-!
# The letters of a JSON text

Nothing that is read from a text comes from nowhere. The letters of markup are written as
they are: a text of `json.dumps` has them just as often as the strings of its value, and no
text with whole escapes has them less often than what it stands for.
-/

namespace RecoveryAgent.Python

/-!
## The letters of a value
-/

section

variable (z : Char)

mutual

/-- How often a letter occurs in the strings and names of a value. -/
def letters : Json → ℕ
  | .str s => s.toList.count z
  | .arr xs => lettersOfItems xs
  | .obj d => lettersOfMembers d
  | .null => 0
  | .bool _ => 0
  | .int _ => 0
  | .float _ => 0

def lettersOfItems : List Json → ℕ
  | [] => 0
  | v :: vs => letters v + lettersOfItems vs

def lettersOfMembers : List (String × Json) → ℕ
  | [] => 0
  | (key, v) :: d => key.toList.count z + letters v + lettersOfMembers d

end

theorem letters_of_isScalar {v : Json} (h : v.isScalar = true) : letters z v = 0 := by
  cases v with
  | str s => cases h
  | arr xs => cases h
  | obj d => cases h
  | _ => rw [letters]

/-- A member that replaces another does not bring more than its own letters. -/
theorem lettersOfMembers_set (d : Fields) (key : String) (v : Json) :
    lettersOfMembers z (Fields.set d key v) ≤
      lettersOfMembers z d + (key.toList.count z + letters z v) := by
  induction d with
  | nil => simp [Fields.set, lettersOfMembers]
  | cons member d ih =>
      rw [Fields.set]
      split
      · simp only [lettersOfMembers]
        omega
      · simp only [lettersOfMembers]
        omega

theorem lettersOfMembers_dictOf (members : List (String × Json)) :
    lettersOfMembers z (dictOf members) ≤ lettersOfMembers z members := by
  have hfold : ∀ d : Fields, lettersOfMembers z
      (members.foldl (fun d member => Fields.set d member.1 member.2) d) ≤
        lettersOfMembers z d + lettersOfMembers z members := by
    induction members with
    | nil => exact fun d => Nat.le_refl _
    | cons member members ih =>
        intro d
        have hset := lettersOfMembers_set z d member.1 member.2
        have hrest := ih (Fields.set d member.1 member.2)
        rw [List.foldl_cons, lettersOfMembers]
        omega
  have hall := hfold []
  rwa [lettersOfMembers, Nat.zero_add] at hall

end

/-- The letters of a markup, which a text writes as they are or not at all. -/
def markup : List Char := ['<', '`']

section

variable {z : Char} (hz : z ∈ markup)

include hz

theorem count_of_scalar_chars {t : List Char} (h : ∀ c ∈ t, isScalarChar c = true) :
    t.count z = 0 := by
  rw [List.count_eq_zero]
  intro hmem
  have hnot : ∀ z ∈ markup, isScalarChar z = false := by decide
  exact Bool.false_ne_true ((hnot z hz).symm.trans (h z hmem))

theorem count_unicodeEscape (n : ℕ) : (unicodeEscape n).count z = 0 := by
  have hdigit : ∀ z ∈ markup, ∀ k < 16, hexDigit k ≠ z := by decide
  have hother : ∀ z ∈ markup, '\\' ≠ z ∧ 'u' ≠ z := by decide
  rw [List.count_eq_zero]
  simp only [unicodeEscape, List.mem_cons, List.not_mem_nil, or_false]
  rintro (h | h | h | h | h | h)
  · exact (hother z hz).1 h.symm
  · exact (hother z hz).2 h.symm
  all_goals exact hdigit z hz _ (Nat.mod_lt _ (by decide)) h.symm

/-- A letter of the markup is written as it is, and no other letter with it. -/
theorem count_escapeText (c : Char) : (escapeText c).count z = [c].count z := by
  have hprintable : ∀ z ∈ markup, isPrintable z.toNat = true := by decide
  unfold escapeText
  cases hlookup : shortEscapes.lookup c with
  | some e =>
      have hmem : (c, e) ∈ shortEscapes := by
        obtain ⟨before, after, hsplit, -⟩ := List.lookup_eq_some_iff.1 hlookup
        rw [hsplit]
        simp
      have hnot : ∀ z ∈ markup, ∀ pair ∈ shortEscapes, z ∉ ['\\', pair.2] ∧ z ≠ pair.1 := by
        decide
      obtain ⟨htext, hletter⟩ := hnot z hz _ hmem
      rw [List.count_eq_zero.2 htext, List.count_eq_zero.2 (by simpa using hletter)]
  | none =>
      simp only
      split
      · rfl
      · next hnot =>
          have hletter : z ≠ c := by
            rintro rfl
            exact hnot (hprintable z hz)
          have hunits : ((codeUnits c).flatMap unicodeEscape).count z = 0 := by
            rw [List.count_flatMap]
            simp [Function.comp_def, count_unicodeEscape hz]
          rw [hunits, List.count_eq_zero.2 (by simpa using hletter)]

theorem count_quoted (s : String) : (quoted s).count z = s.toList.count z := by
  have hquote : ∀ z ∈ markup, '"' ≠ z := by decide
  unfold quoted
  rw [List.count_cons_of_ne (hquote z hz), List.count_append,
    List.count_singleton, if_neg (by simpa using hquote z hz), Nat.add_zero]
  induction s.toList with
  | nil => rfl
  | cons c cs ih =>
      rw [List.flatMap_cons, List.count_append, ih, count_escapeText hz,
        ← List.count_append, List.singleton_append]

end

section

variable (repr : FloatRepr)

variable {z : Char} (hz : z ∈ markup)

include hz

theorem count_scalar_dumps {v : Json} (h : v.isScalar = true) : (dumps repr v).count z = 0 :=
  count_of_scalar_chars hz (dumps_chars repr h)

mutual

/-- `json.dumps` writes the letters of the markup as often as they occur. -/
theorem count_dumps : ∀ v : Json, (dumps repr v).count z = letters z v
  | .str s => by
      rw [dumps, letters]
      exact count_quoted hz s
  | .arr xs => by
      have hbrackets : ∀ z ∈ markup, '[' ≠ z ∧ ']' ≠ z := by decide
      have hitems := count_dumpsItems xs [] (by decide)
      rw [dumps, letters, List.count_cons_of_ne (hbrackets z hz).1, List.count_append, hitems,
        List.count_singleton, if_neg (by simpa using (hbrackets z hz).2), Nat.add_zero]
  | .obj d => by
      have hbrackets : ∀ z ∈ markup, '{' ≠ z ∧ '}' ≠ z := by decide
      have hmembers := count_dumpsMembers d [] (by decide)
      rw [dumps, letters, List.count_cons_of_ne (hbrackets z hz).1, List.count_append, hmembers,
        List.count_singleton, if_neg (by simpa using (hbrackets z hz).2), Nat.add_zero]
  | .null => count_scalar_dumps repr hz rfl
  | .bool _ => count_scalar_dumps repr hz rfl
  | .int _ => count_scalar_dumps repr hz rfl
  | .float _ => count_scalar_dumps repr hz rfl

theorem count_dumpsItems : ∀ (vs : List Json) (separator : List Char),
    (∀ z ∈ markup, z ∉ separator) →
      (dumpsItems repr separator vs).count z = lettersOfItems z vs
  | [], separator, _ => by rw [dumpsItems, lettersOfItems, List.count_nil]
  | v :: vs, separator, hseparator => by
      have hrest := count_dumpsItems vs [',', ' '] (by decide)
      rw [dumpsItems, lettersOfItems, List.count_append, List.count_append, count_dumps v, hrest,
        List.count_eq_zero.2 (hseparator z hz), Nat.zero_add]

theorem count_dumpsMembers : ∀ (d : List (String × Json)) (separator : List Char),
    (∀ z ∈ markup, z ∉ separator) →
      (dumpsMembers repr separator d).count z = lettersOfMembers z d
  | [], separator, _ => by rw [dumpsMembers, lettersOfMembers, List.count_nil]
  | (key, v) :: d, separator, hseparator => by
      have hcolon : ∀ z ∈ markup, ':' ≠ z ∧ ' ' ≠ z := by decide
      have hrest := count_dumpsMembers d [',', ' '] (by decide)
      rw [dumpsMembers, lettersOfMembers, List.count_append, List.count_append,
        List.count_cons_of_ne (hcolon z hz).1, List.count_cons_of_ne (hcolon z hz).2,
        List.count_append, count_quoted hz, count_dumps v, hrest,
        List.count_eq_zero.2 (hseparator z hz), Nat.zero_add, Nat.add_assoc]

end

end

/-!
## What a text stands for
-/

section

variable {z : Char} (hz : z ∈ markup)

include hz

/-- The letters of a string come from its text, and none of the markup from an escape. -/
theorem StringText.count_le {u s rest : List Char} (h : StringText u s)
    (hu : Escaped (u ++ rest)) : s.count z ≤ u.count z := by
  have hshort : ∀ z ∈ markup, ∀ pair ∈ ('/', '/') :: shortEscapes, pair.1 ≠ z ∧ pair.2 ≠ 'u' := by
    decide
  have hprintable : ∀ z ∈ markup, isPrintable z.toNat = true := by decide
  induction h with
  | nil => exact Nat.zero_le _
  | plain _ backslash _ _ ih =>
      rw [List.count_cons, List.count_cons]
      exact Nat.add_le_add_right (ih (hu.tail backslash)) _
  | @short c e u s escape _ ih =>
      obtain ⟨hletter, hunit⟩ := hshort z hz _ escape
      rw [List.count_cons_of_ne hletter]
      exact (ih (hu.of_short hunit)).trans ((List.sublist_append_right ['\\', e] u).count_le z)
  | @unit x a b c d n u s digits units _ ih =>
      obtain ⟨n', hdigits, hunprintable, hrest⟩ := hu.of_unit
      cases digits.symm.trans hdigits
      have hletter : x ≠ z := by
        rintro rfl
        have hx := units.symm.trans (codeUnits_printable (hprintable x hz))
        rw [(List.cons.inj hx).1, hprintable x hz] at hunprintable
        cases hunprintable
      rw [List.count_cons_of_ne hletter]
      exact (ih hrest).trans ((List.sublist_append_right ['\\', 'u', a, b, c, d] u).count_le z)
  | @pair x a b c d a' b' c' d' n n' u s high low units _ ih =>
      have hletter : x ≠ z := by
        rintro rfl
        have hx := units.symm.trans (codeUnits_printable (hprintable x hz))
        cases (List.cons.inj hx).2
      obtain ⟨-, -, -, hlow⟩ := hu.of_unit
      obtain ⟨-, -, -, hrest⟩ := hlow.of_unit
      rw [List.count_cons_of_ne hletter]
      exact (ih hrest).trans ((List.sublist_append_right
        ['\\', 'u', a, b, c, d, '\\', 'u', a', b', c', d'] u).count_le z)

theorem count_commaSeparated_cons (t : List Char) (ts : List (List Char)) :
    (commaSeparated (t :: ts)).count z = t.count z + (commaSeparated ts).count z := by
  have hcomma : ∀ z ∈ markup, ',' ≠ z := by decide
  cases ts with
  | nil => rfl
  | cons u us => rw [commaSeparated, List.count_append, List.count_cons_of_ne (hcomma z hz)]

theorem lettersOfItems_le {items : List (Reading Json)}
    (h : ∀ item ∈ items, letters z item.2 ≤ item.1.count z) :
    lettersOfItems z (items.map Prod.snd) ≤ (commaSeparated (items.map Prod.fst)).count z := by
  induction items with
  | nil => exact Nat.le_refl 0
  | cons item items ih =>
      rw [List.map_cons, List.map_cons, lettersOfItems, count_commaSeparated_cons hz]
      exact Nat.add_le_add (h item List.mem_cons_self)
        (ih fun other hother => h other (List.mem_cons_of_mem item hother))

theorem lettersOfMembers_le {members : List (Reading String × Reading Json)}
    (h : ∀ member ∈ members, member.1.2.toList.count z ≤ member.1.1.count z ∧
      letters z member.2.2 ≤ member.2.1.count z) :
    lettersOfMembers z (members.map fun member => (member.1.2, member.2.2)) ≤
      (commaSeparated (members.map fun member => member.1.1 ++ ':' :: member.2.1)).count z := by
  have hcolon : ∀ z ∈ markup, ':' ≠ z := by decide
  induction members with
  | nil => exact Nat.le_refl 0
  | cons member members ih =>
      obtain ⟨hname, hvalue⟩ := h member List.mem_cons_self
      rw [List.map_cons, List.map_cons, lettersOfMembers, count_commaSeparated_cons hz,
        List.count_append, List.count_cons_of_ne (hcolon z hz)]
      exact Nat.add_le_add (Nat.add_le_add hname hvalue)
        (ih fun other hother => h other (List.mem_cons_of_mem member hother))

end

theorem Escaped.of_commaSeparated {ts : List (List Char)} (h : Escaped (commaSeparated ts)) :
    ∀ t ∈ ts, Escaped t := by
  induction ts with
  | nil => nofun
  | cons t ts ih =>
      cases ts with
      | nil =>
          intro u hu
          rw [List.mem_singleton.1 hu]
          exact h
      | cons u us =>
          rw [commaSeparated] at h
          obtain ⟨hfirst, hrest⟩ := h.split (by decide)
          intro t' ht'
          rcases List.mem_cons.1 ht' with rfl | ht'
          · exact hfirst
          · exact ih hrest t' ht'

/-- What stands between two brackets, after blanks. -/
theorem Escaped.of_brackets {opening closing : Char} {space t : List Char}
    (h : Escaped (opening :: (space ++ (t ++ [closing])))) (hopening : opening ≠ '\\')
    (hclosing : isEscapeChar closing = false) (hspace : ∀ c ∈ space, isJsonSpace c = true) :
    Escaped t :=
  have hinner := (h.tail hopening).of_append_left fun hmem => absurd (hspace _ hmem) (by decide)
  (hinner.split hclosing).1

/-- The letters of a value come from its text: those of the markup stand there as they are. -/
theorem JsonText.letters_le_count {z : Char} (hz : z ∈ markup) {t : List Char} {v : Json}
    (h : JsonText t v) (ht : Escaped t) : letters z v ≤ t.count z := by
  induction h with
  | scalar _ hscalar =>
      rw [letters_of_isScalar z hscalar]
      exact Nat.zero_le _
  | @str u s hletters =>
      rw [letters]
      exact (hletters.count_le hz (ht.tail (by decide))).trans (List.Sublist.count_le z
        ((List.sublist_append_left u ['"']).cons '"'))
  | @arr space blank items _ ih =>
      have hitems := (ht.of_brackets (by decide) (by decide) blank).of_commaSeparated
      rw [letters]
      refine (lettersOfItems_le hz fun item hitem =>
        ih item hitem (hitems _ (List.mem_map_of_mem hitem))).trans (List.Sublist.count_le z ?_)
      exact ((List.sublist_append_left _ [']']).trans
        (List.sublist_append_right space _)).cons '['
  | @obj space blank members _ _ hnames hvalues =>
      have hmembers := (ht.of_brackets (by decide) (by decide) blank).of_commaSeparated
      rw [letters]
      refine ((lettersOfMembers_dictOf z _).trans (lettersOfMembers_le hz fun member hmember =>
        ?_)).trans (List.Sublist.count_le z ?_)
      · obtain ⟨hname, hvalue⟩ := (hmembers _ (List.mem_map_of_mem hmember)).split (by decide)
        have hletters := hnames member hmember hname
        rw [letters] at hletters
        exact ⟨hletters, hvalues member hmember hvalue⟩
      · exact ((List.sublist_append_left _ ['}']).trans
          (List.sublist_append_right space _)).cons '{'
  | @pad before t after v left right _ ih =>
      have hrest := ht.of_append_left fun hmem => absurd (left _ hmem) (by decide)
      have htext : Escaped t := by
        cases after with
        | nil => rwa [List.append_nil] at hrest
        | cons c after =>
            refine (hrest.split ?_).1
            have hspace : ∀ c ∈ [' ', '\t', '\n', '\r'], isEscapeChar c = false := by decide
            exact hspace c (of_decide_eq_true (right c List.mem_cons_self))
      exact (ih htext).trans (List.Sublist.count_le z
        ((List.sublist_append_left t after).trans (List.sublist_append_right before _)))

end RecoveryAgent.Python
