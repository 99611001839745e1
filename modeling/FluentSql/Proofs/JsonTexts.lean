import FluentSql.Proofs.JsonReader
import Mathlib.Algebra.Group.Nat.Defs
import Mathlib.Tactic.SplitIfs

/-!
# Texts as JSON writes them

A text is written character by character, each as something that means its code units
(`textBody_jsonChar`): as itself, by a short escape, or by the escapes of its units, whose four
hexadecimal digits give the unit again. The units of a text give the text again, since a pair of
them stands for a character that no other units stand for (`ofUnits_flatMap_units`). So what is
written means the text (`means_jsonText`), and it is in ASCII (`isAscii_jsonText`).
-/

namespace FluentSql

open FluentSql.Text

namespace Json

/-! ### Hexadecimal digits -/

theorem hexDigit?_digitChar {d : Nat} (hd : d < 16) : hexDigit? (Nat.digitChar d) = some d := by
  have hall : ∀ d < 16, hexDigit? (Nat.digitChar d) = some d := by decide
  exact hall d hd

/-- A hexadecimal digit more, at the end. -/
theorem hexValue?_append_digit {s : List Char} {n d : Nat} (hs : hexValue? s = some n)
    (hd : d < 16) : hexValue? (s ++ [Nat.digitChar d]) = some (16 * n + d) := by
  rw [hexValue?] at hs
  rw [hexValue?, List.foldlM_append, hs, Option.bind_eq_bind, Option.bind_some, List.foldlM_cons,
    hexDigit?_digitChar hd]
  rfl

theorem hexValue?_toDigits (n : Nat) : hexValue? (Nat.toDigits 16 n) = some n := by
  induction n using Nat.strongRecOn with
  | ind n ih =>
    by_cases hlt : n < 16
    · rw [Nat.toDigits_of_lt_base hlt]
      have hempty : hexValue? [] = some 0 := rfl
      simpa using hexValue?_append_digit hempty hlt
    · have hle : 16 ≤ n := Nat.not_lt.1 hlt
      rw [Nat.toDigits_of_base_le (by decide) hle,
        hexValue?_append_digit (ih (n / 16) (by omega)) (Nat.mod_lt n (by decide)),
        Nat.div_add_mod]

/-- Zeros in front do not count. -/
theorem hexValue?_hexDigits (width n : Nat) : hexValue? (hexDigits width n) = some n := by
  have hzeros : ∀ zeros, hexValue? (List.replicate zeros '0') = some 0 := fun zeros ↦ by
    induction zeros with
    | zero => rfl
    | succ zeros ih => rwa [List.replicate_succ]
  have hdigits := hexValue?_toDigits n
  have hempty := hzeros (width - (Nat.toDigits 16 n).length)
  unfold hexDigits hexValue? at *
  rw [List.foldlM_append, hempty]
  exact hdigits

theorem length_hexDigits {width n : Nat} (hwidth : 0 < width) (hn : n < 16 ^ width) :
    (hexDigits width n).length = width := by
  have hlength := (Nat.length_toDigits_le_iff (by decide) hwidth).2 hn
  rw [hexDigits, List.length_append, List.length_replicate]
  omega

theorem exists_digitChar_of_mem_toDigits {b n : Nat} (hb : 1 < b) {c : Char}
    (hc : c ∈ Nat.toDigits b n) : ∃ d < b, c = Nat.digitChar d := by
  induction n using Nat.strongRecOn with
  | ind n ih =>
    by_cases hlt : n < b
    · rw [Nat.toDigits_of_lt_base hlt, List.mem_singleton] at hc
      exact ⟨n, hlt, hc⟩
    · have hle : b ≤ n := Nat.not_lt.1 hlt
      rw [Nat.toDigits_of_base_le hb hle, List.mem_append, List.mem_singleton] at hc
      rcases hc with hc | hc
      · exact ih (n / b) (Nat.div_lt_self (by omega) hb) hc
      · exact ⟨n % b, Nat.mod_lt n (by omega), hc⟩

/-! ### Code units -/

theorem toNat_lt (c : Char) : c.toNat < 0x110000 := by
  rcases c.valid with h | h
  · exact lt_trans h (by decide)
  · exact h.2

theorem ofUnits_units_append (c : Char) (us : List Nat) :
    ofUnits (units c ++ us) = c :: ofUnits us := by
  unfold units
  split
  · next hlt =>
    have hvalid : c.toNat < 0xD800 ∨ 0xDFFF < c.toNat := by
      rcases c.valid with h | h
      · exact Or.inl h
      · exact Or.inr h.1
    have hhigh : isHigh c.toNat = false := by
      simp only [isHigh, Bool.and_eq_false_iff, decide_eq_false_iff_not]
      omega
    have hlow : isLow c.toNat = false := by
      simp only [isLow, Bool.and_eq_false_iff, decide_eq_false_iff_not]
      omega
    have hsole : soleUnit c.toNat = c := by
      rw [soleUnit, hhigh, hlow]
      exact Char.ofNat_toNat c
    cases us with
    | nil => simp only [List.append_nil, ofUnits, hsole]
    | cons w us =>
      rw [List.singleton_append, ofUnits, hhigh, hsole]
      rfl
  · next hge =>
    have hbound := toNat_lt c
    have hhigh : isHigh (0xD800 + (c.toNat - 0x10000) / 0x400) = true := by
      simp only [isHigh, Bool.and_eq_true, decide_eq_true_eq]
      omega
    have hlow : isLow (0xDC00 + (c.toNat - 0x10000) % 0x400) = true := by
      simp only [isLow, Bool.and_eq_true, decide_eq_true_eq]
      omega
    dsimp only
    rw [List.cons_append, List.cons_append, List.nil_append, ofUnits, hhigh, hlow,
      show 0x10000 + ((0xD800 + (c.toNat - 0x10000) / 0x400 - 0xD800) * 0x400 +
        (0xDC00 + (c.toNat - 0x10000) % 0x400 - 0xDC00)) = c.toNat by omega, Char.ofNat_toNat]
    rfl

theorem ofUnits_flatMap_units (s : List Char) : ofUnits (s.flatMap units) = s := by
  induction s with
  | nil => rfl
  | cons c s ih => rw [List.flatMap_cons, ofUnits_units_append, ih]

/-! ### Texts -/

theorem textBody_unitEscape {n : Nat} (hn : n < 0x10000) {s : List Char} {us : List Nat}
    (h : TextBody s us) : TextBody (unitEscape n ++ s) (n :: us) := by
  have hlength : (hexDigits 4 n).length = 4 := length_hexDigits (by decide) hn
  have hvalue := hexValue?_hexDigits 4 n
  rw [unitEscape]
  generalize hexDigits 4 n = digits at hlength hvalue
  match digits, hlength with
  | [_, _, _, _], _ => exact .unit hvalue h

/-- A character is written as something that means its code units. -/
theorem textBody_jsonChar (c : Char) {s : List Char} {us : List Nat} (h : TextBody s us) :
    TextBody (jsonChar c ++ s) (units c ++ us) := by
  unfold jsonChar
  split
  · next hquoted =>
    rw [Bool.or_eq_true, beq_iff_eq, beq_iff_eq] at hquoted
    rcases hquoted with rfl | rfl <;> exact .short rfl h
  · next hquoted =>
    split_ifs with hn hr ht hb hf hvisible hbmp
    · exact beq_iff_eq.1 hn ▸ .short rfl h
    · exact beq_iff_eq.1 hr ▸ .short rfl h
    · exact beq_iff_eq.1 ht ▸ .short rfl h
    · exact beq_iff_eq.1 hb ▸ .short rfl h
    · exact beq_iff_eq.1 hf ▸ .short rfl h
    · refine .plain ?_ h
      simp only [isVisibleAscii, Bool.and_eq_true, decide_eq_true_eq] at hvisible
      simpa [isPlain, hvisible.1] using hquoted
    · rw [units, if_pos hbmp]
      exact textBody_unitEscape hbmp h
    · have hbound := toNat_lt c
      rw [units, if_neg hbmp, List.append_assoc]
      exact textBody_unitEscape (by omega) (textBody_unitEscape (by omega) h)

theorem textBody_flatMap (s : List Char) : TextBody (s.flatMap jsonChar) (s.flatMap units) := by
  induction s with
  | nil => exact .nil
  | cons c s ih => exact textBody_jsonChar c ih

/-- A text is read back as itself. -/
theorem means_jsonText (s : String) : Means .value (jsonText s) (.text s) := by
  have h : Means .value _ (.text _) := .text (textBody_flatMap s.toList)
  rwa [ofUnits_flatMap_units, String.ofList_toList] at h

/-! ### ASCII -/

/-- The characters belong to ASCII. -/
def IsAscii (s : List Char) : Prop :=
  ∀ c ∈ s, c.toNat < 0x80

instance : DecidablePred IsAscii := fun _ ↦
  inferInstanceAs (Decidable (∀ c ∈ _, _))

theorem isAscii_append {s t : List Char} : IsAscii (s ++ t) ↔ IsAscii s ∧ IsAscii t :=
  List.forall_mem_append

theorem isAscii_cons {c : Char} {s : List Char} :
    IsAscii (c :: s) ↔ c.toNat < 0x80 ∧ IsAscii s :=
  List.forall_mem_cons

theorem isAscii_hexDigits (width n : Nat) : IsAscii (hexDigits width n) := by
  have hdigit : ∀ d < 16, (Nat.digitChar d).toNat < 0x80 := by decide
  refine isAscii_append.2 ⟨fun c hc ↦ ?_, fun c hc ↦ ?_⟩
  · rw [List.eq_of_mem_replicate hc]
    decide
  · obtain ⟨d, hd, rfl⟩ := exists_digitChar_of_mem_toDigits (by decide) hc
    exact hdigit d hd

theorem isAscii_unitEscape (n : Nat) : IsAscii (unitEscape n) :=
  isAscii_cons.2 ⟨by decide, isAscii_cons.2 ⟨by decide, isAscii_hexDigits 4 n⟩⟩

theorem isAscii_jsonChar (c : Char) : IsAscii (jsonChar c) := by
  unfold jsonChar
  split
  · next hquoted =>
    rw [Bool.or_eq_true, beq_iff_eq, beq_iff_eq] at hquoted
    rcases hquoted with rfl | rfl <;> decide
  · split_ifs with hn hr ht hb hf hvisible
    · decide
    · decide
    · decide
    · decide
    · decide
    · simp only [isVisibleAscii, Bool.and_eq_true, decide_eq_true_eq] at hvisible
      exact isAscii_cons.2 ⟨by omega, nofun⟩
    · exact isAscii_unitEscape _
    · exact isAscii_append.2 ⟨isAscii_unitEscape _, isAscii_unitEscape _⟩

theorem isAscii_jsonText (s : String) : IsAscii (jsonText s) := by
  refine isAscii_append.2 ⟨isAscii_cons.2 ⟨by decide, fun c hc ↦ ?_⟩, by decide⟩
  obtain ⟨d, -, hd⟩ := List.mem_flatMap.1 hc
  exact isAscii_jsonChar d c hd

end Json

end FluentSql
