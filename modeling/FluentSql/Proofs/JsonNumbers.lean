import FluentSql.Number.Shortest
import FluentSql.Proofs.JsonReader
import Mathlib.Algebra.Order.Field.Power
import Mathlib.Algebra.Order.Field.Rat
import Mathlib.Data.Nat.Cast.Order.Field
import Mathlib.Tactic.FieldSimp
import Mathlib.Tactic.Linarith
import Mathlib.Tactic.NormNum
import Mathlib.Tactic.Positivity
import Mathlib.Tactic.Ring

/-!
# Numbers as JSON writes them

Which numbers are written as JSON numbers. An integer is, and is read back as itself
(`scalar?_writeInteger`). A floating-point number is exactly if it is finite
(`isNumber_jsonNumber`): the others have names that are no words of JSON.

That a finite number is one hangs on the digits of its shortest decimal, since a zero may not stand
in front of others. `shortest` looks through a row of grids and takes zero if no grid has a point
that reads back, so it has to be shown that the last one is fine enough. A grid is, once its step is
at most a quarter of the last binary digit (`exists_gridPoint?`), and the last of the grids that are
tried has such a step for all exponents of the format (`shortest_pos`). Steps and digits are
compared as rational numbers, where powers of two and of ten may have negative exponents.

The numbers of the format are those with a mantissa below `2 ^ 53` and an exponent in its range;
whatever is read from a decimal is one of them (`isRepresentable_ofDecimal`).
-/

namespace FluentSql.Number.Binary64

/-! ### Points of a grid -/

section Grid

variable {m p : ℕ} {e k : ℤ}

/-- The unit in which the interval of a number is given, on a common scale with the step of a grid.
-/
def gridUnit (e k : ℤ) : ℕ :=
  Nat.pow 2 (e - 2).toNat * Nat.pow 10 (-k).toNat

/-- The step of a grid, on the same scale. -/
def gridStep (e k : ℤ) : ℕ :=
  Nat.pow 10 k.toNat * Nat.pow 2 (2 - e).toNat

/-- A point on this scale reads back as the number. -/
def readsBack (m : ℕ) (e k : ℤ) (x : ℕ) : Bool :=
  let (low, _, high) := readingInterval m e
  if m % 2 == 0 then low * gridUnit e k ≤ x && x ≤ high * gridUnit e k
  else low * gridUnit e k < x && x < high * gridUnit e k

theorem gridPoint?_eq (m : ℕ) (e k : ℤ) :
    gridPoint? m e k =
      let below := 4 * m * gridUnit e k / gridStep e k
      match readsBack m e k (below * gridStep e k),
        readsBack m e k ((below + 1) * gridStep e k) with
      | true, true =>
        let twice := 2 * (4 * m * gridUnit e k - below * gridStep e k)
        some (if twice < gridStep e k then below
          else if gridStep e k < twice then below + 1 else below + below % 2)
      | true, false => some below
      | false, true => some (below + 1)
      | false, false => none :=
  rfl

theorem gridUnit_pos (e k : ℤ) : 0 < gridUnit e k :=
  Nat.mul_pos (Nat.pow_pos (by decide)) (Nat.pow_pos (by decide))

theorem gridStep_pos (e k : ℤ) : 0 < gridStep e k :=
  Nat.mul_pos (Nat.pow_pos (by decide)) (Nat.pow_pos (by decide))

/-- What reads back as a positive number is positive. -/
theorem pos_of_readsBack {x : ℕ} (hm : 0 < m) (h : readsBack m e k x = true) : 0 < x := by
  have hlow : 0 < (readingInterval m e).1 * gridUnit e k := by
    refine Nat.mul_pos ?_ (gridUnit_pos e k)
    unfold readingInterval
    dsimp only
    split <;> omega
  unfold readsBack at h
  dsimp only at h
  split at h <;> simp only [Bool.and_eq_true, decide_eq_true_eq] at h <;> omega

theorem gridPoint?_pos (hm : 0 < m) (h : gridPoint? m e k = some p) : 0 < p := by
  rw [gridPoint?_eq] at h
  dsimp only at h
  generalize 4 * m * gridUnit e k / gridStep e k = below at h
  have hbelow : readsBack m e k (below * gridStep e k) = true → 0 < below := fun hreads ↦
    Nat.pos_of_mul_pos_right (pos_of_readsBack hm hreads)
  split at h
  · next hreads _ =>
    have := hbelow hreads
    obtain rfl := Option.some.inj h
    split
    · assumption
    · split <;> omega
  · next hreads _ =>
    obtain rfl := Option.some.inj h
    exact hbelow hreads
  · obtain rfl := Option.some.inj h
    exact Nat.succ_pos _
  · cases h

/-- On a grid that is not coarser than a quarter of the last binary digit, the neighbour below the
number reads back. -/
theorem exists_gridPoint? (hm : 0 < m) (h : gridStep e k ≤ gridUnit e k) :
    ∃ p, gridPoint? m e k = some p := by
  have hstep := gridStep_pos e k
  have hbelow : readsBack m e k
      (4 * m * gridUnit e k / gridStep e k * gridStep e k) = true := by
    have hle := Nat.div_mul_le_self (4 * m * gridUnit e k) (gridStep e k)
    have hlt : 4 * m * gridUnit e k <
        4 * m * gridUnit e k / gridStep e k * gridStep e k + gridStep e k :=
      Nat.lt_div_mul_add hstep
    generalize 4 * m * gridUnit e k / gridStep e k * gridStep e k = x at hle hlt
    have hlow : (readingInterval m e).1 * gridUnit e k < x := by
      have hinterval : (readingInterval m e).1 + 1 ≤ 4 * m := by
        unfold readingInterval
        dsimp only
        split <;> omega
      have := Nat.mul_le_mul_right (gridUnit e k) hinterval
      rw [Nat.add_mul] at this
      omega
    have hhigh : x < (4 * m + 2) * gridUnit e k := by
      have := gridUnit_pos e k
      rw [Nat.add_mul]
      omega
    unfold readsBack
    dsimp only
    split
    · simp only [Bool.and_eq_true, decide_eq_true_eq]
      exact ⟨hlow.le, hhigh.le⟩
    · simp only [Bool.and_eq_true, decide_eq_true_eq]
      exact ⟨hlow, hhigh⟩
  rw [gridPoint?_eq]
  dsimp only
  rw [hbelow]
  cases readsBack m e k ((4 * m * gridUnit e k / gridStep e k + 1) * gridStep e k) <;>
    exact ⟨_, rfl⟩

/-- If one of the grids that are tried has a point that reads back, then the point that is found is
positive. -/
theorem firstPoint_pos (hm : 0 < m) {fuel i : ℕ} (hi : i < fuel)
    (h : ∃ p, gridPoint? m e (k - i) = some p) : 0 < (firstPoint m e fuel k).1 := by
  induction fuel generalizing i k with
  | zero => omega
  | succ fuel ih =>
    rw [firstPoint]
    split
    · next hp => exact gridPoint?_pos hm hp
    · next hnone =>
      cases i with
      | zero =>
        obtain ⟨p, hp⟩ := h
        simp [hnone] at hp
      | succ i =>
        refine ih (by omega : i < fuel) ?_
        rwa [show k - 1 - (i : ℤ) = k - ((i + 1 : ℕ) : ℤ) by push_cast; ring]

end Grid

/-! ### Grids that are fine enough -/

/-- A power of any exponent, without the part of it that is a denominator. -/
theorem zpow_mul_pow_toNat {b : ℕ} (hb : 0 < b) (k : ℤ) :
    (b : ℚ) ^ k * (b : ℚ) ^ (-k).toNat = (b : ℚ) ^ k.toNat := by
  have hne : (b : ℚ) ≠ 0 := by positivity
  rw [← zpow_natCast, ← zpow_natCast, ← zpow_add₀ hne]
  congr 1
  omega

theorem gridStep_le_gridUnit_iff {e k : ℤ} :
    gridStep e k ≤ gridUnit e k ↔ (10 : ℚ) ^ k ≤ (2 : ℚ) ^ (e - 2) := by
  have hten := zpow_mul_pow_toNat (b := 10) (by decide) k
  have htwo := zpow_mul_pow_toNat (b := 2) (by decide) (e - 2)
  rw [neg_sub] at htwo
  push_cast at hten htwo
  have hstep : (gridStep e k : ℚ) = (10 : ℚ) ^ k * ((10 : ℚ) ^ (-k).toNat * 2 ^ (2 - e).toNat) := by
    rw [gridStep, Nat.pow_eq, Nat.pow_eq]
    push_cast
    rw [← hten, mul_assoc]
  have hunit : (gridUnit e k : ℚ) =
      (2 : ℚ) ^ (e - 2) * ((10 : ℚ) ^ (-k).toNat * 2 ^ (2 - e).toNat) := by
    rw [gridUnit, Nat.pow_eq, Nat.pow_eq]
    push_cast
    rw [← htwo]
    ring
  rw [← Nat.cast_le (α := ℚ), hstep, hunit]
  exact mul_le_mul_iff_of_pos_right (by positivity)

/-- Below one, the decimal start lags behind the binary magnitude by less than six places. -/
theorem two_pow_le_ten_pow {n : ℕ} (hn : n ≤ 1074) :
    2 ^ (n + 1) ≤ 10 ^ (6 + n * 30102 / 100000) := by
  -- Ninety-three binary digits are less than twenty-eight decimal ones, and three less than one.
  have hchunks : 2 ^ (n + 1) ≤ 10 ^ (28 * ((n + 1) / 93) + ((n + 1) % 93 / 3 + 1)) := by
    calc 2 ^ (n + 1)
        ≤ 2 ^ (93 * ((n + 1) / 93) + 3 * ((n + 1) % 93 / 3 + 1)) :=
          Nat.pow_le_pow_right (by decide) (by omega)
      _ = (2 ^ 93) ^ ((n + 1) / 93) * (2 ^ 3) ^ ((n + 1) % 93 / 3 + 1) := by
          rw [pow_add, pow_mul, pow_mul]
      _ ≤ (10 ^ 28) ^ ((n + 1) / 93) * 10 ^ ((n + 1) % 93 / 3 + 1) :=
          Nat.mul_le_mul (Nat.pow_le_pow_left (by norm_num) _)
            (Nat.pow_le_pow_left (by norm_num) _)
      _ = 10 ^ (28 * ((n + 1) / 93) + ((n + 1) % 93 / 3 + 1)) := by
          rw [← pow_mul, ← pow_add]
  exact hchunks.trans (Nat.pow_le_pow_right (by decide) (by omega))

/-- The grids are tried from one on that is not coarser than a million times the number. -/
theorem ten_zpow_gridStart_le {num den limit : ℕ} (hnum : 0 < num) (hden : 0 < den)
    (hlimit : limit ≤ 1074) (hbound : den ≤ 2 ^ limit) :
    (10 : ℚ) ^ gridStart num den ≤ 10 ^ 6 * (num / den) := by
  have hden' : (0 : ℚ) < den := by exact_mod_cast hden
  unfold gridStart
  split
  · next hlt =>
    have hquotient : 0 < den / num := Nat.div_pos hlt.le hnum
    have hlog : (den / num).log2 ≤ 1074 := by
      have hself := Nat.log2_self_le hquotient.ne'
      have hle : 2 ^ (den / num).log2 ≤ 2 ^ limit :=
        (hself.trans (Nat.div_le_self _ _)).trans hbound
      exact ((Nat.pow_le_pow_iff_right (by decide)).1 hle).trans hlimit
    have hden_lt : den < 2 ^ ((den / num).log2 + 1) * num :=
      (Nat.div_lt_iff_lt_mul hnum).1 Nat.lt_log2_self
    generalize (den / num).log2 = n at hlog hden_lt
    have hpow := two_pow_le_ten_pow hlog
    generalize n * 30102 / 100000 = a at hpow
    have hscaled : (den : ℚ) ≤ 10 ^ 6 * num * 10 ^ a := by
      have : den ≤ 10 ^ 6 * num * 10 ^ a := calc
        den ≤ 2 ^ (n + 1) * num := hden_lt.le
        _ ≤ 10 ^ (6 + a) * num := Nat.mul_le_mul_right _ hpow
        _ = 10 ^ 6 * num * 10 ^ a := by ring
      exact_mod_cast this
    rw [zpow_neg, zpow_natCast, ← mul_div_assoc, le_div_iff₀ hden', inv_mul_le_iff₀ (by positivity)]
    linarith
  · next hle =>
    have hquotient : 0 < num / den := Nat.div_pos (not_lt.1 hle) hden
    have hdigits : 10 ^ (Nat.toDigits 10 (num / den)).length ≤ 10 * (num / den) := by
      cases hlength : (Nat.toDigits 10 (num / den)).length with
      | zero => omega
      | succ n =>
        rw [pow_succ, mul_comm]
        refine Nat.mul_le_mul_left 10 ?_
        cases n with
        | zero => exact hquotient
        | succ n =>
          rw [← not_lt, ← Nat.length_toDigits_le_iff (by decide) (Nat.succ_pos n), hlength]
          omega
    have hcast : ((num / den : ℕ) : ℚ) ≤ num / den := Nat.cast_div_le
    rw [zpow_natCast]
    calc (10 : ℚ) ^ (Nat.toDigits 10 (num / den)).length
        ≤ 10 * ((num / den : ℕ) : ℚ) := by exact_mod_cast hdigits
      _ ≤ 10 * (num / den) := by linarith
      _ ≤ 10 ^ 6 * (num / den) := by
          have : (0 : ℚ) ≤ num / den := by positivity
          linarith

/-- **The shortest decimal of a positive number is positive**: among the grids that are tried there
is one that has a point which reads back. -/
theorem shortest_pos {m : ℕ} {e : ℤ} (hm : 0 < m) (hlt : m < 2 ^ 53) (he : -1074 ≤ e) :
    0 < (shortest m e).1 := by
  have hnum : 0 < m * Nat.pow 2 e.toNat := Nat.mul_pos hm (Nat.pow_pos (by decide))
  have hden : 0 < Nat.pow 2 (-e).toNat := Nat.pow_pos (by decide)
  have hstart := ten_zpow_gridStart_le hnum hden (by omega : (-e).toNat ≤ 1074) le_rfl
  have hvalue : ((m * Nat.pow 2 e.toNat : ℕ) : ℚ) / (Nat.pow 2 (-e).toNat : ℕ) = m * 2 ^ e := by
    have htwo := zpow_mul_pow_toNat (b := 2) (by decide) e
    push_cast at htwo
    rw [Nat.pow_eq, Nat.pow_eq, div_eq_iff (by positivity)]
    push_cast
    rw [← htwo, mul_assoc]
  rw [hvalue] at hstart
  refine firstPoint_pos hm (by decide : 23 < 24) (exists_gridPoint? hm ?_)
  rw [gridStep_le_gridUnit_iff]
  have hm' : (m : ℚ) ≤ 2 ^ 53 := by exact_mod_cast hlt.le
  have hpos : (0 : ℚ) < 2 ^ e := by positivity
  calc (10 : ℚ) ^ (gridStart (m * Nat.pow 2 e.toNat) (Nat.pow 2 (-e).toNat) - ((23 : ℕ) : ℤ))
      = 10 ^ gridStart (m * Nat.pow 2 e.toNat) (Nat.pow 2 (-e).toNat) / 10 ^ 23 := by
        rw [zpow_sub₀ (by norm_num), zpow_natCast]
    _ ≤ 10 ^ 6 * (2 ^ 53 * 2 ^ e) / 10 ^ 23 := by
        refine div_le_div_of_nonneg_right (hstart.trans ?_) (by positivity)
        have := mul_le_mul_of_nonneg_right hm' hpos.le
        linarith
    _ ≤ 2 ^ (e - 2) := by
        rw [zpow_sub₀ (by norm_num)]
        norm_num
        linarith

/-! ### Numbers of the format -/

/-- The number is finite. -/
def isFinite : Binary64 → Bool
  | .finite .. => true
  | _ => false

/-- The mantissa and the exponent of the number are within the bounds of the format. -/
def IsRepresentable : Binary64 → Prop
  | .finite _ m e => m < 2 ^ 53 ∧ minExponent ≤ e ∧ e ≤ maxExponent
  | _ => True

theorem isRepresentable_zero (negative : Bool) : (finite negative 0 minExponent).IsRepresentable :=
  ⟨by decide, le_rfl, by decide⟩

theorem isRepresentable_round (negative : Bool) (num den : ℕ) :
    (round negative num den).IsRepresentable := by
  have hexponent : minExponent ≤ exponentOf num den := le_max_left _ _
  unfold round
  split
  · exact isRepresentable_zero negative
  · dsimp only
    generalize divNearest _ _ = m
    split
    · next hlt =>
      dsimp only
      split
      · trivial
      · next hle => exact ⟨hlt, hexponent, not_lt.1 hle⟩
    · dsimp only
      split
      · trivial
      · next hle => exact ⟨by decide, hexponent.trans (by omega), not_lt.1 hle⟩

/-- What is nearest to a decimal is a number of the format. -/
theorem isRepresentable_ofDecimal (negative : Bool) (digits : ℕ) (exponent : ℤ) :
    (ofDecimal negative digits exponent).IsRepresentable := by
  unfold ofDecimal
  split
  · exact isRepresentable_zero negative
  · dsimp only
    split
    · trivial
    · split
      · exact isRepresentable_zero negative
      · exact isRepresentable_round ..

end FluentSql.Number.Binary64

namespace FluentSql.Json

open FluentSql.Number

/-! ### Integers -/

theorem isDigits_toDigits (n : ℕ) : IsDigits (Nat.toDigits 10 n) :=
  ⟨Nat.toDigits_ne_nil, fun _ ↦ Nat.isDigit_of_mem_toDigits (by decide) (by decide)⟩

/-- A positive number does not start with a zero. -/
theorem head?_toDigits_ne {n : ℕ} (hn : 0 < n) : (Nat.toDigits 10 n).head? ≠ some '0' := by
  induction n using Nat.strongRecOn with
  | ind n ih =>
    by_cases hlt : n < 10
    · have hdigit : ∀ d < 10, 0 < d → [Nat.digitChar d].head? ≠ some '0' := by decide
      rw [Nat.toDigits_of_lt_base hlt]
      exact hdigit n hlt hn
    · have hle : 10 ≤ n := not_lt.1 hlt
      have hhead := ih (n / 10) (by omega) (by omega)
      rw [Nat.toDigits_of_base_le (by decide) hle]
      rwa [List.head?_append_of_ne_nil _ Nat.toDigits_ne_nil]

theorem isWhole_toDigits (n : ℕ) : IsWhole (Nat.toDigits 10 n) := by
  refine ⟨isDigits_toDigits n, fun hhead ↦ ?_⟩
  cases n with
  | zero => rfl
  | succ n => exact absurd hhead (head?_toDigits_ne n.succ_pos)

theorem toList_writeInteger (n : ℤ) :
    (writeInteger n).toList = (if n < 0 then ['-'] else []) ++ Nat.toDigits 10 n.natAbs := by
  unfold writeInteger
  split
  · rw [String.toList_append, Nat.toList_repr]
    rfl
  · rw [Nat.toList_repr, List.nil_append]

/-- An integer is read as itself. -/
theorem scalar?_writeInteger (n : ℤ) : scalar? (writeInteger n).toList = some (.integer n) := by
  have hsplit : splitSign (writeInteger n).toList = (decide (n < 0), Nat.toDigits 10 n.natAbs) := by
    rw [toList_writeInteger]
    split
    · next hneg =>
      rw [decide_eq_true hneg]
      rfl
    · next hneg =>
      rw [List.nil_append, splitSign_of_isDigits (isDigits_toDigits _), decide_eq_false hneg]
  have hall : (Nat.toDigits 10 n.natAbs).all Char.isDigit = true :=
    List.all_eq_true.2 (isDigits_toDigits _).2
  refine scalar?_eq_some_iff.2 (Or.inr ⟨?_, ?_⟩)
  · rw [toList_writeInteger]
    refine ⟨if n < 0 then ['-'] else [], ?_, _, [], [], isWhole_toDigits n.natAbs, Or.inl rfl,
      Or.inl rfl, by rw [List.append_nil, List.append_nil]⟩
    split <;> simp
  · rw [numberTree, hsplit]
    dsimp only
    rw [if_pos hall, Nat.ofDigitChars_ten_toDigits, signed]
    congr 1
    by_cases hneg : n < 0
    · rw [if_pos (decide_eq_true hneg), Int.ofNat_natAbs_of_nonpos hneg.le, neg_neg]
    · rw [if_neg (by simpa using hneg), Int.natAbs_of_nonneg (not_lt.1 hneg)]

/-! ### Positional and scientific notation -/

section Notations

variable {s digits : List Char}

theorem IsDigits.append (hs : IsDigits s) (hdigits : ∀ c ∈ digits, c.isDigit = true) :
    IsDigits (s ++ digits) :=
  ⟨by simp [hs.1], List.forall_mem_append.2 ⟨hs.2, hdigits⟩⟩

theorem IsDigits.prepend (hs : IsDigits s) (hdigits : ∀ c ∈ digits, c.isDigit = true) :
    IsDigits (digits ++ s) :=
  ⟨by simp [hs.1], List.forall_mem_append.2 ⟨hdigits, hs.2⟩⟩

theorem isDigit_of_mem_zeros {n : ℕ} : ∀ c ∈ List.replicate n '0', c.isDigit = true := by
  intro c hc
  rw [List.eq_of_mem_replicate hc]
  rfl

/-- A start of digits of which the first is not zero, with zeros behind it or not. -/
theorem IsDigits.isWhole_take (hs : IsDigits s) (hhead : s.head? ≠ some '0') {n : ℕ} (hn : 0 < n)
    (zeros : ℕ) : IsWhole (s.take n ++ List.replicate zeros '0') := by
  obtain ⟨c, rest, rfl⟩ := List.exists_cons_of_ne_nil hs.1
  obtain ⟨n, rfl⟩ := Nat.exists_eq_succ_of_ne_zero hn.ne'
  have htake : IsDigits ((c :: rest).take (n + 1)) :=
    ⟨List.cons_ne_nil _ _, fun d hd ↦ hs.2 d (List.mem_of_mem_take hd)⟩
  exact ⟨htake.append isDigit_of_mem_zeros, fun h ↦ absurd h hhead⟩

theorem positional_parts (hdigits : IsDigits digits) (hhead : digits.head? ≠ some '0')
    (point : ℤ) : ∃ whole fraction, IsWhole whole ∧ IsFraction fraction ∧
      Binary64.positional digits point = whole ++ fraction := by
  unfold Binary64.positional
  split
  · refine ⟨['0'], _, by decide, Or.inr ⟨_, hdigits.prepend isDigit_of_mem_zeros, rfl⟩, rfl⟩
  · next hpoint =>
    refine ⟨_, _, hdigits.isWhole_take hhead (by omega) _, Or.inr ⟨_, ?_, rfl⟩, rfl⟩
    split
    · decide
    · next hfraction =>
      exact ⟨by simpa using hfraction, fun c hc ↦ hdigits.2 c (List.mem_of_mem_drop hc)⟩

theorem scientific_parts (hdigits : IsDigits digits) (hhead : digits.head? ≠ some '0')
    (power : ℤ) : ∃ whole fraction exponent, IsWhole whole ∧ IsFraction fraction ∧
      IsExponent exponent ∧
        Binary64.scientific digits power = whole ++ (fraction ++ exponent) := by
  have hwhole : IsWhole (digits.take 1) := by
    simpa using hdigits.isWhole_take hhead one_pos 0
  have hexponent : IsDigits (List.replicate (2 - (Nat.toDigits 10 power.natAbs).length) '0' ++
      Nat.toDigits 10 power.natAbs) :=
    (isDigits_toDigits _).prepend isDigit_of_mem_zeros
  have hfraction : IsFraction (if digits.length ≤ 1 then [] else '.' :: digits.drop 1) := by
    split
    · exact Or.inl rfl
    · next hlength =>
      refine Or.inr ⟨_, ⟨?_, fun c hc ↦ hdigits.2 c (List.mem_of_mem_drop hc)⟩, rfl⟩
      rw [Ne, List.drop_eq_nil_iff]
      omega
  refine ⟨_, _, _, hwhole, hfraction,
    Or.inr ⟨'e', by simp, [if power < 0 then '-' else '+'], ?_, _, hexponent, rfl⟩, ?_⟩
  · split <;> simp
  · rw [Binary64.scientific, List.append_assoc]
    rfl

end Notations

/-! ### Floating-point numbers -/

section Floats

variable {digits : List Char}

theorem magnitudeText_parts {m : ℕ} {e : ℤ} (hm : m < 2 ^ 53) (he : Binary64.minExponent ≤ e) :
    ∃ whole fraction exponent, IsWhole whole ∧ IsFraction fraction ∧ IsExponent exponent ∧
      Binary64.magnitudeText m e = whole ++ (fraction ++ exponent) := by
  unfold Binary64.magnitudeText
  split
  · exact ⟨['0'], ['.', '0'], [], by decide, Or.inr ⟨['0'], by decide, rfl⟩, Or.inl rfl, rfl⟩
  · next hzero =>
    have hpos : 0 < m := Nat.pos_of_ne_zero (by simpa using hzero)
    have hhead := head?_toDigits_ne (Binary64.shortest_pos hpos hm he)
    have hdigits := isDigits_toDigits (Binary64.shortest m e).1
    dsimp only
    split
    · obtain ⟨whole, fraction, hwhole, hfraction, heq⟩ := positional_parts hdigits hhead
        ((Nat.toDigits 10 (Binary64.shortest m e).1).length + (Binary64.shortest m e).2)
      exact ⟨whole, fraction, [], hwhole, hfraction, Or.inl rfl, by rw [heq, List.append_nil]⟩
    · exact scientific_parts hdigits hhead _

theorem toList_jsonNumber_finite (negative : Bool) (m : ℕ) (e : ℤ) :
    (jsonNumber (.finite negative m e)).toList =
      (if negative then ['-'] else []) ++ Binary64.magnitudeText m e := by
  rw [jsonNumber, Binary64.text, String.toList_ofList]
  all_goals nofun

/-- The name of a number is that of a JSON number exactly if the number is finite. -/
theorem isNumber_jsonNumber {x : Binary64} (hx : x.IsRepresentable) :
    isNumber (jsonNumber x).toList = x.isFinite := by
  cases x with
  | nan => rfl
  | infinite negative => cases negative <;> rfl
  | finite negative m e =>
    obtain ⟨whole, fraction, exponent, hwhole, hfraction, hexponent, heq⟩ :=
      magnitudeText_parts hx.1 hx.2.1
    refine isNumber_iff.2 ⟨if negative then ['-'] else [], ?_, whole, fraction, exponent, hwhole,
      hfraction, hexponent, by rw [toList_jsonNumber_finite, heq]⟩
    split <;> simp

theorem isSome_scalar?_jsonNumber {x : Binary64} (hx : x.IsRepresentable) :
    (scalar? (jsonNumber x).toList).isSome = x.isFinite := by
  rw [scalar?, isNumber_jsonNumber hx]
  cases x with
  | nan => rfl
  | infinite negative => cases negative <;> rfl
  | finite => rfl

theorem isScalarChar_of_isDigit {c : Char} (hc : c.isDigit = true) : isScalarChar c = true := by
  simp [isScalarChar, Char.isAlphanum, hc]

theorem isScalarChar_of_mem_positional (hdigits : ∀ c ∈ digits, c.isDigit = true) (point : ℤ) :
    ∀ c ∈ Binary64.positional digits point, isScalarChar c = true := by
  have hscalar := fun c hc ↦ isScalarChar_of_isDigit (hdigits c hc)
  have hzeros := fun n c hc ↦ isScalarChar_of_isDigit (isDigit_of_mem_zeros (n := n) c hc)
  unfold Binary64.positional
  split
  · simp only [List.forall_mem_append, List.forall_mem_cons]
    exact ⟨⟨rfl, rfl, hzeros _⟩, hscalar⟩
  · simp only [List.forall_mem_append, List.forall_mem_cons]
    refine ⟨⟨fun c hc ↦ hscalar c (List.mem_of_mem_take hc), hzeros _⟩, rfl, ?_⟩
    split
    · decide
    · exact fun c hc ↦ hscalar c (List.mem_of_mem_drop hc)

theorem isScalarChar_of_mem_scientific (hdigits : ∀ c ∈ digits, c.isDigit = true) (power : ℤ) :
    ∀ c ∈ Binary64.scientific digits power, isScalarChar c = true := by
  have hscalar := fun c hc ↦ isScalarChar_of_isDigit (hdigits c hc)
  have hzeros := fun n c hc ↦ isScalarChar_of_isDigit (isDigit_of_mem_zeros (n := n) c hc)
  have hpower := fun c hc ↦ isScalarChar_of_isDigit ((isDigits_toDigits power.natAbs).2 c hc)
  unfold Binary64.scientific
  simp only [List.forall_mem_append, List.forall_mem_cons]
  refine ⟨⟨fun c hc ↦ hscalar c (List.mem_of_mem_take hc), ?_⟩, rfl, ?_, hzeros _, hpower⟩
  · split
    · nofun
    · exact List.forall_mem_cons.2 ⟨rfl, fun c hc ↦ hscalar c (List.mem_of_mem_drop hc)⟩
  · split <;> rfl

theorem isScalarChar_of_mem_magnitudeText (m : ℕ) (e : ℤ) :
    ∀ c ∈ Binary64.magnitudeText m e, isScalarChar c = true := by
  have hdigits := (isDigits_toDigits (Binary64.shortest m e).1).2
  unfold Binary64.magnitudeText
  split
  · decide
  · dsimp only
    split
    · exact isScalarChar_of_mem_positional hdigits _
    · exact isScalarChar_of_mem_scientific hdigits _

theorem magnitudeText_ne (m : ℕ) (e : ℤ) : Binary64.magnitudeText m e ≠ [] := by
  unfold Binary64.magnitudeText
  split
  · decide
  · dsimp only
    split
    · unfold Binary64.positional
      split <;> simp
    · simp [Binary64.scientific]

/-- The name of a number is read to its end, be it a JSON number or not. -/
theorem isScalarChar_of_mem_jsonNumber (x : Binary64) :
    (jsonNumber x).toList ≠ [] ∧ ∀ c ∈ (jsonNumber x).toList, isScalarChar c = true := by
  cases x with
  | nan => decide
  | infinite negative => cases negative <;> decide
  | finite negative m e =>
    rw [toList_jsonNumber_finite, List.forall_mem_append]
    refine ⟨by simp [magnitudeText_ne], by split <;> decide, isScalarChar_of_mem_magnitudeText m e⟩

end Floats

end FluentSql.Json
