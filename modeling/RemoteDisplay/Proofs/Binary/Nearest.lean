/-
**The nearest number with so many binary digits.**

A binary format has numbers of so many digits times a power of two that is not below a smallest one.
So a real number determines the power of two by which the last of the digits counts, and the number
nearest to it is a multiple of that power: the nearest multiple, the even one of two that are
equally near.  Large numbers are not looked at here; what is too large for a format is an infinity,
which is the last thing that is decided.

Main definitions:

* `RemoteDisplay.Binary.roundEven` — the nearest whole number;
* `RemoteDisplay.Binary.lastPlace` — the power of two by which the last digit counts;
* `RemoteDisplay.Binary.nearest` — the nearest number of a format.

Main results:

* `RemoteDisplay.Binary.nearest_neg` — the sign is no part of rounding;
* `RemoteDisplay.Binary.nearest_eq_self` — a number with few enough digits is its own nearest one;
* `RemoteDisplay.Binary.nearest_mono` — **rounding keeps the order**;
* `RemoteDisplay.Binary.abs_nearest_sub_le` — rounding changes a number by half a unit in its last
  place at most, that is by one part in two to the number of digits.
-/
import Mathlib.Algebra.Order.Archimedean.Real.Basic
import Mathlib.Algebra.Order.Round
import Mathlib.Data.Int.Log
import Mathlib.Tactic.FieldSimp
import Mathlib.Tactic.Linarith
import Mathlib.Tactic.NormNum
import Mathlib.Tactic.Positivity
import Mathlib.Tactic.Ring

set_option relaxedAutoImplicit false
set_option autoImplicit false

namespace RemoteDisplay.Binary

open Float.Model

/-! ### Whole numbers -/

/-- The whole number nearest to a real number, the even one of two that are equally near. -/
noncomputable def roundEven (x : ℝ) : ℤ :=
  if x - ⌊x⌋ < 1 / 2 then ⌊x⌋ else if 1 / 2 < x - ⌊x⌋ then ⌊x⌋ + 1 else ⌊x⌋ + ⌊x⌋ % 2

section

variable {x y : ℝ}

theorem roundEven_of_lt (h : x - ⌊x⌋ < 1 / 2) : roundEven x = ⌊x⌋ := if_pos h

theorem roundEven_of_gt (h : 1 / 2 < x - ⌊x⌋) : roundEven x = ⌊x⌋ + 1 := by
  rw [roundEven, if_neg (not_lt.2 h.le), if_pos h]

theorem roundEven_of_eq (h : x - ⌊x⌋ = 1 / 2) : roundEven x = ⌊x⌋ + ⌊x⌋ % 2 := by
  rw [roundEven, h, if_neg (lt_irrefl _), if_neg (lt_irrefl _)]

@[simp] theorem roundEven_intCast (n : ℤ) : roundEven n = n := by
  rw [roundEven_of_lt (by simp), Int.floor_intCast]

/-- No whole number is nearer than half a unit off. -/
theorem abs_roundEven_sub_le (x : ℝ) : |roundEven x - x| ≤ 1 / 2 := by
  have hfloor := Int.floor_le x
  have hlt := Int.lt_floor_add_one x
  rw [abs_le]
  rcases lt_trichotomy (x - ⌊x⌋) (1 / 2) with hbelow | hhalf | habove
  · rw [roundEven_of_lt hbelow]
    constructor <;> linarith
  · rw [roundEven_of_eq hhalf]
    rcases Int.emod_two_eq_zero_or_one ⌊x⌋ with heven | hodd
    · rw [heven]
      push_cast
      constructor <;> linarith
    · rw [hodd]
      push_cast
      constructor <;> linarith
  · rw [roundEven_of_gt habove]
    push_cast
    constructor <;> linarith

theorem roundEven_neg (x : ℝ) : roundEven (-x) = -roundEven x := by
  rcases eq_or_ne (x - ⌊x⌋) 0 with hwhole | hpart
  · rw [sub_eq_zero] at hwhole
    rw [hwhole, ← Int.cast_neg, roundEven_intCast, roundEven_intCast]
  · have hlo : ⌊x⌋ < x := lt_of_le_of_ne (Int.floor_le x) (Ne.symm (sub_ne_zero.1 hpart))
    have hhi := Int.lt_floor_add_one x
    have hfloor : ⌊-x⌋ = -⌊x⌋ - 1 := by
      rw [Int.floor_eq_iff]
      push_cast
      constructor <;> linarith
    -- what is left over on one side is missing on the other
    have hrest : -x - ⌊-x⌋ = 1 - (x - ⌊x⌋) := by
      rw [hfloor]
      push_cast
      ring
    rcases lt_trichotomy (x - ⌊x⌋) (1 / 2) with hbelow | hhalf | habove
    · rw [roundEven_of_lt hbelow, roundEven_of_gt (by linarith), hfloor]
      omega
    · rw [roundEven_of_eq hhalf, roundEven_of_eq (by linarith), hfloor]
      omega
    · rw [roundEven_of_gt habove, roundEven_of_lt (by linarith), hfloor]
      omega

/-- Whole numbers are rounded in order: two that are exchanged would be nearest to one number. -/
theorem roundEven_mono (h : x ≤ y) : roundEven x ≤ roundEven y := by
  by_contra hlt
  have hstep : (roundEven y : ℝ) + 1 ≤ roundEven x := by exact_mod_cast not_le.1 hlt
  have hx := (abs_le.1 (abs_roundEven_sub_le x)).2
  have hy := (abs_le.1 (abs_roundEven_sub_le y)).1
  have heq : x = y := le_antisymm h (by linarith)
  rw [heq] at hlt
  exact hlt le_rfl

end

/-! ### The last place -/

variable {f : Format}

/-- The power of two by which the last digit of a format counts, if the first one is that of the
number; it is not below that of the smallest number. -/
noncomputable def lastPlace (f : Format) (x : ℝ) : ℤ :=
  max (Int.log 2 |x| + 1 - f.mantissaBits) f.minExponent

/-- All digits of a mantissa but the first one are written. -/
theorem mantissaBits_eq (f : Format) : f.mantissaBits = 1 + f.mantissaBitsWithoutImplicit := rfl

theorem two_pow_mantissaBits (f : Format) :
    2 ^ f.mantissaBits = 2 * 2 ^ f.mantissaBitsWithoutImplicit := by
  rw [mantissaBits_eq, pow_add, pow_one]

theorem mantissaBits_pos : 0 < f.mantissaBits := by
  rw [mantissaBits_eq]
  omega

/-- The unit is no smaller than the smallest number. -/
theorem minExponent_nonpos : f.minExponent ≤ 0 := by
  have hdigits := f.hm
  have hpower : (1 : ℤ) ≤ 2 ^ (f.exponentBits - 1) := one_le_pow₀ one_le_two
  rw [Format.minExponent, mantissaBits_eq]
  omega

theorem two_zpow_pos (e : ℤ) : (0 : ℝ) < 2 ^ e := zpow_pos two_pos e

theorem two_zpow_add (d e : ℤ) : (2 : ℝ) ^ (d + e) = 2 ^ d * 2 ^ e := zpow_add₀ two_ne_zero d e

@[simp] theorem lastPlace_neg (x : ℝ) : lastPlace f (-x) = lastPlace f x := by
  rw [lastPlace, lastPlace, abs_neg]

/-- A number has its first digit where its logarithm says. -/
theorem two_zpow_log_le {x : ℝ} (h : 0 < x) : (2 : ℝ) ^ Int.log 2 x ≤ x := by
  exact_mod_cast Int.zpow_log_le_self (b := 2) (by norm_num) h

theorem lt_two_zpow_iff {x : ℝ} (h : 0 < x) {e : ℤ} : x < 2 ^ e ↔ Int.log 2 x < e := by
  exact_mod_cast Int.lt_zpow_iff_log_lt (b := 2) (by norm_num) h

theorem two_zpow_le_iff {x : ℝ} (h : 0 < x) {e : ℤ} : 2 ^ e ≤ x ↔ e ≤ Int.log 2 x := by
  exact_mod_cast Int.zpow_le_iff_le_log (b := 2) (by norm_num) h

theorem lastPlace_mono {x y : ℝ} (hx : 0 < x) (h : x ≤ y) : lastPlace f x ≤ lastPlace f y := by
  have hlog : Int.log 2 x ≤ Int.log 2 y := Int.log_mono_right hx h
  rw [lastPlace, lastPlace, abs_of_pos hx, abs_of_pos (lt_of_lt_of_le hx h)]
  omega

/-! ### The nearest number -/

/-- The number of a format nearest to a real number, the even one of two that are equally near. -/
noncomputable def nearest (f : Format) (x : ℝ) : ℝ :=
  roundEven (x / 2 ^ lastPlace f x) * 2 ^ lastPlace f x

theorem nearest_neg (x : ℝ) : nearest f (-x) = -nearest f x := by
  rw [nearest, nearest, lastPlace_neg, neg_div, roundEven_neg, Int.cast_neg, neg_mul]

/-- A multiple of its last place is its own nearest number. -/
theorem nearest_of_multiple {x : ℝ} {n : ℤ} (h : x = n * 2 ^ lastPlace f x) : nearest f x = x := by
  have hquotient : x / 2 ^ lastPlace f x = n := by
    rw [div_eq_iff (two_zpow_pos _).ne']
    exact h
  rw [nearest, hquotient, roundEven_intCast]
  exact h.symm

@[simp] theorem nearest_zero : nearest f 0 = 0 := nearest_of_multiple (n := 0) (by simp)

/-- A number with few enough digits has its last place at the last of them, or before it. -/
theorem lastPlace_le {m e : ℤ} (hm : m ≠ 0) (hlt : |m| < 2 ^ f.mantissaBits)
    (he : f.minExponent ≤ e) : lastPlace f (m * 2 ^ e) ≤ e := by
  have hpos : 0 < |(m : ℝ) * 2 ^ e| := abs_pos.2 (mul_ne_zero (mod_cast hm) (two_zpow_pos e).ne')
  have hsmall : |(m : ℝ) * 2 ^ e| < 2 ^ (f.mantissaBits + e) := by
    rw [abs_mul, abs_of_pos (two_zpow_pos e), two_zpow_add]
    refine mul_lt_mul_of_pos_right ?_ (two_zpow_pos e)
    exact_mod_cast hlt
  have hlog := (lt_two_zpow_iff hpos).1 hsmall
  rw [lastPlace]
  omega

/-- A number with few enough digits is its own nearest one. -/
theorem nearest_eq_self {m e : ℤ} (hlt : |m| < 2 ^ f.mantissaBits) (he : f.minExponent ≤ e) :
    nearest f (m * 2 ^ e) = m * 2 ^ e := by
  rcases eq_or_ne m 0 with rfl | hm
  · simp
  · have hle := lastPlace_le hm hlt he
    obtain ⟨k, hk⟩ : ∃ k : ℕ, e = k + lastPlace f (m * 2 ^ e) :=
      ⟨(e - lastPlace f (m * 2 ^ e)).toNat, by omega⟩
    refine nearest_of_multiple (n := m * 2 ^ k) ?_
    conv_lhs => rw [hk, two_zpow_add, zpow_natCast, ← mul_assoc]
    push_cast
    rfl

theorem nearest_intCast {n : ℤ} (h : |n| < 2 ^ f.mantissaBits) : nearest f n = n := by
  simpa using nearest_eq_self (e := 0) h minExponent_nonpos

theorem nearest_two_zpow {e : ℤ} (h : f.minExponent ≤ e) : nearest f (2 ^ e) = 2 ^ e := by
  have hone : |(1 : ℤ)| < 2 ^ f.mantissaBits := by
    rw [abs_one]
    exact one_lt_pow₀ (by norm_num) mantissaBits_pos.ne'
  simpa using nearest_eq_self hone h

/-- Rounding does not pass a multiple of the last place. -/
theorem nearest_le_of_le {x : ℝ} {n : ℤ} (h : x ≤ n * 2 ^ lastPlace f x) :
    nearest f x ≤ n * 2 ^ lastPlace f x := by
  have hround := roundEven_mono ((div_le_iff₀ (two_zpow_pos _)).2 h)
  rw [roundEven_intCast] at hround
  exact mul_le_mul_of_nonneg_right (mod_cast hround) (two_zpow_pos _).le

theorem le_nearest_of_le {x : ℝ} {n : ℤ} (h : n * 2 ^ lastPlace f x ≤ x) :
    n * 2 ^ lastPlace f x ≤ nearest f x := by
  have hround := roundEven_mono ((le_div_iff₀ (two_zpow_pos _)).2 h)
  rw [roundEven_intCast] at hround
  exact mul_le_mul_of_nonneg_right (mod_cast hround) (two_zpow_pos _).le

theorem nearest_nonneg {x : ℝ} (h : 0 ≤ x) : 0 ≤ nearest f x := by
  simpa using le_nearest_of_le (f := f) (n := 0) (x := x) (by simpa using h)

/-- Rounding keeps the order of positive numbers: of two with the same last place because whole
numbers are rounded in order, and of two others because there is a power of two between them. -/
theorem nearest_mono_of_pos {x y : ℝ} (hx : 0 < x) (h : x ≤ y) : nearest f x ≤ nearest f y := by
  have hy : 0 < y := lt_of_lt_of_le hx h
  rcases lt_or_eq_of_le (lastPlace_mono (f := f) hx h) with hlt | heq
  · have hplace : lastPlace f y = Int.log 2 y + 1 - f.mantissaBits := by
      rw [lastPlace, abs_of_pos hy]
      rw [lastPlace, lastPlace, abs_of_pos hx, abs_of_pos hy] at hlt
      omega
    have hlog : Int.log 2 x < Int.log 2 y := by
      rw [lastPlace, lastPlace, abs_of_pos hx, abs_of_pos hy] at hlt
      omega
    have hdigits := mantissaBits_pos (f := f)
    -- the power of two is a multiple of either last place
    obtain ⟨k, hk⟩ : ∃ k : ℕ, Int.log 2 y = k + lastPlace f x :=
      ⟨(Int.log 2 y - lastPlace f x).toNat, by omega⟩
    obtain ⟨j, hj⟩ : ∃ j : ℕ, Int.log 2 y = j + lastPlace f y :=
      ⟨(Int.log 2 y - lastPlace f y).toNat, by omega⟩
    have hpower (i : ℕ) (e : ℤ) (hi : Int.log 2 y = i + e) :
        (2 : ℝ) ^ Int.log 2 y = ((2 ^ i : ℤ) : ℝ) * 2 ^ e := by
      rw [hi, two_zpow_add, zpow_natCast]
      push_cast
      rfl
    have hbelow : nearest f x ≤ 2 ^ Int.log 2 y := by
      rw [hpower k _ hk]
      refine nearest_le_of_le ?_
      rw [← hpower k _ hk]
      exact ((lt_two_zpow_iff hx).2 hlog).le
    have habove : 2 ^ Int.log 2 y ≤ nearest f y := by
      rw [hpower j _ hj]
      refine le_nearest_of_le ?_
      rw [← hpower j _ hj]
      exact two_zpow_log_le hy
    exact hbelow.trans habove
  · rw [nearest, nearest, heq]
    have hround := roundEven_mono (div_le_div_of_nonneg_right h (two_zpow_pos (lastPlace f y)).le)
    exact mul_le_mul_of_nonneg_right (mod_cast hround) (two_zpow_pos _).le

/-- **Rounding keeps the order.** -/
theorem nearest_mono {x y : ℝ} (h : x ≤ y) : nearest f x ≤ nearest f y := by
  rcases lt_or_ge 0 x with hx | hx
  · exact nearest_mono_of_pos hx h
  · rcases lt_or_ge y 0 with hy | hy
    · have hneg := nearest_mono_of_pos (f := f) (neg_pos.2 hy) (neg_le_neg h)
      rwa [nearest_neg, nearest_neg, neg_le_neg_iff] at hneg
    · have hx' := nearest_nonneg (f := f) (neg_nonneg.2 hx)
      rw [nearest_neg, neg_nonneg] at hx'
      exact hx'.trans (nearest_nonneg hy)

/-- Rounding does not pass a power of two. -/
theorem abs_nearest_le_two_zpow {x : ℝ} {e : ℤ} (he : f.minExponent ≤ e) (h : |x| ≤ 2 ^ e) :
    |nearest f x| ≤ 2 ^ e := by
  obtain ⟨hlo, hhi⟩ := abs_le.1 h
  have hlower := nearest_mono (f := f) hlo
  have hupper := nearest_mono (f := f) hhi
  rw [nearest_neg, nearest_two_zpow he] at hlower
  rw [nearest_two_zpow he] at hupper
  exact abs_le.2 ⟨hlower, hupper⟩

/-- A number less than half a unit above a power of two is rounded to that. -/
theorem nearest_le_two_zpow {x : ℝ} {e : ℤ} (he : f.minExponent + f.mantissaBits ≤ e + 1)
    (h : x < 2 ^ e + 2 ^ (e - f.mantissaBits)) : nearest f x ≤ 2 ^ e := by
  have hdigits := mantissaBits_pos (f := f)
  have hpower := nearest_two_zpow (f := f) (e := e) (by omega)
  rcases le_or_gt x (2 ^ e) with hle | hgt
  · exact (nearest_mono hle).trans hpower.le
  · have hx : 0 < x := (two_zpow_pos e).trans hgt
    have hlog : Int.log 2 x = e := by
      have hlower := (two_zpow_le_iff hx).1 hgt.le
      have hupper : x < 2 ^ (e + 1) := by
        have hunit : (2 : ℝ) ^ (e - f.mantissaBits) ≤ 2 ^ e :=
          zpow_le_zpow_right₀ one_le_two (by omega)
        rw [two_zpow_add, zpow_one]
        linarith
      have hlog := (lt_two_zpow_iff hx).1 hupper
      omega
    have hplace : lastPlace f x = 1 + (e - f.mantissaBits) := by
      rw [lastPlace, abs_of_pos hx, hlog]
      omega
    have hunit := two_zpow_pos (lastPlace f x)
    -- the power of two is a whole number of units
    have hwhole : (2 : ℝ) ^ e = ((2 ^ f.mantissaBitsWithoutImplicit : ℤ) : ℝ) *
        2 ^ lastPlace f x := by
      push_cast
      rw [hplace, ← zpow_natCast, ← two_zpow_add]
      congr 1
      rw [mantissaBits_eq]
      push_cast
      ring
    have hhalf : (2 : ℝ) ^ (e - f.mantissaBits) = 1 / 2 * 2 ^ lastPlace f x := by
      rw [hplace, two_zpow_add, zpow_one]
      ring
    have hquotient : x / 2 ^ lastPlace f x - (2 ^ f.mantissaBitsWithoutImplicit : ℤ) < 1 / 2 := by
      rw [sub_lt_iff_lt_add', div_lt_iff₀ hunit, add_mul, ← hwhole, ← hhalf]
      exact h
    have hfloor : ⌊x / 2 ^ lastPlace f x⌋ = 2 ^ f.mantissaBitsWithoutImplicit := by
      rw [Int.floor_eq_iff, le_div_iff₀ hunit, ← hwhole]
      exact ⟨hgt.le, by linarith⟩
    rw [nearest, roundEven_of_lt (by rw [hfloor]; exact hquotient), hfloor, hwhole]

/-- Rounding changes a number by half a unit in its last place at most. -/
theorem abs_nearest_sub_le_half (x : ℝ) : |nearest f x - x| ≤ 2 ^ lastPlace f x / 2 := by
  have hunit := two_zpow_pos (lastPlace f x)
  have hsplit : nearest f x - x =
      (roundEven (x / 2 ^ lastPlace f x) - x / 2 ^ lastPlace f x) * 2 ^ lastPlace f x := by
    rw [nearest, sub_mul, div_mul_cancel₀ _ hunit.ne']
  rw [hsplit, abs_mul, abs_of_pos hunit]
  have hround := mul_le_mul_of_nonneg_right (abs_roundEven_sub_le (x / 2 ^ lastPlace f x)) hunit.le
  linarith

/-- Rounding changes a number whose digits all count by one part in two to the number of digits at
most. -/
theorem abs_nearest_sub_le_of_lastPlace {x : ℝ} (hx : x ≠ 0)
    (h : lastPlace f x = Int.log 2 |x| + 1 - f.mantissaBits) :
    |nearest f x - x| ≤ |x| * 2 ^ (-f.mantissaBits : ℤ) := by
  calc |nearest f x - x| ≤ 2 ^ lastPlace f x / 2 := abs_nearest_sub_le_half x
    _ = 2 ^ Int.log 2 |x| * 2 ^ (-f.mantissaBits : ℤ) := by
      rw [h, add_sub_assoc, sub_eq_add_neg, two_zpow_add, two_zpow_add, zpow_one]
      ring
    _ ≤ |x| * 2 ^ (-f.mantissaBits : ℤ) :=
      mul_le_mul_of_nonneg_right (two_zpow_log_le (abs_pos.2 hx)) (two_zpow_pos _).le

/-- Rounding changes a number that is not too near to zero by one part in two to the number of
digits at most. -/
theorem abs_nearest_sub_le {x : ℝ} (h : 2 ^ (f.minExponent + f.mantissaBits - 1) ≤ |x|) :
    |nearest f x - x| ≤ |x| * 2 ^ (-f.mantissaBits : ℤ) := by
  have hx : 0 < |x| := lt_of_lt_of_le (two_zpow_pos _) h
  refine abs_nearest_sub_le_of_lastPlace (abs_pos.1 hx) ?_
  have hlog := (two_zpow_le_iff hx).1 h
  rw [lastPlace]
  omega

/-- Rounding changes any number by that much, and by half of the smallest number at most. -/
theorem abs_nearest_sub_le_add (x : ℝ) :
    |nearest f x - x| ≤ |x| * 2 ^ (-f.mantissaBits : ℤ) + 2 ^ f.minExponent / 2 := by
  have hunit := two_zpow_pos f.minExponent
  have hpart : 0 ≤ |x| * 2 ^ (-f.mantissaBits : ℤ) :=
    mul_nonneg (abs_nonneg x) (two_zpow_pos _).le
  rcases eq_or_ne x 0 with rfl | hx
  · rw [nearest_zero, sub_zero, abs_zero, zero_mul, zero_add]
    exact (half_pos hunit).le
  · rcases max_choice (Int.log 2 |x| + 1 - f.mantissaBits) f.minExponent with hplace | hplace
    · have hle := abs_nearest_sub_le_of_lastPlace hx hplace
      linarith
    · have hle := abs_nearest_sub_le_half (f := f) x
      rw [lastPlace, hplace] at hle
      linarith

end RemoteDisplay.Binary
