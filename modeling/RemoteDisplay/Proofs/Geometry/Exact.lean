/-
**How exact the reported position is.**

The position on the canvas is meant to be the offset times the logical size over the shown size, cut
off toward zero.  The scale is rounded before it is multiplied, so what is cut off is the exact
quotient up to some parts in `2 ^ 53`.  That changes nothing unless a whole number lies between the
two, and it does when the quotient is a whole number itself and the scale has been rounded down:
then the reported position is one nearer to zero.

For whole sizes and offsets that are not very large this is all that can happen, and it cannot when
the scale is exact.  For any others of 31 bits the position is never more than one off.

Main definitions:

* `RemoteDisplay.IsWhole` — a double that is a whole number of 31 bits;
* `RemoteDisplay.exactCoordinate` — the exact position along an axis;
* `RemoteDisplay.Reports` — how what is reported differs from it.

Main results:

* `RemoteDisplay.Binary.abs_twice_rounded_sub_le` — rounding twice changes a product by three parts
  in `2 ^ 53` at most;
* `RemoteDisplay.Geometry.toCanvas_near` — **the reported position is the exact one, or next to
  it**;
* `RemoteDisplay.Geometry.not_toCanvas_exact` — **it is not always the exact one**.
-/
import RemoteDisplay.Proofs.Double.Value

set_option relaxedAutoImplicit false
set_option autoImplicit false

namespace RemoteDisplay

open Binary Double

/-! ### Cutting off -/

namespace Binary

/-- A quotient of whole numbers is cut off by the division that rounds toward zero. -/
theorem cutOff_div (n : ℤ) (d : ℕ) : cutOff ((n : ℝ) / d) = n.tdiv d := by
  have hnonneg (m : ℕ) : cutOff ((m : ℝ) / d) = (m : ℤ).tdiv d := by
    rw [cutOff, if_pos (by positivity), Int.floor_div_natCast, Int.floor_natCast,
      Int.tdiv_eq_ediv_of_nonneg (Int.natCast_nonneg m)]
  obtain ⟨m, rfl | rfl⟩ := n.eq_nat_or_neg
  · exact hnonneg m
  · rw [Int.cast_neg, neg_div, cutOff_neg, Int.neg_tdiv]
    exact congrArg _ (hnonneg m)

/-- Two numbers less than a unit apart are cut off to the same whole number or to neighbours. -/
theorem abs_cutOff_sub_le {x y : ℝ} (h : |x - y| < 1) : |cutOff x - cutOff y| ≤ 1 := by
  have hstep (z : ℝ) : cutOff (z + 1) ≤ cutOff z + 1 := by
    rw [cutOff, cutOff]
    split
    case isTrue hnext =>
      rw [Int.floor_add_one]
      split
      case isTrue hz => exact le_rfl
      case isFalse hz => exact add_le_add_left (Int.floor_le_ceil z) 1
    case isFalse hnext => rw [if_neg (by linarith), Int.ceil_add_one]
  obtain ⟨hlo, hhi⟩ := abs_lt.1 h
  have hx := cutOff_mono (show x ≤ y + 1 by linarith)
  have hy := cutOff_mono (show y ≤ x + 1 by linarith)
  have hx' := hstep y
  have hy' := hstep x
  rw [abs_le]
  omega

/-- No whole number lies between a fraction and a number that is nearer to it than a unit of its
denominator. -/
theorem cutOff_of_near {x : ℝ} {n : ℤ} {d : ℕ} (hd : 0 < d) (hdvd : ¬ (d : ℤ) ∣ n)
    (h : |x - n / d| < 1 / d) : cutOff x = n.tdiv d := by
  have hpos : (0 : ℝ) < d := mod_cast hd
  have hnonneg (m : ℕ) (y : ℝ) (hm : ¬ d ∣ m) (hy : |y - m / d| < 1 / d) :
      cutOff y = (m : ℤ).tdiv d := by
    have hdivision := Nat.div_add_mod m d
    have hrest := Nat.mod_lt m hd
    have hrest' : m % d ≠ 0 := fun hzero => hm (Nat.dvd_of_mod_eq_zero hzero)
    obtain ⟨hlo, hhi⟩ := abs_lt.1 hy
    have hlower : ((m / d : ℕ) : ℝ) ≤ (m - 1) / d := by
      rw [le_div_iff₀ hpos]
      have hle : (m / d) * d + 1 ≤ m := by
        rw [mul_comm]
        omega
      have hcast : ((m / d : ℕ) : ℝ) * d + 1 ≤ m := mod_cast hle
      linarith
    have hupper : ((m : ℝ) + 1) / d ≤ (m / d : ℕ) + 1 := by
      rw [div_le_iff₀ hpos]
      have hle : m + 1 ≤ (m / d + 1) * d := by
        rw [mul_comm, mul_add]
        omega
      exact_mod_cast hle
    rw [sub_div] at hlower
    rw [add_div] at hupper
    rw [cutOff_eq (n := m / d) (by linarith) (by linarith),
      Int.tdiv_eq_ediv_of_nonneg (Int.natCast_nonneg m)]
    rfl
  obtain ⟨m, rfl | rfl⟩ := n.eq_nat_or_neg
  · exact hnonneg m x (mod_cast hdvd) h
  · have hneg : |-x - m / d| < 1 / d := by
      rw [← abs_neg]
      convert h using 2
      push_cast
      ring
    have hm := hnonneg m (-x) (by rwa [Int.dvd_neg, Int.natCast_dvd_natCast] at hdvd) hneg
    rw [cutOff_neg] at hm
    rw [Int.neg_tdiv]
    omega

/-- A number less than a unit from a whole number is cut off to that or to the one before it. -/
theorem cutOff_of_whole {x : ℝ} {n : ℤ} (h : |x - n| < 1) :
    cutOff x = n ∨ cutOff x = n - n.sign := by
  have hpos (m : ℕ) (y : ℝ) (hy : |y - (m + 1)| < 1) : cutOff y = m + 1 ∨ cutOff y = m := by
    obtain ⟨hlo, hhi⟩ := abs_lt.1 hy
    rcases le_or_gt ((m : ℝ) + 1) y with hle | hgt
    · exact .inl (cutOff_eq (n := m + 1) (by exact_mod_cast hle) (by push_cast; linarith))
    · exact .inr (cutOff_eq (by linarith) hgt)
  rcases n with (_ | m) | m
  · have hsmall : |x| < 1 := by simpa using h
    obtain ⟨hlo, hhi⟩ := abs_lt.1 hsmall
    rcases le_or_gt 0 x with hx | hx
    · exact .inl (cutOff_eq (n := 0) (by simpa using hx) (by simpa using hhi))
    · have hneg := cutOff_eq (x := -x) (n := 0) (by simpa using hx.le) (by simp; linarith)
      rw [cutOff_neg] at hneg
      exact .inl (by simpa using hneg)
  · have hm := hpos m x (by simpa using h)
    simpa using hm
  · have hneg : |-x - (m + 1)| < 1 := by
      rw [← abs_neg]
      convert h using 2
      push_cast
      ring
    have hm := hpos m (-x) hneg
    rw [cutOff_neg] at hm
    rw [Int.sign_negSucc]
    omega

end Binary

/-! ### Rounding twice -/

namespace Binary

/-- Two relative errors add up. -/
theorem abs_sub_le_of_relative {p q r u : ℝ} (hu : 0 ≤ u) (hu' : u ≤ 1) (hr : |r - q| ≤ |q| * u)
    (hp : |p - r| ≤ |r| * u) : |p - q| ≤ |q| * (3 * u) := by
  have hbound : |r| ≤ |q| * (1 + u) := by
    have h := abs_sub_abs_le_abs_sub r q
    linarith
  calc |p - q| ≤ |p - r| + |r - q| := abs_sub_le _ _ _
    _ ≤ |q| * (1 + u) * u + |q| * u :=
        add_le_add (hp.trans (mul_le_mul_of_nonneg_right hbound hu)) hr
    _ = |q| * ((2 + u) * u) := by ring
    _ ≤ |q| * (3 * u) :=
        mul_le_mul_of_nonneg_left (mul_le_mul_of_nonneg_right (by linarith) hu) (abs_nonneg q)

/-- A product by a rounded factor, rounded again, is off by three parts in `2 ^ 53` at most. -/
theorem abs_twice_rounded_sub_le (k : ℤ) {s : ℝ} (hs : 2 ^ (-1022 : ℤ) ≤ s) :
    |nearest .binary64 (k * nearest .binary64 s) - k * s| ≤ |k * s| * (3 * 2 ^ (-53 : ℤ)) := by
  have hs' : 0 < s := (two_zpow_pos _).trans_le hs
  have hfirst : |nearest .binary64 s - s| ≤ |s| * 2 ^ (-53 : ℤ) :=
    abs_nearest_sub_le (hs.trans (le_abs_self s))
  have hlarge : (2 : ℝ) ^ (-1022 : ℤ) ≤ nearest .binary64 s := by
    have hmono := nearest_mono (f := .binary64) hs
    rwa [nearest_two_zpow (by decide)] at hmono
  refine abs_sub_le_of_relative (two_zpow_pos _).le (by norm_num)
    (r := k * nearest .binary64 s) ?_ ?_
  · rw [← mul_sub, abs_mul, abs_mul, mul_assoc]
    exact mul_le_mul_of_nonneg_left hfirst (abs_nonneg _)
  · rcases eq_or_ne k 0 with rfl | hk
    · simp
    · refine abs_nearest_sub_le ?_
      rw [abs_mul]
      have hk' : (1 : ℝ) ≤ |(k : ℝ)| := by exact_mod_cast Int.one_le_abs hk
      calc (2 : ℝ) ^ (-1022 : ℤ) ≤ 1 * |nearest .binary64 s| := by
            rw [one_mul]
            exact hlarge.trans (le_abs_self _)
        _ ≤ |(k : ℝ)| * |nearest .binary64 s| := mul_le_mul_of_nonneg_right hk' (abs_nonneg _)

/-- A fraction whose denominator becomes a divisor when the numerator is doubled often enough is a
whole number of binary units. -/
theorem exists_eq_mul_two_zpow {m d j : ℕ} (hd : 0 < d) (hlt : d < 2 ^ 31) (h : d ∣ m * 2 ^ j) :
    ∃ a i : ℕ, (m : ℝ) / d = a * 2 ^ (-i : ℤ) ∧ a ≤ m ∧ i < 31 := by
  obtain ⟨g, a, b, hg, hcoprime, rfl, rfl⟩ := Nat.exists_coprime' (Nat.gcd_pos_of_pos_right m hd)
  have hdvd : b ∣ 2 ^ j := by
    have hcancel : b * g ∣ a * 2 ^ j * g := by rwa [mul_right_comm] at h
    exact hcoprime.symm.dvd_of_dvd_mul_left (Nat.dvd_of_mul_dvd_mul_right hg hcancel)
  obtain ⟨i, -, rfl⟩ := (Nat.dvd_prime_pow Nat.prime_two).1 hdvd
  refine ⟨a, i, ?_, Nat.le_mul_of_pos_right a hg, ?_⟩
  · have hg' : (g : ℝ) ≠ 0 := mod_cast hg.ne'
    push_cast
    rw [mul_div_mul_right _ _ hg', zpow_neg, zpow_natCast, div_eq_mul_inv]
  · have hpow : 2 ^ i < 2 ^ 31 := (Nat.le_mul_of_pos_right (2 ^ i) hg).trans_lt hlt
    exact (Nat.pow_lt_pow_iff_right one_lt_two).1 hpow

end Binary

/-! ### One axis -/

/-- A double that is a whole number of 31 bits. -/
def IsWhole (x : Float) (n : ℤ) : Prop := value? x = some ((n : ℝ) : EReal) ∧ |n| < 2 ^ 31

/-- The exact position along an axis: the offset times the logical size over the shown size, cut off
toward zero and held inside 32 bits. -/
def exactCoordinate (logical : UInt32) (displayed : ℕ) (offset : ℤ) : Int32 :=
  .ofIntClamp ((offset * logical.toNat).tdiv displayed)

/-- What is reported for an offset is the exact position or next to it.  Where the product of the
offset and the logical size is not very large, it is the exact position or one nearer to zero; and
it is the exact one unless that is a whole number and the scale is not exact. -/
structure Reports (logical : UInt32) (displayed : ℕ) (offset : ℤ) (reported : Int32) : Prop where
  near : |reported.toInt - (exactCoordinate logical displayed offset).toInt| ≤ 1
  short : |offset * logical.toNat| ≤ 2 ^ 51 →
    reported.toInt = (exactCoordinate logical displayed offset).toInt ∨
      reported.toInt = (exactCoordinate logical displayed offset).toInt -
        (offset * logical.toNat).sign
  exact : |offset * logical.toNat| ≤ 2 ^ 51 →
    (¬ (displayed : ℤ) ∣ offset * logical.toNat ∨ ∃ j : ℕ, displayed ∣ logical.toNat * 2 ^ j) →
    reported = exactCoordinate logical displayed offset

section

variable {x o d : Float} {m n : ℤ} {k : ℕ}

theorem IsWhole.abs_sub_lt (hx : IsWhole x m) (ho : IsWhole o n) : |m - n| < 2 ^ 32 := by
  have hm := abs_lt.1 hx.2
  have hn := abs_lt.1 ho.2
  rw [abs_lt]
  omega

/-- Whole numbers are subtracted exactly. -/
theorem IsWhole.level_sub (hx : IsWhole x m) (ho : IsWhole o n) :
    level (x - o) = ((m - n : ℤ) : ℝ) := by
  have hlt : |m - n| < 2 ^ 53 := (hx.abs_sub_lt ho).trans (by norm_num)
  refine level_of_value? ?_
  rw [value?_sub, hx.1, ho.1, Option.bind_some, Option.bind_some, difference?_coe, ← EReal.coe_sub,
    ← Int.cast_sub, rounded_coe, nearest_intCast hlt,
    bounded_of_abs_lt_two_zpow (e := 53) (by decide) (by exact_mod_cast hlt)]

theorem abs_scale_le (logical : UInt32) (hk : 0 < k) :
    |nearest .binary64 ((logical.toNat : ℝ) / k)| ≤ 2 ^ (32 : ℤ) := by
  have hk' : (1 : ℝ) ≤ k := mod_cast hk
  have hlogical : (logical.toNat : ℝ) ≤ 2 ^ (32 : ℤ) := by exact_mod_cast logical.toNat_lt.le
  refine abs_nearest_le_two_zpow (by decide) ?_
  rw [abs_of_nonneg (by positivity)]
  exact (div_le_self (Nat.cast_nonneg _) hk').trans hlogical

/-- The scale is the rounded quotient of the sizes. -/
theorem IsWhole.level_axisScale (logical : UInt32) (hd : IsWhole d k) (hk : 0 < k) :
    level (axisScale logical d) = (nearest .binary64 (logical.toNat / k) : ℝ) := by
  have hpos : (0 : EReal) < ((k : ℝ) : EReal) := EReal.coe_pos.2 (mod_cast hk)
  have hvalue : value? d = some ((k : ℝ) : EReal) := hd.1
  have hshown : d > 0 := lt_iff.2 ⟨0, k, value?_zero, hvalue, hpos⟩
  have hne : value? d ≠ some 0 := fun h => hpos.ne' (Option.some.inj (hvalue.symm.trans h))
  rw [axisScale, if_pos hshown, level_div hne, level_of_value? hvalue,
    level_of_value? (value?_toFloat logical), ← EReal.coe_div, rounded_coe,
    bounded_of_abs_lt_two_zpow (e := 33) (by decide)]
  exact (abs_scale_le logical hk).trans_lt (by norm_num)

/-- What is cut off is the product of the offset and the rounded scale, rounded again. -/
theorem toInt_coordinate (logical : UInt32) (hx : IsWhole x m) (ho : IsWhole o n)
    (hd : IsWhole d k) (hk : 0 < k) :
    (truncate ((x - o) * axisScale logical d)).toInt =
      toWord (nearest .binary64 ((m - n : ℤ) * nearest .binary64 (logical.toNat / k)) : ℝ) := by
  have hbound : |((m - n : ℤ) : ℝ) * nearest .binary64 (logical.toNat / k)| ≤ 2 ^ (64 : ℤ) := by
    have hoffset : |((m - n : ℤ) : ℝ)| ≤ 2 ^ (32 : ℤ) := by
      exact_mod_cast (hx.abs_sub_lt ho).le
    rw [abs_mul, show (64 : ℤ) = 32 + 32 by norm_num, two_zpow_add]
    exact mul_le_mul hoffset (abs_scale_le logical hk) (abs_nonneg _) (two_zpow_pos _).le
  rw [toInt_truncate, level_mul, hx.level_sub ho, hd.level_axisScale logical hk, ← EReal.coe_mul,
    rounded_coe, bounded_of_abs_lt]
  exact (abs_nearest_le_two_zpow (by decide) hbound).trans_lt
    (zpow_lt_zpow_right₀ one_lt_two (by decide))

/-- What is cut off differs from the exact quotient by three parts in `2 ^ 53` at most. -/
theorem abs_product_sub_le (logical : UInt32) (offset : ℤ) (hk : 0 < k) (hlt : k < 2 ^ 31) :
    |nearest .binary64 (offset * nearest .binary64 (logical.toNat / k)) -
        (offset * logical.toNat : ℤ) / k| ≤
      |((offset * logical.toNat : ℤ) : ℝ) / k| * (3 * 2 ^ (-53 : ℤ)) := by
  have hsplit : ((offset * logical.toNat : ℤ) : ℝ) / k = offset * (logical.toNat / k) := by
    push_cast
    ring
  rw [hsplit]
  rcases Nat.eq_zero_or_pos logical.toNat with hzero | hpos
  · simp [hzero]
  · refine abs_twice_rounded_sub_le offset ?_
    have hk' : (0 : ℝ) < k := mod_cast hk
    rw [le_div_iff₀ hk']
    have hlogical : (1 : ℝ) ≤ logical.toNat := mod_cast hpos
    calc (2 : ℝ) ^ (-1022 : ℤ) * k ≤ 2 ^ (-1022 : ℤ) * 2 ^ (31 : ℤ) :=
          mul_le_mul_of_nonneg_left (by exact_mod_cast hlt.le) (two_zpow_pos _).le
      _ = 2 ^ (-991 : ℤ) := (two_zpow_add _ _).symm
      _ ≤ 1 := zpow_le_one_of_nonpos₀ one_le_two (by norm_num)
      _ ≤ logical.toNat := hlogical

/-- An exact scale is multiplied exactly. -/
theorem product_of_exact {logical : UInt32} {offset : ℤ} {j : ℕ} (hk : 0 < k) (hlt : k < 2 ^ 31)
    (hproduct : |offset * logical.toNat| ≤ 2 ^ 51) (h : k ∣ logical.toNat * 2 ^ j) :
    nearest .binary64 (offset * nearest .binary64 (logical.toNat / k)) =
      (offset * logical.toNat : ℤ) / k := by
  obtain ⟨a, i, hscale, hle, hi⟩ := exists_eq_mul_two_zpow hk hlt h
  have hlogical := logical.toNat_lt
  have ha : |(a : ℤ)| < 2 ^ 53 := by
    rw [Nat.abs_cast]
    omega
  have hexponent : Float.Model.Format.binary64.minExponent ≤ (-i : ℤ) := by
    rw [minExponent_binary64]
    omega
  have hself : nearest .binary64 ((a : ℝ) * 2 ^ (-i : ℤ)) = a * 2 ^ (-i : ℤ) := by
    exact_mod_cast nearest_eq_self ha hexponent
  have hsmall : |offset * a| < 2 ^ 53 := by
    have hle' : |offset * a| ≤ |offset * logical.toNat| := by
      rw [abs_mul, abs_mul, Nat.abs_cast, Nat.abs_cast]
      exact mul_le_mul_of_nonneg_left (mod_cast hle) (abs_nonneg offset)
    omega
  have hself' := nearest_eq_self hsmall hexponent
  calc nearest .binary64 (offset * nearest .binary64 (logical.toNat / k))
      = nearest .binary64 ((offset * a : ℤ) * 2 ^ (-i : ℤ)) := by
        rw [hscale, hself]
        push_cast
        rw [mul_assoc]
    _ = offset * (a * 2 ^ (-i : ℤ)) := by
        rw [hself']
        push_cast
        rw [mul_assoc]
    _ = (offset * logical.toNat : ℤ) / k := by
        rw [← hscale]
        push_cast
        rw [mul_div_assoc]

/-- What is cut off is nearer to the exact quotient than a unit of its denominator, if the product
of the offset and the logical size is not very large. -/
theorem abs_product_sub_lt {logical : UInt32} {offset : ℤ} (hk : 0 < k) (hlt : k < 2 ^ 31)
    (hproduct : |offset * logical.toNat| ≤ 2 ^ 51) :
    |nearest .binary64 (offset * nearest .binary64 (logical.toNat / k)) -
        (offset * logical.toNat : ℤ) / k| <
      1 / k := by
  have hk' : (0 : ℝ) < k := mod_cast hk
  refine (abs_product_sub_le logical offset hk hlt).trans_lt ?_
  rw [abs_div, abs_of_pos hk', div_mul_eq_mul_div]
  refine div_lt_div_of_pos_right ?_ hk'
  have hcast : |((offset * logical.toNat : ℤ) : ℝ)| ≤ 2 ^ (51 : ℤ) := by exact_mod_cast hproduct
  calc |((offset * logical.toNat : ℤ) : ℝ)| * (3 * 2 ^ (-53 : ℤ))
      ≤ 2 ^ (51 : ℤ) * (3 * 2 ^ (-53 : ℤ)) :=
        mul_le_mul_of_nonneg_right hcast (by positivity)
    _ < 1 := by norm_num

end

/-! ### Held inside 32 bits -/

theorem toWord_of_large {x : ℝ} (h : 2 ^ 31 ≤ x) : toWord x = 2 ^ 31 - 1 := by
  have hcut := cutOff_mono h
  have hwhole : cutOff (2 ^ 31) = 2 ^ 31 := by
    exact_mod_cast cutOff_eq (x := 2 ^ 31) (n := 2 ^ 31) (by norm_num) (by norm_num)
  rw [hwhole] at hcut
  rw [toWord_coe]
  omega

theorem toWord_of_small {x : ℝ} (h : x ≤ -2 ^ 31) : toWord x = -2 ^ 31 := by
  have hcut := cutOff_mono h
  have hwhole : cutOff (2 ^ 31) = 2 ^ 31 := by
    exact_mod_cast cutOff_eq (x := 2 ^ 31) (n := 2 ^ 31) (by norm_num) (by norm_num)
  rw [cutOff_neg, hwhole] at hcut
  rw [toWord_coe]
  omega

/-- Inside the range of a word less than a unit lies between the two numbers, and far from it both
are held at the same end. -/
theorem abs_toWord_sub_le {x y : ℝ} (h : |x - y| ≤ |y| * (3 * 2 ^ (-53 : ℤ))) :
    |toWord x - toWord y| ≤ 1 := by
  have hhalf : (3 : ℝ) * 2 ^ (-53 : ℤ) ≤ 1 / 2 := by norm_num
  rcases le_or_gt |y| (2 ^ 32) with hnear | hfar
  · have hunit : |x - y| < 1 := by
      calc |x - y| ≤ |y| * (3 * 2 ^ (-53 : ℤ)) := h
        _ ≤ 2 ^ 32 * (3 * 2 ^ (-53 : ℤ)) := mul_le_mul_of_nonneg_right hnear (by positivity)
        _ < 1 := by norm_num
    have hcut := abs_le.1 (abs_cutOff_sub_le hunit)
    rw [toWord_coe, toWord_coe, abs_le]
    omega
  · have hle : |x - y| ≤ |y| / 2 := by
      have hmul := h.trans (mul_le_mul_of_nonneg_left hhalf (abs_nonneg y))
      rwa [mul_one_div] at hmul
    obtain ⟨hlo, hhi⟩ := abs_le.1 hle
    rcases le_or_gt 0 y with hy | hy
    · rw [abs_of_nonneg hy] at hfar hlo
      rw [toWord_of_large (by linarith), toWord_of_large (by linarith), sub_self]
      norm_num
    · rw [abs_of_neg hy] at hfar hhi
      rw [toWord_of_small (by linarith), toWord_of_small (by linarith), sub_self]
      norm_num

theorem toInt_exactCoordinate (logical : UInt32) (displayed : ℕ) (offset : ℤ) :
    (exactCoordinate logical displayed offset).toInt =
      toWord (((offset * logical.toNat : ℤ) : ℝ) / displayed : ℝ) := by
  rw [exactCoordinate, toInt_ofIntClamp, toWord_coe, cutOff_div]

/-- A number less than a unit from a whole number is held at that or at the one before it. -/
theorem toWord_of_whole {x : ℝ} {n : ℤ} (h : |x - n| < 1) :
    toWord x = toWord (n : ℝ) ∨ toWord x = toWord (n : ℝ) - n.sign := by
  have hself : cutOff (n : ℝ) = n := by simpa using cutOff_div n 1
  rw [toWord_coe, toWord_coe, hself]
  rcases cutOff_of_whole h with hcut | hcut
  · exact .inl (by rw [hcut])
  · rw [hcut]
    rcases lt_trichotomy n 0 with hneg | rfl | hpos
    · rw [Int.sign_eq_neg_one_of_neg hneg]
      omega
    · exact .inl (by rw [Int.sign_zero, sub_zero])
    · rw [Int.sign_eq_one_of_pos hpos]
      omega

/-- What is reported along an axis. -/
theorem reports_coordinate {x o d : Float} {m n : ℤ} {k : ℕ} (logical : UInt32) (hx : IsWhole x m)
    (ho : IsWhole o n) (hd : IsWhole d k) (hk : 0 < k) :
    Reports logical k (m - n) (truncate ((x - o) * axisScale logical d)) := by
  have hlt : k < 2 ^ 31 := by
    have h := hd.2
    rw [Nat.abs_cast] at h
    exact_mod_cast h
  have hreported := toInt_coordinate logical hx ho hd hk
  have hexact := toInt_exactCoordinate logical k (m - n)
  have hnear := @abs_product_sub_lt k logical (m - n) hk hlt
  constructor
  · rw [hreported, hexact]
    exact abs_toWord_sub_le (abs_product_sub_le logical (m - n) hk hlt)
  · intro hproduct
    rw [hreported, hexact]
    by_cases hdvd : (k : ℤ) ∣ (m - n) * logical.toNat
    · obtain ⟨c, hc⟩ := hdvd
      have hk' : (k : ℝ) ≠ 0 := mod_cast hk.ne'
      have hquotient : (((m - n) * logical.toNat : ℤ) : ℝ) / k = c := by
        rw [hc, Int.cast_mul, Int.cast_natCast, mul_div_cancel_left₀ _ hk']
      have hsign : ((m - n) * logical.toNat : ℤ).sign = c.sign := by
        rw [hc, Int.sign_mul, Int.sign_natCast_of_ne_zero hk.ne', one_mul]
      have hunit := (hnear hproduct).trans_le (div_le_one_of_le₀ (mod_cast hk) (Nat.cast_nonneg k))
      rw [hquotient] at hunit
      rw [hquotient, hsign]
      exact toWord_of_whole hunit
    · left
      rw [toWord_coe, toWord_coe, cutOff_of_near hk hdvd (hnear hproduct), cutOff_div]
  · intro hproduct hsettled
    rw [← Int32.toInt_inj, hreported, hexact, toWord_coe, toWord_coe]
    congr 2
    rcases hsettled with hdvd | ⟨j, hscale⟩
    · rw [cutOff_of_near hk hdvd (hnear hproduct), cutOff_div]
    · rw [product_of_exact hk hlt hproduct hscale]

/-! ### Both axes -/

namespace Geometry

variable {g : Geometry} {p : Point} {left top x y : ℤ} {width height : ℕ}

/-- **The reported position is the exact one, or next to it.**  The canvas lies at a whole position
of the screen and has a whole size there, and so does the point. -/
theorem toCanvas_near (hleft : IsWhole g.bbox.left left) (htop : IsWhole g.bbox.top top)
    (hwidth : IsWhole g.bbox.width width) (hheight : IsWhole g.bbox.height height)
    (hx : IsWhole p.x x) (hy : IsWhole p.y y) (hwide : 0 < width) (hhigh : 0 < height) :
    Reports g.width width (x - left) (g.toCanvas p).x ∧
      Reports g.height height (y - top) (g.toCanvas p).y :=
  ⟨reports_coordinate g.width hx hleft hwidth hwide,
    reports_coordinate g.height hy htop hheight hhigh⟩

theorem isWhole_toFloat {n : UInt32} (h : n.toNat < 2 ^ 31) : IsWhole n.toFloat n.toNat := by
  refine ⟨value?_toFloat n, ?_⟩
  rw [Nat.abs_cast]
  exact_mod_cast h

/-- A canvas of 800 by 600 that is shown at half its size. -/
theorem toCanvas_near_small :
    let g : Geometry := ⟨800, 600, ⟨10, 10, 400, 300⟩⟩
    let p : Point := ⟨110, 110⟩
    IsWhole g.bbox.left 10 ∧ IsWhole g.bbox.top 10 ∧ IsWhole g.bbox.width 400 ∧
      IsWhole g.bbox.height 300 ∧ IsWhole p.x 110 ∧ IsWhole p.y 110 ∧
      (g.toCanvas p).x = exactCoordinate 800 400 100 ∧
      (g.toCanvas p).y = exactCoordinate 600 300 100 ∧ g.toCanvas p = ⟨200, 200⟩ := by
  intro g p
  have hten : IsWhole (10 : Float) 10 := isWhole_toFloat (n := 10) (by decide)
  have hwidth : IsWhole (400 : Float) 400 := isWhole_toFloat (n := 400) (by decide)
  have hheight : IsWhole (300 : Float) 300 := isWhole_toFloat (n := 300) (by decide)
  have hpoint : IsWhole (110 : Float) 110 := isWhole_toFloat (n := 110) (by decide)
  obtain ⟨hx, hy⟩ := @toCanvas_near g p 10 10 110 110 400 300 hten hten hwidth hheight hpoint hpoint
    (by decide) (by decide)
  exact ⟨hten, hten, hwidth, hheight, hpoint, hpoint,
    hx.exact (by decide) (.inr ⟨0, by decide⟩), hy.exact (by decide) (.inr ⟨0, by decide⟩),
    by decide⟩

/-- **The reported position is not always the exact one.**  A canvas of 720 rows is shown 700 rows
high; 105 of these are exactly 108 of those, and 107 is reported. -/
theorem not_toCanvas_exact :
    let g : Geometry := ⟨1280, 720, ⟨0, 0, 1280, 700⟩⟩
    let p : Point := ⟨640, 105⟩
    IsWhole g.bbox.left 0 ∧ IsWhole g.bbox.top 0 ∧ IsWhole g.bbox.width 1280 ∧
      IsWhole g.bbox.height 700 ∧ IsWhole p.x 640 ∧ IsWhole p.y 105 ∧
      exactCoordinate g.width 1280 (640 - 0) = 640 ∧ exactCoordinate g.height 700 (105 - 0) = 108 ∧
      g.toCanvas p = ⟨640, 107⟩ ∧
      (g.toCanvas p).y ≠ exactCoordinate g.height 700 (105 - 0) := by
  intro g p
  exact ⟨isWhole_toFloat (n := 0) (by decide), isWhole_toFloat (n := 0) (by decide),
    isWhole_toFloat (n := 1280) (by decide), isWhole_toFloat (n := 700) (by decide),
    isWhole_toFloat (n := 640) (by decide), isWhole_toFloat (n := 105) (by decide),
    by decide, by decide, by decide, by decide⟩

end Geometry

end RemoteDisplay
