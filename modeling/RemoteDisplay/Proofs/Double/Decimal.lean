/-
**The doubles of decimals.**

A whole number times a power of ten is turned into a double in one of several ways.  If both are
doubles themselves, they are multiplied or divided as such; otherwise the product or the quotient is
formed exactly, unless the power is so large, or so small, that the result is known.  Whichever way
is taken, the result is the nearest double, and it has the sign of the decimal even when it is zero.

A double is known by its value and its sign, so that this says which double it is.

Main definitions:

* `RemoteDisplay.Double.IsDouble` — the double of a sign and a size;
* `RemoteDisplay.Double.IsNearest` — the double nearest to a number of a sign and a size.

Main results:

* `RemoteDisplay.Double.isDouble_ofScientific` — a whole number times a power of ten is rounded
  once;
* `RemoteDisplay.Double.isDouble_toFloat` — **a decimal has the nearest double**;
* `RemoteDisplay.Double.eq_of_value?_eq` — a double is known by its value and its sign;
* `RemoteDisplay.Double.IsNearest.unique` — there is one nearest double.
-/
import RemoteDisplay.Number.Real
import RemoteDisplay.Proofs.Binary.Sign
import RemoteDisplay.Proofs.Double.Value

set_option relaxedAutoImplicit false
set_option autoImplicit false

namespace RemoteDisplay.Double

open Float.Model Float.Model.UnpackedFloat Binary

/-! ### Doubles with a sign and a size -/

/-- The double with this sign and this size. -/
def IsDouble (s : Sign) (a : EReal) (x : Float) : Prop := HasSize s a x.toModel.unpack

/-- A double above zero has a plus. -/
theorem isDouble_of_pos {x : Float} {a : EReal} (hx : value? x = some a) (h : 0 < a) :
    IsDouble .positive a x :=
  ⟨hx, signOf_of_pos hx h⟩

section

variable {x y : Float} {a b : ℝ} {s t : Sign}

theorem IsDouble.holds (h : IsDouble s a x) : Holds .binary64 x.toModel.unpack (signed s a) :=
  (fits_unpack _).holds (h.value.trans (congrArg some (coe_signed s a).symm))

/-- The product of two numbers. -/
theorem IsDouble.mul (hx : IsDouble s a x) (hy : IsDouble t b y) :
    IsDouble (s * t) (rounded .binary64 ((a * b : ℝ) : EReal)) (x * y) := by
  have hholds := hx.holds.mul hy.holds
  rw [← signed_mul, nearest_signed] at hholds
  exact hholds.hasSize_kept ((hx.holds.signOf_mul hy.holds).trans (by rw [hx.sign, hy.sign]))

/-- The quotient of two numbers. -/
theorem IsDouble.div (hx : IsDouble s a x) (hy : IsDouble t b y) (hb : b ≠ 0) :
    IsDouble (s / t) (rounded .binary64 ((a / b : ℝ) : EReal)) (x / y) := by
  have hb' := signed_ne_zero t hb
  have hholds := hx.holds.div hy.holds hb'
  rw [← signed_div, nearest_signed] at hholds
  exact hholds.hasSize_kept ((hx.holds.signOf_div hy.holds hb').trans (by rw [hx.sign, hy.sign]))

end

/-! ### Whole numbers and powers of ten -/

theorem valueOf?_ofNat (n : ℕ) :
    valueOf? (Float.Model.ofNat n).unpack = some (rounded .binary64 ((n : ℝ) : EReal)) := by
  have hholds := holds_normalize (f := .binary64) n 0 .positive
  rw [zpow_zero, mul_one, Int.cast_natCast] at hholds
  exact hholds.valueOf?_kept

/-- The table of powers of ten holds the first 23. -/
theorem powersOfTen (e : Fin 23) :
    Float.exactlyRepresentablePowersOfTen[e.val] = .ofModel (.ofNat (10 ^ e.val)) := by
  revert e
  decide

theorem value?_powerOfTen {e : ℕ} (h : e < 23) :
    value? Float.exactlyRepresentablePowersOfTen[e] = some ((10 ^ e : ℝ) : EReal) := by
  have hfive : |(5 ^ e : ℤ)| < 2 ^ 53 := by
    rw [abs_of_pos (by positivity)]
    exact (pow_le_pow_right₀ (by norm_num) (by omega : e ≤ 22)).trans_lt (by norm_num)
  -- a power of ten has the digits of a power of five
  have hself : nearest .binary64 ((10 ^ e : ℕ) : ℝ) = 10 ^ e := by
    have hten : ((10 ^ e : ℕ) : ℝ) = (5 ^ e : ℤ) * 2 ^ (e : ℤ) := by
      rw [zpow_natCast]
      push_cast
      rw [← mul_pow]
      norm_num
    rw [hten, nearest_eq_self hfive (by rw [minExponent_binary64]; omega), ← hten]
    push_cast
    rfl
  have hbound : |((10 : ℝ) ^ e)| < limit .binary64 := by
    rw [abs_of_pos (by positivity)]
    calc (10 : ℝ) ^ e ≤ 10 ^ 22 := pow_le_pow_right₀ (by norm_num) (by omega)
      _ ≤ 2 ^ (74 : ℤ) := by norm_num
      _ < limit .binary64 := zpow_lt_zpow_right₀ one_lt_two (by decide)
  refine (congrArg value? (powersOfTen ⟨e, h⟩)).trans ((valueOf?_ofNat (10 ^ e)).trans ?_)
  rw [rounded_coe, hself, bounded_of_abs_lt hbound]

/-- A whole number of 53 digits is a double. -/
theorem value?_toUInt64 {m : ℕ} (h : m < 2 ^ 53) :
    value? m.toUInt64.toFloat = some ((m : ℝ) : EReal) := by
  have hself : m.toUInt64.toNat = m := UInt64.toNat_ofNat_of_lt' (by
    change m < 2 ^ 64
    omega)
  have hlt : |(m : ℤ)| < 2 ^ 53 := by
    rw [Nat.abs_cast]
    exact_mod_cast h
  refine (valueOf?_ofNat m.toUInt64.toNat).trans ?_
  rw [hself, rounded_coe, ← Int.cast_natCast, nearest_intCast hlt,
    bounded_of_abs_lt_two_zpow (e := 53) (by decide) (by exact_mod_cast hlt)]

/-! ### Decimals with a small power -/

theorem isDouble_powerOfTen {e : ℕ} (h : e < 23) : IsDouble .positive ((10 ^ e : ℝ) : EReal)
    Float.exactlyRepresentablePowersOfTen[e] :=
  isDouble_of_pos (value?_powerOfTen h) (EReal.coe_pos.2 (by positivity))

theorem isDouble_toUInt64 {m : ℕ} (h : m < 2 ^ 53) :
    IsDouble .positive ((m : ℝ) : EReal) m.toUInt64.toFloat := by
  have hvalue := value?_toUInt64 h
  rcases m.eq_zero_or_pos with rfl | hm
  · exact ⟨hvalue, rfl⟩
  · exact isDouble_of_pos hvalue (EReal.coe_pos.2 (mod_cast hm))

/-! ### Decimals -/

/-- Less than half of the smallest double is rounded to zero. -/
theorem nearest_of_tiny {x : ℝ} (h : 0 ≤ x) (hlt : x < 2 ^ (-1075 : ℤ)) :
    nearest .binary64 x = 0 := by
  rcases h.eq_or_lt with rfl | hpos
  · exact nearest_zero
  have hplace : lastPlace .binary64 x = -1074 := by
    have hlog := (lt_two_zpow_iff hpos).1 hlt
    rw [lastPlace, abs_of_pos hpos, minExponent_binary64, mantissaBits_binary64]
    omega
  have hhalf : x / 2 ^ lastPlace .binary64 x < 1 / 2 := by
    rw [hplace, div_lt_iff₀ (two_zpow_pos _), one_div, ← zpow_neg_one, ← two_zpow_add]
    exact hlt
  have hfloor : ⌊x / 2 ^ lastPlace .binary64 x⌋ = 0 := by
    have hquotient := div_nonneg h (two_zpow_pos (lastPlace .binary64 x)).le
    exact Int.floor_eq_zero_iff.2 ⟨hquotient, by linarith⟩
  rw [nearest, roundEven_of_lt (by rw [hfloor, Int.cast_zero, sub_zero]; exact hhalf), hfloor,
    Int.cast_zero, zero_mul]

/-- A number out of range is rounded to an infinity. -/
theorem rounded_of_limit_le {x : ℝ} (h : limit .binary64 ≤ x) : rounded .binary64 x = ⊤ := by
  have hnearest := nearest_mono (f := .binary64) h
  rw [limit_eq, nearest_two_zpow (by decide)] at hnearest
  exact bounded_of_le hnearest

theorem two_zpow_le_ten_zpow {e : ℤ} (h : 0 ≤ e) : (2 : ℝ) ^ e ≤ 10 ^ e :=
  zpow_le_zpow_left₀ h zero_le_two (by norm_num)

theorem ten_zpow_le_two_zpow {e : ℤ} (h : e ≤ 0) : (10 : ℝ) ^ e ≤ 2 ^ e := by
  have hinv := inv_anti₀ (two_zpow_pos (-e)) (two_zpow_le_ten_zpow (neg_nonneg.2 h))
  rwa [← zpow_neg, ← zpow_neg, neg_neg] at hinv

/-- A decimal with a very large power of ten is out of range. -/
theorem rounded_of_large {m : ℕ} {e : ℤ} (hm : 0 < m) (he : 2048 < e) :
    rounded .binary64 ((m * 10 ^ e : ℝ) : EReal) = ⊤ := by
  have hm' : (1 : ℝ) ≤ m := mod_cast hm
  refine rounded_of_limit_le ?_
  calc limit .binary64 ≤ 2 ^ e :=
        zpow_le_zpow_right₀ one_le_two ((by decide : _ ≤ (2048 : ℤ)).trans he.le)
    _ ≤ 10 ^ e := two_zpow_le_ten_zpow (by omega)
    _ ≤ m * 10 ^ e := le_mul_of_one_le_left (by positivity) hm'

/-- A decimal with a very small power of ten is nearer to zero than any double. -/
theorem rounded_of_small {m : ℕ} {e : ℤ} (he : e < -(2048 + (m.log2 : ℤ))) :
    rounded .binary64 ((m * 10 ^ e : ℝ) : EReal) = 0 := by
  have hdigits : (m : ℝ) < 2 ^ ((m.log2 : ℤ) + 1) := by
    rw [← Nat.cast_succ, zpow_natCast]
    exact_mod_cast Nat.lt_log2_self
  have htiny : (m : ℝ) * 10 ^ e < 2 ^ (-1075 : ℤ) := by
    calc (m : ℝ) * 10 ^ e ≤ m * 2 ^ e :=
          mul_le_mul_of_nonneg_left (ten_zpow_le_two_zpow (by omega)) (Nat.cast_nonneg m)
      _ < 2 ^ ((m.log2 : ℤ) + 1) * 2 ^ e := mul_lt_mul_of_pos_right hdigits (two_zpow_pos e)
      _ = 2 ^ ((m.log2 : ℤ) + 1 + e) := (two_zpow_add _ _).symm
      _ ≤ 2 ^ (-1075 : ℤ) := zpow_le_zpow_right₀ one_le_two (by omega)
  rw [rounded_coe, nearest_of_tiny (by positivity) htiny,
    bounded_of_abs_lt (by rw [abs_zero]; exact limit_pos _), EReal.coe_zero]

/-- Digits enough are appended to a mantissa before it is multiplied by a power of ten. -/
theorem holds_mul_power {m n : ℕ} {e : ℤ} (hm : 0 < m <<< 53) (hn : 0 < 10 ^ n) (he : e = n) :
    Holds .binary64 (UnpackedFloat.mul Format.binary64 (.finite .positive (m <<< 53) (-53) hm)
      (.finite .positive (10 ^ n) 0 hn)) (nearest .binary64 (m * 10 ^ e)) := by
  have hfull : 2 ^ 52 ≤ m <<< 53 * 10 ^ n := by
    have hm' : 0 < m := by
      rw [Nat.shiftLeft_eq] at hm
      exact Nat.pos_of_mul_pos_right hm
    rw [Nat.shiftLeft_eq]
    calc 2 ^ 52 ≤ 1 * 2 ^ 53 * 1 := by norm_num
      _ ≤ m * 2 ^ 53 * 10 ^ n := by gcongr <;> omega
  have hholds :=
    holds_mul_of_le (f := .binary64) (s := .positive) (t := .positive) (d := -53) (e := 0) hm hn
      (.inl hfull)
  have hvalue : ((m <<< 53 : ℕ) : ℝ) * 2 ^ (-53 : ℤ) = m := by
    rw [shiftLeft_cast, mul_assoc, ← zpow_natCast, ← two_zpow_add]
    norm_num
  rwa [signed_positive, signed_positive, hvalue, zpow_zero, mul_one, Nat.cast_pow, ← zpow_natCast,
    Nat.cast_ofNat, ← he] at hholds

theorem holds_div_power {m n : ℕ} {e : ℤ} (hm : 0 < m) (hn : 0 < 10 ^ n) (he : e = -n) :
    Holds .binary64 (UnpackedFloat.div Format.binary64 (.finite .positive m 0 hm)
      (.finite .positive (10 ^ n) 0 hn)) (nearest .binary64 (m * 10 ^ e)) := by
  have hholds :=
    holds_div_of_pos (f := .binary64) (s := .positive) (t := .positive) (d := 0) (e := 0) hm hn
  rwa [signed_positive, signed_positive, zpow_zero, mul_one, mul_one, Nat.cast_pow, ← zpow_natCast,
    Nat.cast_ofNat, div_eq_mul_inv, ← zpow_neg, ← he] at hholds

/-- A decimal has its nearest double, also where its power of ten is not computed. -/
theorem hasSize_ofScientific (m : ℕ) (e : ℤ) : HasSize .positive
    (rounded .binary64 ((m * 10 ^ e : ℝ) : EReal)) (Float.Model.ofScientific m e).unpack := by
  rw [Float.Model.ofScientific, UnpackedFloat.ofScientific]
  split
  case isTrue hzero =>
    rw [hzero, Nat.cast_zero, zero_mul, EReal.coe_zero, rounded_zero]
    exact ⟨rfl, rfl⟩
  case isFalse hzero =>
    have hm : 0 < m := Nat.pos_of_ne_zero hzero
    split
    case isTrue hlarge =>
      rw [rounded_of_large hm hlarge]
      exact ⟨rfl, rfl⟩
    case isFalse hlarge =>
      split
      case isTrue hsmall =>
        rw [rounded_of_small hsmall]
        exact ⟨rfl, rfl⟩
      case isFalse hsmall =>
        split
        case isTrue hnonneg =>
          exact (holds_mul_power _ _ (by omega)).hasSize_kept (signOf_roundWithAccuracy _ _ _ _)
        case isFalse hneg =>
          exact (holds_div_power hm _ (by omega)).hasSize_kept (signOf_roundWithAccuracy _ _ _ _)

/-- A whole number times a power of ten is rounded once, and has a plus even where it is zero. -/
theorem isDouble_ofScientific (m : ℕ) (e : ℤ) : IsDouble .positive
    (rounded .binary64 ((m * 10 ^ e : ℝ) : EReal)) (Float.ofScientific m (e < 0) e.natAbs) := by
  rw [Float.ofScientific]
  split
  case isTrue hsmall =>
    -- both parts are doubles, so that the one operation rounds the exact result
    obtain ⟨hm, he⟩ := hsmall
    have hdigits := isDouble_toUInt64 hm
    have hpower := isDouble_powerOfTen (e := e.natAbs) (by omega)
    rcases lt_or_ge e 0 with hneg | hnonneg
    · have hexponent : (10 : ℝ) ^ e = (10 ^ e.natAbs)⁻¹ := by
        rw [← zpow_natCast, ← zpow_neg]
        congr 1
        omega
      rw [if_pos (decide_eq_true hneg), hexponent, ← div_eq_mul_inv]
      exact hdigits.div hpower (by positivity)
    · have hexponent : (10 : ℝ) ^ e = 10 ^ e.natAbs := by
        rw [← zpow_natCast]
        congr 1
        omega
      rw [if_neg (by simpa using hnonneg), hexponent]
      exact hdigits.mul hpower
  case isFalse hlarge =>
    have hexponent : (if decide (e < 0) then Int.negOfNat e.natAbs else .ofNat e.natAbs) = e := by
      rw [Int.negOfNat_eq, Int.ofNat_eq_natCast]
      rcases lt_or_ge e 0 with hneg | hnonneg
      · rw [if_pos (decide_eq_true hneg)]
        omega
      · rw [if_neg (by simpa using hnonneg)]
        omega
    rw [hexponent]
    exact hasSize_ofScientific m e

/-! ### Numbers with a sign -/

theorem unpack_neg (x : Float) : (-x).toModel.unpack = x.toModel.unpack.neg :=
  (fits_unpack _).neg.kept_eq

/-- A minus in front changes the sign. -/
theorem IsDouble.neg {x : Float} {s : Sign} {a : EReal} (h : IsDouble s a x) :
    IsDouble (-s) a (-x) := by
  rw [IsDouble, unpack_neg]
  exact HasSize.neg h

/-- The sign of a decimal, by whether there is a minus in front. -/
def signFor (negative : Bool) : Sign := if negative then .negative else .positive

/-- A minus in front of a double changes its sign. -/
theorem IsDouble.ite_neg {x : Float} {a : EReal} (h : IsDouble .positive a x) (negative : Bool) :
    IsDouble (signFor negative) a (if negative then -x else x) := by
  cases negative
  · exact h
  · exact h.neg

/-- **A decimal has the nearest double.** -/
theorem isDouble_toFloat (d : Number.Decimal) : IsDouble (signFor d.negative)
    (rounded .binary64 ((d.digits * 10 ^ d.exponent : ℝ) : EReal)) d.toFloat :=
  (isDouble_ofScientific d.digits d.exponent).ite_neg d.negative

/-! ### Doubles are known by sign and size -/

theorem eq_of_unpack_eq {x y : Float} (h : x.toModel.unpack = y.toModel.unpack) : x = y := by
  obtain ⟨⟨bits, hbits⟩⟩ := x
  obtain ⟨⟨bits', hbits'⟩⟩ := y
  have hsame := (unpack_inj_of_valid hbits hbits').1 h
  obtain rfl := UInt64.toBitVec_inj.1 hsame
  rfl

/-- A double is known by its value and its sign. -/
theorem eq_of_value?_eq {x y : Float} (hvalue : value? x = value? y)
    (hsign : signOf x.toModel.unpack = signOf y.toModel.unpack) : x = y :=
  eq_of_unpack_eq ((fits_unpack _).unique (fits_unpack _) hvalue hsign)

/-! ### The nearest double -/

/-- The double nearest to a number of the given sign and size, or what is no number for none. -/
def IsNearest (s : Sign) : Option EReal → Float → Prop
  | none, x => value? x = none
  | some a, x => IsDouble s (rounded .binary64 a) x

/-- There is one nearest double. -/
theorem IsNearest.unique {s : Sign} {a : Option EReal} {x y : Float} (hx : IsNearest s a x)
    (hy : IsNearest s a y) : x = y := by
  cases a with
  | none => exact eq_of_unpack_eq ((eq_notANumber hx).trans (eq_notANumber hy).symm)
  | some a => exact eq_of_value?_eq (hx.value.trans hy.value.symm) (hx.sign.trans hy.sign.symm)

end RemoteDisplay.Double
