/-
**The values of doubles, and what arithmetic makes of them.**

The value of a double is a real number or an infinity, and what is no number has none.  Subtraction,
multiplication and division are those of the values, rounded once to the nearest number with 53
digits; a result out of range is an infinity.  Doubles are compared by their values, and converting
one to a word cuts its value off toward zero and holds it inside the range of the word.

Where a result is no number the values say nothing, but then what counts is that such a result
counts as zero in the end.  So products and quotients are given by *levels*, in which no number has
the level zero; it is the product of an infinity and zero too.

Main definitions:

* `RemoteDisplay.Double.value?`, `RemoteDisplay.Double.level` — the value of a double, and its
  level;
* `RemoteDisplay.Double.toWord` — a value cut off toward zero, and held inside 32 bits.

Main results:

* `RemoteDisplay.Double.value?_sub`, `RemoteDisplay.Double.level_mul`,
  `RemoteDisplay.Double.level_div` — **the arithmetic of doubles**;
* `RemoteDisplay.Double.le_iff`, `RemoteDisplay.Double.lt_iff` — doubles are compared by value;
* `RemoteDisplay.Double.toInt_truncate` — a double is converted by its level;
* `RemoteDisplay.Double.toWord_mono` — converting keeps the order.
-/
import RemoteDisplay.Geometry
import RemoteDisplay.Proofs.Binary.Arithmetic

set_option relaxedAutoImplicit false
set_option autoImplicit false

namespace RemoteDisplay.Double

open Float.Model Float.Model.UnpackedFloat Binary

theorem mantissaBits_binary64 : Format.binary64.mantissaBits = 53 := rfl

theorem minExponent_binary64 : Format.binary64.minExponent = -1074 := rfl

/-! ### Values -/

/-- The value of a double. -/
noncomputable def value? (x : Float) : Option EReal := valueOf? x.toModel.unpack

/-- The value of a double, or zero for no number. -/
noncomputable def level (x : Float) : EReal := levelOf x.toModel.unpack

theorem level_of_value? {x : Float} {a : EReal} (h : value? x = some a) : level x = a := by
  have hget : (value? x).getD 0 = a := by rw [h, Option.getD_some]
  exact hget

/-- What the bits of a double say. -/
theorem fits_unpack (x : Float) : Fits .binary64 x.toModel.unpack := Binary.fits_unpack _

/-! ### Arithmetic -/

/-- The difference of two doubles. -/
theorem value?_sub (x y : Float) :
    value? (x - y) = (value? x).bind fun a => (value? y).bind (difference? .binary64 a) :=
  valueOf?_sub (fits_unpack _) (fits_unpack _)

/-- The product of two doubles. -/
theorem level_mul (x y : Float) : level (x * y) = rounded .binary64 (level x * level y) :=
  levelOf_mul (fits_unpack _) (fits_unpack _)

/-- The quotient of two doubles. -/
theorem level_div {x y : Float} (h : value? y ≠ some 0) :
    level (x / y) = rounded .binary64 (level x / level y) :=
  levelOf_div (fits_unpack _) (fits_unpack _) h

/-! ### Comparison -/

/-- Two doubles are compared by value. -/
theorem compare_unpack (x y : Float) : x.toModel.unpack.compare y.toModel.unpack =
    (value? x).bind fun a => (value? y).map (cmp a) := by
  rcases hx : value? x with _ | a
  · exact compare_eq_none (.inl hx)
  · rcases hy : value? y with _ | b
    · exact compare_eq_none (.inr hy)
    · exact compare_eq (fits_unpack _) (fits_unpack _) hx hy

theorem le_iff {x y : Float} :
    x ≤ y ↔ ∃ a b, value? x = some a ∧ value? y = some b ∧ a ≤ b := by
  have hle : x ≤ y ↔ (x.toModel.unpack.compare y.toModel.unpack).any (·.isLE) = true :=
    decide_eq_true_iff
  rw [hle, compare_unpack]
  rcases value? x with _ | a
  · simp
  · rcases value? y with _ | b
    · simp
    · simp [Ordering.isLE_iff_ne_gt]

theorem lt_iff {x y : Float} :
    x < y ↔ ∃ a b, value? x = some a ∧ value? y = some b ∧ a < b := by
  have hlt : x < y ↔ (x.toModel.unpack.compare y.toModel.unpack == some .lt) = true :=
    decide_eq_true_iff
  rw [hlt, compare_unpack]
  rcases value? x with _ | a
  · simp
  · rcases value? y with _ | b
    · simp
    · simp

/-! ### Conversions -/

/-- A word is a double. -/
theorem value?_toFloat (n : UInt32) : value? n.toFloat = some ((n.toNat : ℝ) : EReal) := by
  have hlt : |(n.toNat : ℤ)| < 2 ^ 53 := by
    have hword := n.toNat_lt
    rw [Nat.abs_cast]
    omega
  have hholds := holds_normalize (f := .binary64) n.toNat 0 .positive
  rw [zpow_zero, mul_one, nearest_intCast hlt, Int.cast_natCast] at hholds
  refine hholds.valueOf?_kept.trans (congrArg some (bounded_of_abs_lt_two_zpow (e := 53) ?_ ?_))
  · decide
  · exact_mod_cast hlt

theorem value?_zero : value? 0 = some 0 := rfl

theorem value?_one : value? 1 = some 1 := by
  have hunpack : (1 : Float).toModel.unpack = .finite .positive (2 ^ 52) (-52) (by decide) := rfl
  rw [value?, hunpack, valueOf?_finite]
  norm_num

/-- A value cut off toward zero and held inside 32 bits. -/
noncomputable def toWord : EReal → ℤ
  | ⊥ => -2 ^ 31
  | ⊤ => 2 ^ 31 - 1
  | (x : ℝ) => max (-2 ^ 31) (min (2 ^ 31 - 1) (cutOff x))

@[simp] theorem toWord_bot : toWord ⊥ = -2 ^ 31 := rfl

@[simp] theorem toWord_top : toWord ⊤ = 2 ^ 31 - 1 := rfl

@[simp] theorem toWord_coe (x : ℝ) :
    toWord x = max (-2 ^ 31) (min (2 ^ 31 - 1) (cutOff x)) := rfl

/-- A word has 32 bits. -/
theorem toWord_bounds (a : EReal) : -2 ^ 31 ≤ toWord a ∧ toWord a ≤ 2 ^ 31 - 1 := by
  induction a with
  | bot => exact ⟨le_rfl, by rw [toWord_bot]; norm_num⟩
  | top => exact ⟨by rw [toWord_top]; norm_num, le_rfl⟩
  | coe x => exact ⟨le_max_left _ _, max_le (by norm_num) (min_le_left _ _)⟩

/-- Converting keeps the order. -/
theorem toWord_mono {a b : EReal} (h : a ≤ b) : toWord a ≤ toWord b := by
  induction a with
  | bot => exact (toWord_bounds b).1
  | top => rw [top_le_iff.1 h]
  | coe x =>
    induction b with
    | bot => exact absurd h (by simp)
    | top => exact (toWord_bounds x).2
    | coe y =>
      have hcut := cutOff_mono (EReal.coe_le_coe_iff.1 h)
      exact max_le_max le_rfl (min_le_min le_rfl hcut)

theorem toInt_ofIntClamp (n : ℤ) :
    (Int32.ofIntClamp n).toInt = max (-2 ^ 31) (min (2 ^ 31 - 1) n) := by
  have hmin : Int32.minValue.toInt = -2 ^ 31 := by decide
  have hmax : Int32.maxValue.toInt = 2 ^ 31 - 1 := by decide
  rw [Int32.ofIntClamp]
  split
  case isTrue hlow =>
    split
    case isTrue hhigh =>
      rw [Int32.toInt_ofIntLE]
      omega
    case isFalse hhigh => omega
  case isFalse hlow => omega

theorem toWord_zero : toWord 0 = 0 := by
  rw [← EReal.coe_zero, toWord_coe, cutOff, if_pos le_rfl, Int.floor_zero]
  decide

/-- A double is converted by its level. -/
theorem toInt_truncate (x : Float) : (truncate x).toInt = toWord (level x) := by
  rw [truncate, Float.Model.toInt32, UnpackedFloat.toInt32, toInt_ofIntClamp, level]
  cases x.toModel.unpack with
  | notANumber =>
    rw [levelOf_notANumber, toWord_zero]
    rfl
  | infinity s => cases s <;> rfl
  | zero s =>
    rw [levelOf_zero, toWord_zero]
    rfl
  | finite s m e hm =>
    rw [UnpackedFloat.toInt, levelOf_finite, toWord_coe, roundToInt_eq,
      cutOff_signed s (mantissa_pos e hm).le]

end RemoteDisplay.Double
