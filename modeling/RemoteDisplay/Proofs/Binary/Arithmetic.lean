/-
**The values of results.**

Subtraction, multiplication and division of the numbers of a format are those of their values,
rounded once; a result out of range is an infinity.

Where a result is no number the values say nothing.  But a product or a quotient that is no number
has a *level* all the same, which is zero, and zero times an infinity is zero too.  So these two are
given by the levels of their operands.

Main definitions:

* `RemoteDisplay.Binary.difference?` — the value of a difference.

Main results:

* `RemoteDisplay.Binary.valueOf?_sub`, `RemoteDisplay.Binary.levelOf_mul`,
  `RemoteDisplay.Binary.levelOf_div` — **the arithmetic of a format**.
-/
import RemoteDisplay.Proofs.Binary.Value

set_option relaxedAutoImplicit false
set_option autoImplicit false

namespace RemoteDisplay.Binary

open Float.Model Float.Model.UnpackedFloat

variable {f : Format}

/-! ### Subtraction -/

/-- The difference of two values; that of two infinities of one sign is no number. -/
noncomputable def difference? (f : Format) (a b : EReal) : Option EReal :=
  if a = b ∧ (a = ⊤ ∨ a = ⊥) then none else some (rounded f (a - b))

theorem difference?_coe (x y : ℝ) : difference? f x y = some (rounded f (x - y)) :=
  if_neg fun h => h.2.elim (EReal.coe_ne_top x) (EReal.coe_ne_bot x)

theorem difference?_infinity_coe (s : Sign) (y : ℝ) :
    difference? f (signed s ⊤) y = some (signed s ⊤) := by
  cases s
  · rw [signed_negative, EReal.neg_top, difference?, if_neg fun h => EReal.bot_ne_coe y h.1,
      EReal.bot_sub, rounded_bot]
  · rw [signed_positive, difference?, if_neg fun h => EReal.top_ne_coe y h.1, EReal.top_sub_coe,
      rounded_top]

theorem difference?_coe_infinity (x : ℝ) (t : Sign) :
    difference? f x (signed t ⊤) = some (signed (-t) ⊤) := by
  rw [signed_neg]
  cases t
  · rw [signed_negative, EReal.neg_top, difference?, if_neg fun h => EReal.coe_ne_bot x h.1,
      EReal.coe_sub_bot, rounded_top, EReal.neg_bot]
  · rw [signed_positive, difference?, if_neg fun h => EReal.coe_ne_top x h.1, EReal.sub_top,
      rounded_bot, EReal.neg_top]

theorem sub_notANumber (u : UnpackedFloat) :
    UnpackedFloat.sub f u .notANumber = .notANumber := by
  cases u <;> rfl

theorem Holds.sub_infinity {u : UnpackedFloat} {x : ℝ} (h : Holds f u x) (t : Sign) :
    UnpackedFloat.sub f u (.infinity t) = .infinity (-t) := by
  cases h <;> rfl

theorem Holds.infinity_sub {v : UnpackedFloat} {y : ℝ} (h : Holds f v y) (s : Sign) :
    UnpackedFloat.sub f (.infinity s) v = .infinity s := by
  cases h <;> rfl

theorem valueOf?_sub_infinity (s t : Sign) :
    valueOf? (kept f (UnpackedFloat.sub f (.infinity s) (.infinity t))) =
      difference? f (signed s ⊤) (signed t ⊤) := by
  cases s <;> cases t
  · exact (Fits.notANumber (f := f)).valueOf?_kept.trans (if_pos ⟨rfl, .inr rfl⟩).symm
  · refine (Fits.infinity (f := f) .negative).valueOf?_kept.trans ?_
    exact (if_neg fun h => bot_ne_top (h.1 : (⊥ : EReal) = ⊤)).symm
  · refine (Fits.infinity (f := f) .positive).valueOf?_kept.trans ?_
    exact (if_neg fun h => top_ne_bot (h.1 : (⊤ : EReal) = ⊥)).symm
  · exact (Fits.notANumber (f := f)).valueOf?_kept.trans (if_pos ⟨rfl, .inl rfl⟩).symm

/-- A difference has the value of the difference of the values. -/
theorem valueOf?_sub [Wide f] {u v : UnpackedFloat} (hu : Fits f u) (hv : Fits f v) :
    valueOf? (kept f (UnpackedFloat.sub f u v)) =
      (valueOf? u).bind fun a => (valueOf? v).bind (difference? f a) := by
  rcases hv.kinds with rfl | ⟨t, rfl⟩ | ⟨y, hy⟩
  · rw [sub_notANumber, Fits.notANumber.valueOf?_kept]
    exact (Option.bind_fun_none _).symm
  · rcases hu.kinds with rfl | ⟨s, rfl⟩ | ⟨x, hx⟩
    · exact Fits.notANumber.valueOf?_kept
    · exact valueOf?_sub_infinity s t
    · rw [hx.sub_infinity t, (Fits.infinity (-t)).valueOf?_kept, hx.valueOf?_eq]
      exact (difference?_coe_infinity x t).symm
  · rcases hu.kinds with rfl | ⟨s, rfl⟩ | ⟨x, hx⟩
    · exact Fits.notANumber.valueOf?_kept
    · rw [hy.infinity_sub s, (Fits.infinity s).valueOf?_kept, hy.valueOf?_eq]
      exact (difference?_infinity_coe s y).symm
    · rw [(hx.sub hy).valueOf?_kept, hx.valueOf?_eq, hy.valueOf?_eq]
      exact (difference?_coe x y).symm

/-! ### Multiplication and division -/

theorem Holds.levelOf_infinity_mul {v : UnpackedFloat} {y : ℝ} (h : Holds f v y) (s : Sign) :
    levelOf (kept f (UnpackedFloat.mul f (.infinity s) v)) =
      rounded f (signed s ⊤ * y) := by
  cases h with
  | zero t =>
    rw [EReal.coe_zero, mul_zero, rounded_zero]
    exact Fits.notANumber.levelOf_kept
  | finite t hn h =>
    rw [coe_signed, ← signed_mul, EReal.top_mul_coe_of_pos (mantissa_pos _ hn), rounded_signed]
    exact (Fits.infinity (s * t)).levelOf_kept

theorem Holds.levelOf_mul_infinity {u : UnpackedFloat} {x : ℝ} (h : Holds f u x) (t : Sign) :
    levelOf (kept f (UnpackedFloat.mul f u (.infinity t))) =
      rounded f (x * signed t ⊤) := by
  cases h with
  | zero s =>
    rw [EReal.coe_zero, zero_mul, rounded_zero]
    exact Fits.notANumber.levelOf_kept
  | finite s hm h =>
    rw [coe_signed, ← signed_mul, EReal.coe_mul_top_of_pos (mantissa_pos _ hm), rounded_signed]
    exact (Fits.infinity (s * t)).levelOf_kept

theorem mul_notANumber (u : UnpackedFloat) :
    UnpackedFloat.mul f u .notANumber = .notANumber := by
  cases u <;> rfl

/-- A product has the level of the product of the levels. -/
theorem levelOf_mul [Wide f] {u v : UnpackedFloat} (hu : Fits f u) (hv : Fits f v) :
    levelOf (kept f (UnpackedFloat.mul f u v)) =
      rounded f (levelOf u * levelOf v) := by
  rcases hv.kinds with rfl | ⟨t, rfl⟩ | ⟨y, hy⟩
  · rw [mul_notANumber, levelOf_notANumber, mul_zero, rounded_zero]
    exact Fits.notANumber.levelOf_kept
  · rcases hu.kinds with rfl | ⟨s, rfl⟩ | ⟨x, hx⟩
    · rw [levelOf_notANumber, zero_mul, rounded_zero]
      exact Fits.notANumber.levelOf_kept
    · rw [levelOf_infinity, levelOf_infinity, ← signed_mul, EReal.top_mul_top, rounded_signed]
      exact (Fits.infinity (s * t)).levelOf_kept
    · rw [hx.levelOf_eq, levelOf_infinity]
      exact hx.levelOf_mul_infinity t
  · rcases hu.kinds with rfl | ⟨s, rfl⟩ | ⟨x, hx⟩
    · rw [levelOf_notANumber, zero_mul, rounded_zero]
      exact Fits.notANumber.levelOf_kept
    · rw [hy.levelOf_eq, levelOf_infinity]
      exact hy.levelOf_infinity_mul s
    · rw [(hx.mul hy).levelOf_kept, hx.levelOf_eq, hy.levelOf_eq, EReal.coe_mul]

theorem div_infinity (a : EReal) (t : Sign) : a / signed t ⊤ = 0 := by
  cases t
  · exact EReal.div_bot
  · exact EReal.div_top

theorem infinity_div (s t : Sign) {x : ℝ} (h : 0 < x) :
    signed s ⊤ / ((signed t x : ℝ) : EReal) = signed (s / t) ⊤ := by
  have hpos := EReal.coe_pos.2 h
  have hneg : ((-x : ℝ) : EReal) < 0 := EReal.coe_neg'.2 (neg_neg_of_pos h)
  cases s <;> cases t
  · exact EReal.bot_div_of_neg_ne_bot hneg (EReal.coe_ne_bot _)
  · exact EReal.bot_div_of_pos_ne_top hpos (EReal.coe_ne_top _)
  · exact EReal.top_div_of_neg_ne_bot hneg (EReal.coe_ne_bot _)
  · exact EReal.top_div_of_pos_ne_top hpos (EReal.coe_ne_top _)

theorem Holds.levelOf_div_infinity {u : UnpackedFloat} {x : ℝ} (h : Holds f u x) (t : Sign) :
    levelOf (kept f (UnpackedFloat.div f u (.infinity t))) = 0 := by
  cases h with
  | zero s => exact (Fits.zero (s / t)).levelOf_kept
  | finite s hm h => exact (Fits.zero (s / t)).levelOf_kept

theorem Holds.levelOf_infinity_div {v : UnpackedFloat} {y : ℝ} (h : Holds f v y) (hy : y ≠ 0)
    (s : Sign) :
    levelOf (kept f (UnpackedFloat.div f (.infinity s) v)) =
      rounded f (signed s ⊤ / y) := by
  cases h with
  | zero t => exact absurd rfl hy
  | finite t hn h =>
    rw [infinity_div s t (mantissa_pos _ hn), rounded_signed]
    exact (Fits.infinity (s / t)).levelOf_kept

theorem div_notANumber (u : UnpackedFloat) :
    UnpackedFloat.div f u .notANumber = .notANumber := by
  cases u <;> rfl

/-- A quotient has the level of the quotient of the levels, but for a divisor that is zero. -/
theorem levelOf_div [Wide f] {u v : UnpackedFloat} (hu : Fits f u) (hv : Fits f v)
    (hne : valueOf? v ≠ some 0) :
    levelOf (kept f (UnpackedFloat.div f u v)) =
      rounded f (levelOf u / levelOf v) := by
  rcases hv.kinds with rfl | ⟨t, rfl⟩ | ⟨y, hy⟩
  · rw [div_notANumber, levelOf_notANumber, EReal.div_zero, rounded_zero]
    exact Fits.notANumber.levelOf_kept
  · rw [levelOf_infinity, div_infinity, rounded_zero]
    rcases hu.kinds with rfl | ⟨s, rfl⟩ | ⟨x, hx⟩
    · exact Fits.notANumber.levelOf_kept
    · exact Fits.notANumber.levelOf_kept
    · exact hx.levelOf_div_infinity t
  · have hy' : y ≠ 0 := by
      rintro rfl
      exact hne hy.valueOf?_eq
    rw [hy.levelOf_eq]
    rcases hu.kinds with rfl | ⟨s, rfl⟩ | ⟨x, hx⟩
    · rw [levelOf_notANumber, EReal.zero_div, rounded_zero]
      exact Fits.notANumber.levelOf_kept
    · exact hy.levelOf_infinity_div hy' s
    · rw [(hx.div hy hy').levelOf_kept, hx.levelOf_eq, EReal.coe_div]

end RemoteDisplay.Binary
