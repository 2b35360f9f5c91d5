/-
**The signs of results.**

Zero has a sign too, which its value does not tell.  So a result is known by its sign and its size,
and by nothing less: a format has one way only to keep a number of a sign and a size.

Main definitions:

* `RemoteDisplay.Binary.signOf` — the sign of what the bits say;
* `RemoteDisplay.Binary.HasSize` — what has a sign and a size.

Main results:

* `RemoteDisplay.Binary.Holds.hasSize_kept` — a result is kept as the nearest number, with its sign;
* `RemoteDisplay.Binary.Fits.unique` — **a sign and a value are kept in one way only**.
-/
import RemoteDisplay.Proofs.Binary.Arithmetic

set_option relaxedAutoImplicit false
set_option autoImplicit false

namespace RemoteDisplay.Binary

open Float.Model Float.Model.UnpackedFloat

variable {f : Format}

/-! ### Signs -/

/-- The sign of what the bits say; what is no number counts as positive. -/
def signOf : UnpackedFloat → Sign
  | .notANumber => .positive
  | .infinity s => s
  | .zero s => s
  | .finite s _ _ _ => s

/-- A value above zero has a plus. -/
theorem signOf_of_pos {u : UnpackedFloat} {a : EReal} (hu : valueOf? u = some a) (h : 0 < a) :
    signOf u = .positive := by
  cases u with
  | notANumber => cases hu
  | infinity s =>
    obtain rfl := Option.some.inj hu
    cases s
    · exact absurd h (not_lt.2 EReal.bot_lt_zero.le)
    · rfl
  | zero s =>
    obtain rfl := Option.some.inj hu
    exact absurd h (lt_irrefl 0)
  | finite s m e hm =>
    obtain rfl := Option.some.inj hu
    cases s
    · exact absurd h (not_lt.2 (EReal.coe_nonpos.2 (neg_nonpos.2 (mantissa_pos e hm).le)))
    · rfl

@[simp] theorem signOf_roundWithAccuracy (s : Sign) (m : ℕ) (e : ℤ) (accuracy : Accuracy) :
    signOf (roundWithAccuracy f s m e accuracy) = s := by
  rw [roundWithAccuracy]
  dsimp only
  split <;> rfl

section

variable {u v : UnpackedFloat} {x y : ℝ}

theorem Holds.signOf_mul (hu : Holds f u x) (hv : Holds f v y) :
    signOf (UnpackedFloat.mul f u v) = signOf u * signOf v := by
  cases hu with
  | zero s => cases hv <;> rfl
  | finite s hm h =>
    cases hv with
    | zero t => rfl
    | finite t hn h' => exact signOf_roundWithAccuracy _ _ _ _

theorem Holds.signOf_div (hu : Holds f u x) (hv : Holds f v y) (hy : y ≠ 0) :
    signOf (UnpackedFloat.div f u v) = signOf u / signOf v := by
  cases hv with
  | zero t => exact absurd rfl hy
  | finite t hn h' =>
    cases hu with
    | zero s => rfl
    | finite s hm h => exact signOf_roundWithAccuracy _ _ _ _

/-- A number that is held is kept with its sign. -/
theorem Holds.signOf_kept (h : Holds f u x) :
    signOf (kept f u) = signOf u := by
  cases h with
  | zero s => rw [kept_zero]
  | @finite s m e hm h =>
    rcases le_or_gt e (maxExponent f) with hle | hlt
    · rw [kept_of_le s hm h hle]
    · rw [kept_of_lt s hm hlt]
      rfl

end

/-! ### Sign and size -/

/-- What the bits say has this sign and this size. -/
structure HasSize (s : Sign) (a : EReal) (u : UnpackedFloat) : Prop where
  value : valueOf? u = some (signed s a)
  sign : signOf u = s

/-- A result is kept as the nearest number. -/
theorem Holds.hasSize_kept [Wide f] {u : UnpackedFloat} {s : Sign} {x : ℝ}
    (h : Holds f u (signed s (nearest f x))) (hs : signOf u = s) :
    HasSize s (rounded f x) (kept f u) := by
  refine ⟨?_, h.signOf_kept.trans hs⟩
  rw [h.valueOf?_kept, ← nearest_signed, ← rounded_signed, ← coe_signed, rounded_coe]

/-! ### Opposite numbers -/

theorem Fits.neg {u : UnpackedFloat} (h : Fits f u) : Fits f u.neg := by
  cases h with
  | notANumber => exact .notANumber
  | infinity s => exact .infinity (-s)
  | zero s => exact .zero (-s)
  | finite s hm h hle => exact .finite (-s) hm h hle

theorem valueOf?_neg (u : UnpackedFloat) : valueOf? u.neg = (valueOf? u).map Neg.neg := by
  cases u with
  | notANumber => rfl
  | infinity s => exact congrArg some (signed_neg s ⊤)
  | zero s => exact congrArg some neg_zero.symm
  | finite s m e hm =>
    rw [UnpackedFloat.neg, valueOf?, valueOf?, signed_neg, EReal.coe_neg]
    rfl

theorem HasSize.neg {u : UnpackedFloat} {s : Sign} {a : EReal} (h : HasSize s a u) :
    HasSize (-s) a u.neg := by
  refine ⟨?_, ?_⟩
  · rw [valueOf?_neg, h.value, signed_neg]
    rfl
  · obtain ⟨hvalue, rfl⟩ := h
    cases u with
    | notANumber => cases hvalue
    | infinity s => rfl
    | zero s => rfl
    | finite s m e hm => rfl

/-! ### One number of a sign and a size -/

/-- A number is held in one way only, but for the sign of zero. -/
theorem Holds.unique {u v : UnpackedFloat} {x : ℝ} (hu : Holds f u x) (hv : Holds f v x)
    (hsign : signOf u = signOf v) : u = v := by
  cases hu with
  | zero s =>
    generalize hx : (0 : ℝ) = x at hv
    cases hv with
    | zero t => exact congrArg UnpackedFloat.zero hsign
    | finite t hn h' => exact absurd hx.symm (signed_ne_zero t (mantissa_pos _ hn).ne')
  | @finite s m d hm h =>
    generalize hx : signed s ((m : ℝ) * 2 ^ d) = x at hv
    cases hv with
    | zero t => exact absurd hx (signed_ne_zero s (mantissa_pos d hm).ne')
    | @finite t n e hn h' =>
      obtain rfl : s = t := hsign
      -- mantissas of the same size agree in their exponents first, as they are canonical
      have hsize : (m : ℝ) * 2 ^ d = n * 2 ^ e := by
        cases s
        · exact neg_injective hx
        · exact hx
      have hcompare := compare_mantissa h h'
      rw [hsize, cmp_self_eq_eq, Ordering.then_eq_eq, Int.compare_eq_eq, Nat.compare_eq_eq]
        at hcompare
      obtain ⟨rfl, rfl⟩ := hcompare
      rfl

/-- What the bits say is known by its value and its sign. -/
theorem Fits.unique {u v : UnpackedFloat} (hu : Fits f u) (hv : Fits f v)
    (hvalue : valueOf? u = valueOf? v) (hsign : signOf u = signOf v) : u = v := by
  rcases hu.kinds with rfl | ⟨s, rfl⟩ | ⟨x, hx⟩
  · exact (eq_notANumber hvalue.symm).symm
  · rcases hv.kinds with rfl | ⟨t, rfl⟩ | ⟨y, hy⟩
    · cases hvalue
    · exact congrArg UnpackedFloat.infinity hsign
    · exact absurd (Option.some.inj (hvalue.trans hy.valueOf?_eq)) (signed_top_ne_coe s y)
  · exact hx.unique (hv.holds (hvalue.symm.trans hx.valueOf?_eq)) hsign

end RemoteDisplay.Binary
