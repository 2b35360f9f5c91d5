/-
**The values of the numbers of a format.**

The value of what is kept in the bits of a format is a real number or an infinity, and what is no
number has none.  A result has the value of the nearest number, or an infinity if that is out of
range.  Numbers are compared by their values.

Main definitions:

* `RemoteDisplay.Binary.valueOf?`, `RemoteDisplay.Binary.levelOf` — the value of what the bits say,
  and the same with zero for no number;
* `RemoteDisplay.Binary.bounded`, `RemoteDisplay.Binary.rounded` — the value that a result has;
* `RemoteDisplay.Binary.cutOff` — a number cut off toward zero.

Main results:

* `RemoteDisplay.Binary.rounded_mono` — rounding keeps the order;
* `RemoteDisplay.Binary.Holds.valueOf?_kept` — **what is kept of a number is its value**, or an
  infinity;
* `RemoteDisplay.Binary.compare_eq` — numbers are compared by value.
-/
import RemoteDisplay.Proofs.Binary.Packing

set_option relaxedAutoImplicit false
set_option autoImplicit false

namespace RemoteDisplay.Binary

open Float.Model Float.Model.UnpackedFloat

variable {f : Format}

/-! ### Values -/

/-- The value of what the bits say. -/
noncomputable def valueOf? : UnpackedFloat → Option EReal
  | .notANumber => none
  | .infinity s => some (signed s ⊤)
  | .zero _ => some 0
  | .finite s m e _ => some (signed s ((m : ℝ) * (2 : ℕ) ^ e) : ℝ)

theorem valueOf?_finite (s : Sign) {m : ℕ} (e : ℤ) (hm : 0 < m) :
    valueOf? (.finite s m e hm) = some ((signed s ((m : ℝ) * 2 ^ e) : ℝ) : EReal) := rfl

theorem coe_signed (s : Sign) (x : ℝ) : ((signed s x : ℝ) : EReal) = signed s (x : EReal) := by
  cases s
  · exact EReal.coe_neg x
  · rfl

theorem mantissa_pos {m : ℕ} (e : ℤ) (hm : 0 < m) : (0 : ℝ) < m * 2 ^ e :=
  mul_pos (mod_cast hm) (two_zpow_pos e)

/-- What has no value is no number. -/
theorem eq_notANumber {u : UnpackedFloat} (h : valueOf? u = none) : u = .notANumber := by
  cases u with
  | notANumber => rfl
  | infinity s => cases h
  | zero s => cases h
  | finite s m e hm => cases h

/-- The value of what the bits say, or zero for no number. -/
noncomputable def levelOf (u : UnpackedFloat) : EReal := (valueOf? u).getD 0

/-! ### The values of results -/

/-- The first number out of range. -/
noncomputable def limit (f : Format) : ℝ := (2 : ℕ) ^ (f.mantissaBits + maxExponent f)

theorem limit_eq (f : Format) : limit f = 2 ^ (f.mantissaBits + maxExponent f) := rfl

theorem limit_pos (f : Format) : 0 < limit f := two_zpow_pos _

/-- A number out of range is an infinity. -/
noncomputable def bounded (f : Format) (x : ℝ) : EReal :=
  if limit f ≤ x then ⊤ else if x ≤ -limit f then ⊥ else x

/-- The value of the number of a format nearest to a value. -/
noncomputable def rounded (f : Format) : EReal → EReal
  | ⊥ => ⊥
  | ⊤ => ⊤
  | (x : ℝ) => bounded f (nearest f x)

@[simp] theorem rounded_bot : rounded f ⊥ = ⊥ := rfl

@[simp] theorem rounded_top : rounded f ⊤ = ⊤ := rfl

@[simp] theorem rounded_coe (x : ℝ) : rounded f x = bounded f (nearest f x) := rfl

theorem bounded_of_abs_lt {x : ℝ} (h : |x| < limit f) : bounded f x = x := by
  obtain ⟨hlo, hhi⟩ := abs_lt.1 h
  rw [bounded, if_neg (not_le.2 hhi), if_neg (not_le.2 hlo)]

theorem bounded_of_le {x : ℝ} (h : limit f ≤ x) : bounded f x = ⊤ := if_pos h

theorem bounded_of_abs_lt_two_zpow {x : ℝ} {e : ℤ} (he : e ≤ f.mantissaBits + maxExponent f)
    (h : |x| < 2 ^ e) : bounded f x = x :=
  bounded_of_abs_lt (h.trans_le (zpow_le_zpow_right₀ one_le_two he))

theorem bounded_neg (x : ℝ) : bounded f (-x) = -bounded f x := by
  have hpos := limit_pos f
  rcases le_or_gt (limit f) x with hbig | hsmall
  · rw [bounded_of_le hbig, bounded, if_neg (by linarith), if_pos (by linarith), EReal.neg_top]
  · rcases le_or_gt x (-limit f) with hbig | hsmall'
    · rw [bounded_of_le (by linarith), bounded, if_neg (by linarith), if_pos hbig, EReal.neg_bot]
    · rw [bounded_of_abs_lt (abs_lt.2 ⟨by linarith, by linarith⟩),
        bounded_of_abs_lt (abs_lt.2 ⟨hsmall', hsmall⟩), EReal.coe_neg]

theorem bounded_mono {x y : ℝ} (h : x ≤ y) : bounded f x ≤ bounded f y := by
  have hpos := limit_pos f
  rcases le_or_gt (limit f) y with hbig | hsmall
  · rw [bounded_of_le hbig]
    exact le_top
  · rcases le_or_gt x (-limit f) with hbig | hsmall'
    · have hbot : bounded f x = ⊥ := by
        rw [bounded, if_neg (by linarith), if_pos hbig]
      rw [hbot]
      exact bot_le
    · rw [bounded_of_abs_lt (abs_lt.2 ⟨hsmall', by linarith⟩),
        bounded_of_abs_lt (abs_lt.2 ⟨by linarith, hsmall⟩)]
      exact EReal.coe_le_coe_iff.2 h

/-- Rounding keeps the order. -/
theorem rounded_mono {a b : EReal} (h : a ≤ b) : rounded f a ≤ rounded f b := by
  induction a with
  | bot => exact bot_le
  | top => rw [top_le_iff.1 h]
  | coe x =>
    induction b with
    | bot => exact absurd h (by simp)
    | top => exact le_top
    | coe y => exact bounded_mono (nearest_mono (EReal.coe_le_coe_iff.1 h))

@[simp] theorem rounded_zero : rounded f 0 = 0 := by
  have h := bounded_of_abs_lt (f := f) (x := 0) (by rw [abs_zero]; exact limit_pos f)
  rw [← EReal.coe_zero, rounded_coe, nearest_zero, h]

theorem rounded_nonneg {a : EReal} (h : 0 ≤ a) : 0 ≤ rounded f a := by
  have hle := rounded_mono (f := f) h
  rwa [rounded_zero] at hle

theorem rounded_neg (a : EReal) : rounded f (-a) = -rounded f a := by
  induction a with
  | bot => rfl
  | top => rfl
  | coe x => rw [← EReal.coe_neg, rounded_coe, rounded_coe, nearest_neg, bounded_neg]

theorem rounded_signed (s : Sign) (a : EReal) :
    rounded f (signed s a) = signed s (rounded f a) := by
  cases s
  · exact rounded_neg a
  · rfl

/-! ### Packing a result -/

/-- A number inside the range is below the limit. -/
theorem abs_lt_limit {m : ℕ} {e : ℤ} (h : Canonical f m e) (hle : e ≤ maxExponent f) :
    |(m : ℝ) * 2 ^ e| < limit f := by
  have hunit := two_zpow_pos e
  rw [abs_of_nonneg (mul_nonneg (Nat.cast_nonneg m) hunit.le)]
  calc (m : ℝ) * 2 ^ e < 2 ^ (f.mantissaBits : ℤ) * 2 ^ e :=
        mul_lt_mul_of_pos_right (by exact_mod_cast h.lt) hunit
    _ = 2 ^ (f.mantissaBits + e) := (two_zpow_add _ e).symm
    _ ≤ limit f := zpow_le_zpow_right₀ one_le_two (by omega)

/-- A number out of range is not below the limit. -/
theorem limit_le [Wide f] {m : ℕ} {e : ℤ} (h : Canonical f m e) (hlt : maxExponent f < e) :
    limit f ≤ (m : ℝ) * 2 ^ e := by
  have hmin := minExponent_le_maxExponent (f := f)
  have hdigits := mantissaBits_eq f
  have hfull := h.full.resolve_right (by omega)
  calc limit f ≤ 2 ^ (f.mantissaBitsWithoutImplicit + e) :=
        zpow_le_zpow_right₀ one_le_two (by omega)
    _ = 2 ^ (f.mantissaBitsWithoutImplicit : ℤ) * 2 ^ e := two_zpow_add _ e
    _ ≤ m * 2 ^ e := mul_le_mul_of_nonneg_right (by exact_mod_cast hfull) (two_zpow_pos e).le

/-- A number that is held is packed with its value, or as an infinity. -/
theorem Holds.valueOf?_kept [Wide f] {u : UnpackedFloat} {x : ℝ} (h : Holds f u x) :
    valueOf? (kept f u) = some (bounded f x) := by
  cases h with
  | zero s =>
    rw [kept_zero, valueOf?, bounded_of_abs_lt (by rw [abs_zero]; exact limit_pos f)]
    rfl
  | @finite s m e hm h =>
    rcases le_or_gt e (maxExponent f) with hle | hlt
    · rw [kept_of_le s hm h hle, valueOf?_finite, bounded_of_abs_lt]
      rw [abs_signed]
      exact abs_lt_limit h hle
    · rw [kept_of_lt s hm hlt, valueOf?]
      have htop := bounded_of_le (limit_le h hlt)
      cases s
      · rw [signed_negative, signed_negative, bounded_neg, htop]
      · rw [signed_positive, signed_positive, htop]

/-- A number that is held inside the range is held once it is kept. -/
theorem Holds.holds_kept [Wide f] {u : UnpackedFloat} {x : ℝ} (h : Holds f u x)
    (hx : |x| < limit f) :
    Holds f (kept f u) x := by
  cases h with
  | zero s =>
    rw [kept_zero]
    exact .zero s
  | @finite s m e hm h =>
    have hle : e ≤ maxExponent f := by
      by_contra hlt
      rw [abs_signed, abs_of_pos (mantissa_pos e hm)] at hx
      exact absurd hx (not_lt.2 (limit_le h (not_le.1 hlt)))
    rw [kept_of_le s hm h hle]
    exact .finite s hm h

theorem Fits.valueOf?_kept {u : UnpackedFloat} (h : Fits f u) :
    valueOf? (kept f u) = valueOf? u := by
  rw [h.kept_eq]

theorem Holds.valueOf?_eq {u : UnpackedFloat} {x : ℝ} (h : Holds f u x) :
    valueOf? u = some (x : EReal) := by
  cases h with
  | zero s => rfl
  | finite s hm h => rfl

/-- What the bits say is no number, an infinity, or a real number. -/
theorem Fits.kinds {u : UnpackedFloat} (h : Fits f u) :
    u = .notANumber ∨ (∃ s, u = .infinity s) ∨ ∃ x : ℝ, Holds f u x := by
  cases h with
  | notANumber => exact .inl rfl
  | infinity s => exact .inr (.inl ⟨s, rfl⟩)
  | zero s => exact .inr (.inr ⟨0, .zero s⟩)
  | finite s hm h hle => exact .inr (.inr ⟨_, .finite s hm h⟩)

theorem signed_top_ne_coe (s : Sign) (x : ℝ) : signed s ⊤ ≠ (x : EReal) := by
  cases s
  · exact EReal.bot_ne_coe x
  · exact EReal.top_ne_coe x

/-- What has a real number for its value holds it. -/
theorem Fits.holds {u : UnpackedFloat} {x : ℝ} (h : Fits f u)
    (hx : valueOf? u = some (x : EReal)) : Holds f u x := by
  rcases h.kinds with rfl | ⟨s, rfl⟩ | ⟨y, hy⟩
  · cases hx
  · exact absurd (Option.some.inj hx) (signed_top_ne_coe s x)
  · have hsame : (y : EReal) = x := Option.some.inj (hy.valueOf?_eq.symm.trans hx)
    rwa [← EReal.coe_injective hsame]

/-! ### Levels -/

@[simp] theorem levelOf_notANumber : levelOf .notANumber = 0 := rfl

@[simp] theorem levelOf_infinity (s : Sign) : levelOf (.infinity s) = signed s ⊤ := rfl

@[simp] theorem levelOf_zero (s : Sign) : levelOf (.zero s) = 0 := rfl

@[simp] theorem levelOf_finite (s : Sign) {m : ℕ} (e : ℤ) (hm : 0 < m) :
    levelOf (.finite s m e hm) = ((signed s (m * 2 ^ e) : ℝ) : EReal) := rfl

theorem Holds.levelOf_eq {u : UnpackedFloat} {x : ℝ} (h : Holds f u x) : levelOf u = x := by
  rw [levelOf, h.valueOf?_eq, Option.getD_some]

theorem Fits.levelOf_kept {u : UnpackedFloat} (h : Fits f u) :
    levelOf (kept f u) = levelOf u := by
  rw [h.kept_eq]

theorem Holds.levelOf_kept [Wide f] {u : UnpackedFloat} {x : ℝ} (h : Holds f u (nearest f x)) :
    levelOf (kept f u) = rounded f x := by
  rw [levelOf, h.valueOf?_kept]
  rfl

/-- The opposite of a number is held with the opposite sign. -/
theorem Holds.neg {u : UnpackedFloat} {x : ℝ} (h : Holds f u x) : Holds f u.neg (-x) := by
  cases h with
  | zero s =>
    rw [neg_zero]
    exact .zero (-s)
  | finite s hm h =>
    rw [← signed_neg]
    exact .finite (-s) hm h

/-! ### Comparison -/

/-- Of two mantissas of a format that with the larger exponent is larger. -/
theorem mantissa_lt {m n : ℕ} {d e : ℤ} (hmd : Canonical f m d) (hne : Canonical f n e)
    (h : d < e) : (m : ℝ) * 2 ^ d < n * 2 ^ e := by
  have hlow := hmd.le
  have hfull := hne.full.resolve_right (by omega)
  have hdigits := mantissaBits_eq f
  calc (m : ℝ) * 2 ^ d < 2 ^ (f.mantissaBits : ℤ) * 2 ^ d :=
        mul_lt_mul_of_pos_right (by exact_mod_cast hmd.lt) (two_zpow_pos d)
    _ = 2 ^ (f.mantissaBits + d) := (two_zpow_add _ d).symm
    _ ≤ 2 ^ (f.mantissaBitsWithoutImplicit + e) := zpow_le_zpow_right₀ one_le_two (by omega)
    _ = 2 ^ (f.mantissaBitsWithoutImplicit : ℤ) * 2 ^ e := two_zpow_add _ e
    _ ≤ n * 2 ^ e := mul_le_mul_of_nonneg_right (by exact_mod_cast hfull) (two_zpow_pos e).le

/-- Two mantissas of a format are compared by their exponents first. -/
theorem compare_mantissa {m n : ℕ} {d e : ℤ} (hmd : Canonical f m d) (hne : Canonical f n e) :
    (compare d e).then (compare m n) = cmp ((m : ℝ) * 2 ^ d) (n * 2 ^ e) := by
  rcases lt_trichotomy d e with hlt | rfl | hgt
  · rw [Int.compare_eq_lt.2 hlt, (mantissa_lt hmd hne hlt).cmp_eq_lt]
    rfl
  · have hmono : StrictMono fun k : ℕ => (k : ℝ) * 2 ^ d := fun i j hij =>
      mul_lt_mul_of_pos_right (mod_cast hij) (two_zpow_pos d)
    rw [Int.compare_eq_eq.2 rfl, Ordering.eq_then, hmono.cmp_map_eq m n, cmp_eq_compare]
  · rw [Int.compare_eq_gt.2 hgt, (mantissa_lt hne hmd hgt).cmp_eq_gt]
    rfl

/-- Two numbers of one sign are compared by their mantissas, all others by their signs. -/
theorem Holds.compare_eq {u v : UnpackedFloat} {x y : ℝ} (hu : Holds f u x) (hv : Holds f v y) :
    u.compare v = some (cmp x y) := by
  cases hu with
  | zero s =>
    cases hv with
    | zero t => exact congrArg some (cmp_self_eq_eq _).symm
    | @finite t n e hn h =>
      have hpos := mantissa_pos e hn
      cases t
      · exact congrArg some (neg_neg_of_pos hpos).cmp_eq_gt.symm
      · exact congrArg some hpos.cmp_eq_lt.symm
  | @finite s m d hm h =>
    have hpos := mantissa_pos d hm
    cases hv with
    | zero t =>
      cases s
      · exact congrArg some (neg_neg_of_pos hpos).cmp_eq_lt.symm
      · exact congrArg some hpos.cmp_eq_gt.symm
    | @finite t n e hn h' =>
      have hpos' := mantissa_pos e hn
      cases s <;> cases t
      · have hneg : StrictAnti fun x : ℝ => -x := fun x y hxy => neg_lt_neg hxy
        rw [signed_negative, signed_negative, hneg.cmp_map_eq, ← cmp_swap, ← compare_mantissa h h']
        rfl
      · exact congrArg some ((neg_neg_of_pos hpos).trans hpos').cmp_eq_lt.symm
      · exact congrArg some ((neg_neg_of_pos hpos').trans hpos).cmp_eq_gt.symm
      · rw [signed_positive, signed_positive, ← compare_mantissa h h']
        rfl

theorem Holds.infinity_compare {v : UnpackedFloat} {y : ℝ} (h : Holds f v y) (s : Sign) :
    (infinity s).compare v = some (cmp (signed s ⊤) (y : EReal)) := by
  cases s
  · rw [signed_negative, EReal.neg_top, (EReal.bot_lt_coe y).cmp_eq_lt]
    cases h <;> rfl
  · rw [signed_positive, (EReal.coe_lt_top y).cmp_eq_gt]
    cases h <;> rfl

theorem Holds.compare_infinity {u : UnpackedFloat} {x : ℝ} (h : Holds f u x) (t : Sign) :
    u.compare (infinity t) = some (cmp (x : EReal) (signed t ⊤)) := by
  cases t
  · rw [signed_negative, EReal.neg_top, (EReal.bot_lt_coe x).cmp_eq_gt]
    cases h <;> rfl
  · rw [signed_positive, (EReal.coe_lt_top x).cmp_eq_lt]
    cases h <;> rfl

theorem infinity_compare_infinity (s t : Sign) :
    (infinity s).compare (infinity t) = some (cmp (signed s (⊤ : EReal)) (signed t ⊤)) := by
  cases s <;> cases t
  · exact congrArg some (cmp_self_eq_eq _).symm
  · exact congrArg some (bot_lt_top : (⊥ : EReal) < ⊤).cmp_eq_lt.symm
  · exact congrArg some (bot_lt_top : (⊥ : EReal) < ⊤).cmp_eq_gt.symm
  · exact congrArg some (cmp_self_eq_eq _).symm

/-- What the bits say is compared by value. -/
theorem compare_eq {u v : UnpackedFloat} {a b : EReal} (hu : Fits f u) (hv : Fits f v)
    (ha : valueOf? u = some a) (hb : valueOf? v = some b) : u.compare v = some (cmp a b) := by
  rcases hu.kinds with rfl | ⟨s, rfl⟩ | ⟨x, hx⟩
  · cases ha
  · obtain rfl := Option.some.inj ha
    rcases hv.kinds with rfl | ⟨t, rfl⟩ | ⟨y, hy⟩
    · cases hb
    · obtain rfl := Option.some.inj hb
      exact infinity_compare_infinity s t
    · obtain rfl := Option.some.inj (hy.valueOf?_eq.symm.trans hb)
      exact hy.infinity_compare s
  · obtain rfl := Option.some.inj (hx.valueOf?_eq.symm.trans ha)
    rcases hv.kinds with rfl | ⟨t, rfl⟩ | ⟨y, hy⟩
    · cases hb
    · obtain rfl := Option.some.inj hb
      exact hx.compare_infinity t
    · obtain rfl := Option.some.inj (hy.valueOf?_eq.symm.trans hb)
      rw [EReal.coe_strictMono.cmp_map_eq]
      exact hx.compare_eq hy

/-- What is no number compares with nothing. -/
theorem compare_eq_none {u v : UnpackedFloat} (h : valueOf? u = none ∨ valueOf? v = none) :
    u.compare v = none := by
  rcases h with h | h
  · rw [eq_notANumber h]
    rfl
  · rw [eq_notANumber h]
    cases u <;> rfl

/-! ### Cutting off -/

/-- A number cut off toward zero. -/
noncomputable def cutOff (x : ℝ) : ℤ := if 0 ≤ x then ⌊x⌋ else ⌈x⌉

theorem cutOff_mono {x y : ℝ} (h : x ≤ y) : cutOff x ≤ cutOff y := by
  rw [cutOff, cutOff]
  split
  case isTrue hx =>
    rw [if_pos (hx.trans h)]
    exact Int.floor_mono h
  case isFalse hx =>
    split
    case isTrue hy => exact (Int.ceil_nonpos.2 (not_le.1 hx).le).trans (Int.floor_nonneg.2 hy)
    case isFalse hy => exact Int.ceil_mono h

theorem cutOff_neg (x : ℝ) : cutOff (-x) = -cutOff x := by
  rcases lt_trichotomy x 0 with hneg | rfl | hpos
  · rw [cutOff, cutOff, if_pos (by linarith), if_neg (by linarith), Int.floor_neg]
  · simp [cutOff]
  · rw [cutOff, cutOff, if_neg (by linarith), if_pos hpos.le, Int.ceil_neg]

theorem cutOff_signed (s : Sign) {x : ℝ} (h : 0 ≤ x) : cutOff (signed s x) = s.apply ⌊x⌋ := by
  have hpos : cutOff x = ⌊x⌋ := if_pos h
  rw [← hpos]
  cases s
  · exact cutOff_neg x
  · rfl

/-- A number that is not negative is cut off to the whole number below it. -/
theorem cutOff_eq {x : ℝ} {n : ℕ} (hlo : n ≤ x) (hhi : x < n + 1) : cutOff x = n := by
  have hx : 0 ≤ x := (Nat.cast_nonneg n).trans hlo
  rw [cutOff, if_pos hx, Int.floor_eq_iff, Int.cast_natCast]
  exact ⟨hlo, hhi⟩

/-- A mantissa is cut off at the point. -/
theorem roundToInt_eq (s : Sign) (m : ℕ) (e : ℤ) :
    roundToInt s m e = s.apply ⌊(m : ℝ) * 2 ^ e⌋ := by
  obtain ⟨n, hdecrease, hvalue⟩ := exists_decreaseExponent m e 0
  obtain ⟨em, hshift, hextends⟩ :=
    exists_shiftToExponent (approximates_exact n (min e 0)) (min_le_right e 0)
  rw [hvalue, zpow_zero, div_one] at hextends
  rw [roundToInt, hdecrease, hextends.floor]
  dsimp only
  rw [hshift]

/-- A number is converted by cutting it off. -/
theorem Holds.toInt_eq {u : UnpackedFloat} {x : ℝ} (h : Holds f u x) (lo hi : ℤ) :
    u.toInt lo hi = cutOff x := by
  cases h with
  | zero s => rw [UnpackedFloat.toInt, cutOff, if_pos le_rfl, Int.floor_zero]
  | @finite s m e hm h =>
    rw [UnpackedFloat.toInt, roundToInt_eq, cutOff_signed s (mantissa_pos e hm).le]

end RemoteDisplay.Binary
