/-
**The values of single-precision numbers.**

A single-precision number that is neither infinite nor no number at all has a real number for its
value.  Sums, differences, products and quotients are those of the values, rounded once to the
nearest number with 24 digits, as long as they stay far inside the range.  What is no number stays
none, whatever is added to it or multiplied with it.

Main definitions:

* `RemoteDisplay.Single.HasValue` — a number and its value;
* `RemoteDisplay.Single.IsNone` — what is no number.

Main results:

* `RemoteDisplay.Single.HasValue.add`, `RemoteDisplay.Single.HasValue.sub`,
  `RemoteDisplay.Single.HasValue.mul`, `RemoteDisplay.Single.HasValue.div` — **the arithmetic of
  single-precision numbers**;
* `RemoteDisplay.Single.HasValue.lt_iff` — they are compared by value;
* `RemoteDisplay.Single.HasValue.toNat_toUInt8`, `RemoteDisplay.Single.HasValue.toNat_toUInt64` —
  they are converted by cutting off.
-/
import RemoteDisplay.Proofs.Binary.Arithmetic

set_option relaxedAutoImplicit false
set_option autoImplicit false

namespace RemoteDisplay.Single

open Float.Model Float.Model.UnpackedFloat Binary

theorem mantissaBits_binary32 : Format.binary32.mantissaBits = 24 := rfl

theorem minExponent_binary32 : Format.binary32.minExponent = -149 := rfl

theorem limit_binary32 : limit .binary32 = 2 ^ 128 := by
  rw [limit_eq, ← zpow_natCast]
  rfl

/-- A single-precision number has this real number for its value. -/
def HasValue (x : Float32) (a : ℝ) : Prop := Holds .binary32 x.toModel.unpack a

/-- What is no number. -/
def IsNone (x : Float32) : Prop := x.toModel.unpack = .notANumber

variable {x y : Float32} {a b : ℝ}

/-! ### Values -/

/-- A value is its own nearest number. -/
theorem HasValue.nearest_eq (h : HasValue x a) : nearest .binary32 a = a := Holds.nearest_eq h

theorem HasValue.unique (h : HasValue x a) (h' : HasValue x b) : a = b := by
  have heq : (a : EReal) = b :=
    Option.some.inj ((Holds.valueOf?_eq h).symm.trans (Holds.valueOf?_eq h'))
  exact_mod_cast heq

theorem eq_of_unpack_eq (h : x.toModel.unpack = y.toModel.unpack) : x = y := by
  obtain ⟨⟨bits, hbits⟩⟩ := x
  obtain ⟨⟨bits', hbits'⟩⟩ := y
  have hsame := (unpack_inj_of_valid hbits hbits').1 h
  obtain rfl := UInt32.toBitVec_inj.1 hsame
  rfl

theorem isNaN_iff : x.isNaN = true ↔ IsNone x := by
  have hmodel : x.isNaN = x.toModel.unpack.isNaN := rfl
  rw [hmodel, IsNone]
  cases x.toModel.unpack <;> simp [UnpackedFloat.isNaN]

theorem HasValue.isNaN_eq_false (h : HasValue x a) : x.isNaN = false := by
  rw [← Bool.not_eq_true, isNaN_iff, IsNone]
  intro hnone
  rw [HasValue, hnone] at h
  cases h

theorem hasValue_zero : HasValue 0 0 := .zero .positive

/-- A positive number of 24 digits has their value. -/
theorem hasValue_of_unpack {m : ℕ} {e : ℤ} (hm : 0 < m)
    (hx : x.toModel.unpack = .finite .positive m e hm) (h : Canonical .binary32 m e)
    (ha : (m : ℝ) * 2 ^ e = a) : HasValue x a := by
  rw [HasValue, hx, ← ha]
  exact .finite .positive hm h

theorem hasValue_one : HasValue 1 1 :=
  hasValue_of_unpack (m := 2 ^ 23) (e := -23) (by decide) rfl
    ⟨by decide, by decide, .inl (by decide)⟩ (by norm_num)

theorem hasValue_half : HasValue 0.5 (1 / 2) :=
  hasValue_of_unpack (m := 2 ^ 23) (e := -24) (by decide) rfl
    ⟨by decide, by decide, .inl (by decide)⟩ (by norm_num)

theorem hasValue_255 : HasValue 255 255 :=
  hasValue_of_unpack (m := 255 * 2 ^ 16) (e := -16) (by decide) rfl
    ⟨by decide, by decide, .inl (by decide)⟩ (by norm_num)

theorem hasValue_256 : HasValue 256 256 :=
  hasValue_of_unpack (m := 2 ^ 23) (e := -15) (by decide) rfl
    ⟨by decide, by decide, .inl (by decide)⟩ (by norm_num)

/-! ### Arithmetic -/

/-- Rounding does not pass a power of two. -/
theorem abs_nearest_le_two_pow {k : ℕ} (h : |a| ≤ 2 ^ k) : |nearest .binary32 a| ≤ 2 ^ k := by
  have hlow : Format.binary32.minExponent ≤ (k : ℤ) := by
    rw [minExponent_binary32]
    omega
  rw [← zpow_natCast] at h ⊢
  exact abs_nearest_le_two_zpow hlow h

/-- Rounding does not leave the range of numbers that are kept. -/
theorem abs_nearest_lt_limit (h : |a| ≤ 2 ^ 127) : |nearest .binary32 a| < limit .binary32 := by
  rw [limit_binary32]
  exact (abs_nearest_le_two_pow h).trans_lt (pow_lt_pow_right₀ one_lt_two (by norm_num))

theorem nearest_two_pow (k : ℕ) : nearest .binary32 (2 ^ k) = 2 ^ k := by
  have h := nearest_two_zpow (f := .binary32) (e := k) (by rw [minExponent_binary32]; omega)
  rwa [zpow_natCast] at h

/-- Rounding keeps the lower bound of a number, if that is a number itself. -/
theorem le_nearest (ha : nearest .binary32 a = a) (h : a ≤ b) : a ≤ nearest .binary32 b := by
  have hmono := nearest_mono (f := .binary32) h
  rwa [ha] at hmono

/-- Rounding keeps the upper bound of a number, if that is a number itself. -/
theorem nearest_le (hb : nearest .binary32 b = b) (h : a ≤ b) : nearest .binary32 a ≤ b := by
  have hmono := nearest_mono (f := .binary32) h
  rwa [hb] at hmono

/-- Rounding keeps a number and its opposite as bounds. -/
theorem abs_nearest_le (hb : nearest .binary32 b = b) (h : |a| ≤ b) :
    |nearest .binary32 a| ≤ b := by
  obtain ⟨hlo, hhi⟩ := abs_le.1 h
  have hb' : nearest .binary32 (-b) = -b := by rw [nearest_neg, hb]
  exact abs_le.2 ⟨le_nearest hb' hlo, nearest_le hb hhi⟩

/-- Rounding changes a number by one part in `2 ^ 24` at most, and by hardly anything near zero. -/
theorem abs_error_le_add (a : ℝ) :
    |nearest .binary32 a - a| ≤ |a| / 2 ^ 24 + 1 / 2 ^ 150 := by
  have h := Binary.abs_nearest_sub_le_add (f := .binary32) a
  rw [mantissaBits_binary32, minExponent_binary32] at h
  norm_num [zpow_neg] at h ⊢
  linarith

/-- Rounding changes a number that is not near zero by one part in `2 ^ 24` at most. -/
theorem abs_error_le (h : 1 / 2 ^ 100 ≤ a) : |nearest .binary32 a - a| ≤ a / 2 ^ 24 := by
  have ha : 0 < a := lt_of_lt_of_le (by positivity) h
  have hle := Binary.abs_nearest_sub_le (f := .binary32) (x := a) ?_
  · rw [mantissaBits_binary32, abs_of_pos ha] at hle
    norm_num [zpow_neg] at hle ⊢
    linarith
  · rw [mantissaBits_binary32, minExponent_binary32, abs_of_pos ha]
    refine le_trans ?_ h
    norm_num [zpow_neg]

/-- A result that is not too large is kept. -/
theorem hasValue_of_holds {u : UnpackedFloat} (h : Holds .binary32 u (nearest .binary32 a))
    (ha : |a| ≤ 2 ^ 127) : HasValue (.ofModel (.pack u)) (nearest .binary32 a) :=
  h.holds_kept (abs_nearest_lt_limit ha)

/-- The sum of two numbers. -/
theorem HasValue.add (hx : HasValue x a) (hy : HasValue y b) (h : |a + b| ≤ 2 ^ 127) :
    HasValue (x + y) (nearest .binary32 (a + b)) :=
  hasValue_of_holds (Holds.add hx hy) h

/-- The difference of two numbers. -/
theorem HasValue.sub (hx : HasValue x a) (hy : HasValue y b) (h : |a - b| ≤ 2 ^ 127) :
    HasValue (x - y) (nearest .binary32 (a - b)) :=
  hasValue_of_holds (Holds.sub hx hy) h

/-- The product of two numbers. -/
theorem HasValue.mul (hx : HasValue x a) (hy : HasValue y b) (h : |a * b| ≤ 2 ^ 127) :
    HasValue (x * y) (nearest .binary32 (a * b)) :=
  hasValue_of_holds (Holds.mul hx hy) h

/-- The quotient of two numbers. -/
theorem HasValue.div (hx : HasValue x a) (hy : HasValue y b) (hb : b ≠ 0) (h : |a / b| ≤ 2 ^ 127) :
    HasValue (x / y) (nearest .binary32 (a / b)) :=
  hasValue_of_holds (Holds.div hx hy hb) h

/-- The opposite of a number. -/
theorem HasValue.neg (hx : HasValue x a) (h : |a| ≤ 2 ^ 127) : HasValue (-x) (-a) := by
  have hself : nearest .binary32 (-a) = -a := by rw [nearest_neg, hx.nearest_eq]
  have hneg := Holds.neg hx
  rw [← hself] at hneg ⊢
  exact hasValue_of_holds hneg (by rwa [abs_neg])

/-! ### What is no number -/

/-- What is no number is kept as that. -/
theorem isNone_of_eq {u : UnpackedFloat} (h : u = .notANumber) : IsNone (.ofModel (.pack u)) := by
  rw [h]
  rfl

theorem IsNone.add (h : IsNone x ∨ IsNone y) : IsNone (x + y) := by
  refine isNone_of_eq ?_
  rcases h with hx | hy
  · rw [hx]
    rfl
  · rw [hy]
    cases x.toModel.unpack <;> rfl

theorem IsNone.mul (h : IsNone x ∨ IsNone y) : IsNone (x * y) := by
  refine isNone_of_eq ?_
  rcases h with hx | hy
  · rw [hx]
    rfl
  · rw [hy]
    cases x.toModel.unpack <;> rfl

/-- Zero divided by zero is no number. -/
theorem isNone_zero_div_zero (hx : HasValue x 0) (hy : HasValue y 0) : IsNone (x / y) := by
  have hzero {u : UnpackedFloat} (hu : Holds .binary32 u 0) : ∃ s, u = .zero s := by
    generalize hz : (0 : ℝ) = z at hu
    cases hu with
    | zero s => exact ⟨s, rfl⟩
    | finite s hm h => exact absurd hz.symm (signed_ne_zero s (mantissa_pos _ hm).ne')
  obtain ⟨s, hs⟩ := hzero hx
  obtain ⟨t, ht⟩ := hzero hy
  refine isNone_of_eq ?_
  rw [hs, ht]
  rfl

/-! ### Comparison -/

/-- Numbers are compared by value. -/
theorem HasValue.lt_iff (hx : HasValue x a) (hy : HasValue y b) : x < y ↔ a < b := by
  have hlt : x < y ↔ (x.toModel.unpack.compare y.toModel.unpack == some .lt) = true :=
    decide_eq_true_iff
  rw [hlt, Holds.compare_eq hx hy]
  simp

/-! ### Conversions -/

/-- A whole number is converted to the nearest number. -/
theorem hasValue_ofNat {n : ℕ} (h : n ≤ 2 ^ 64) :
    HasValue (.ofModel (.pack (UnpackedFloat.ofNat .binary32 n))) (nearest .binary32 n) := by
  have hholds := holds_normalize (f := .binary32) n 0 .positive
  rw [zpow_zero, mul_one, Int.cast_natCast] at hholds
  refine hasValue_of_holds hholds ?_
  have hcast : (n : ℝ) ≤ 2 ^ 64 := mod_cast h
  rw [abs_of_nonneg (Nat.cast_nonneg n)]
  exact hcast.trans (pow_le_pow_right₀ one_le_two (by norm_num))

/-- A whole number of 24 digits is a number. -/
theorem nearest_natCast {n : ℕ} (h : n < 2 ^ 24) : nearest .binary32 n = n := by
  have hlt : |(n : ℤ)| < 2 ^ 24 := by
    rw [Nat.abs_cast]
    exact_mod_cast h
  exact_mod_cast nearest_intCast (f := .binary32) hlt

/-- A byte is a number. -/
theorem hasValue_byte (c : UInt8) : HasValue c.toFloat32 c.toNat := by
  have hbyte := c.toNat_lt
  have h := hasValue_ofNat (n := c.toNat) (by omega)
  rwa [nearest_natCast (by omega)] at h

theorem hasValue_word (n : UInt32) : HasValue n.toFloat32 (nearest .binary32 n.toNat) :=
  hasValue_ofNat (n.toNat_lt.le.trans (by norm_num))

theorem hasValue_word64 (n : UInt64) : HasValue n.toFloat32 (nearest .binary32 n.toNat) :=
  hasValue_ofNat n.toNat_lt.le

theorem toNat_cutOff (ha : 0 ≤ a) : (cutOff a).toNat = ⌊a⌋₊ := by
  rw [cutOff, if_pos ha]
  exact Int.floor_toNat a

/-- A number that a byte can hold is cut off to the byte below it, one that is hardly below zero to
zero. -/
theorem HasValue.toNat_toUInt8 (h : HasValue x a) (ha : -1 < a) (hlt : a < 256) :
    x.toUInt8.toNat = ⌊a⌋₊ := by
  have hword : x.toUInt8 = UInt8.ofNatClamp (x.toModel.unpack.toInt 0 (UInt8.size - 1)).toNat := rfl
  have hcut : (cutOff a).toNat = ⌊a⌋₊ := by
    rcases le_or_gt 0 a with hnonneg | hneg
    · exact toNat_cutOff hnonneg
    · have hceil : ⌈a⌉ = 0 := Int.ceil_eq_iff.2 ⟨by simpa using ha, by simpa using hneg.le⟩
      rw [cutOff, if_neg (not_le.2 hneg), hceil, Nat.floor_of_nonpos hneg.le]
      rfl
  have hfloor : ⌊a⌋₊ < UInt8.size := Nat.floor_lt' (by decide) |>.2 (by exact_mod_cast hlt)
  rw [hword, Holds.toInt_eq h, hcut, UInt8.ofNatClamp, dif_pos hfloor]
  rfl

/-- A number that a word of 64 bits can hold is cut off to the whole number below it. -/
theorem HasValue.toNat_toUInt64 (h : HasValue x a) (ha : 0 ≤ a) (hlt : a < 2 ^ 64) :
    x.toUInt64.toNat = ⌊a⌋₊ := by
  have hword : x.toUInt64 =
      UInt64.ofNatClamp (x.toModel.unpack.toInt 0 (UInt64.size - 1)).toNat := rfl
  have hfloor : ⌊a⌋₊ < UInt64.size := (Nat.floor_lt ha).2 (by exact_mod_cast hlt)
  rw [hword, Holds.toInt_eq h, toNat_cutOff ha, UInt64.ofNatClamp, dif_pos hfloor]
  rfl

end RemoteDisplay.Single
