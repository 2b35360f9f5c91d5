/-
**How a result of arithmetic becomes a number of a format.**

The arithmetic of a binary format works on a mantissa and an exponent.  A result that is not a whole
mantissa is cut off and two bits are kept of what is lost: whether it is half a unit or more, and
whether it is anything beside that.  Shifting the mantissa to its place moves digits into the two
bits, the two bits decide how the mantissa is rounded, and a mantissa that has grown by it to one
digit too many is shifted once more.

All of this comes to the nearest number of the format, provided that no digit is missing to begin
with: the exponent that is started from must not be above the last place of the result.

Main definitions:

* `RemoteDisplay.Binary.signed` — a number with a sign;
* `RemoteDisplay.Binary.Extends` — what a mantissa and its two bits stand for;
* `RemoteDisplay.Binary.Canonical`, `RemoteDisplay.Binary.Holds` — the mantissas and exponents of a
  format, of any size, and the numbers they hold.

Main results:

* `RemoteDisplay.Binary.Extends.roundedMantissa` — the two bits round to the nearest whole number;
* `RemoteDisplay.Binary.holds_roundWithAccuracy` — **the nearest number is what rounding holds**;
* `RemoteDisplay.Binary.Holds.mul`, `RemoteDisplay.Binary.Holds.div`,
  `RemoteDisplay.Binary.Holds.sub`, `RemoteDisplay.Binary.Holds.add` — products, quotients,
  differences and sums are rounded once.
-/
import Mathlib
import RemoteDisplay.Proofs.Binary.Nearest

set_option relaxedAutoImplicit false
set_option autoImplicit false

namespace RemoteDisplay.Binary

open Float.Model Float.Model.UnpackedFloat

variable {f : Format}

/-! ### Signs -/

section

variable {α : Type}

/-- A number with a sign. -/
def signed [Neg α] (s : Sign) (x : α) : α :=
  match s with
  | .negative => -x
  | .positive => x

@[simp] theorem signed_negative [Neg α] (x : α) : signed .negative x = -x := rfl

@[simp] theorem signed_positive [Neg α] (x : α) : signed .positive x = x := rfl

@[simp] theorem signed_zero [NegZeroClass α] (s : Sign) : signed s (0 : α) = 0 := by
  cases s
  · exact neg_zero
  · rfl

theorem signed_neg [InvolutiveNeg α] (s : Sign) (x : α) : signed (-s) x = -signed s x := by
  cases s
  · exact (neg_neg x).symm
  · rfl

theorem signed_mul [Mul α] [HasDistribNeg α] (s t : Sign) (x y : α) :
    signed (s * t) (x * y) = signed s x * signed t y := by
  cases s <;> cases t
  · exact (neg_mul_neg x y).symm
  · exact (neg_mul x y).symm
  · exact (mul_neg x y).symm
  · rfl

theorem signed_mul_right [Mul α] [HasDistribNeg α] (s : Sign) (x y : α) :
    signed s (x * y) = signed s x * y := by
  cases s
  · exact (neg_mul x y).symm
  · rfl

end

theorem abs_signed (s : Sign) (x : ℝ) : |signed s x| = |x| := by
  cases s
  · exact abs_neg x
  · rfl

theorem signed_ne_zero (s : Sign) {x : ℝ} (h : x ≠ 0) : signed s x ≠ 0 := by
  rwa [← abs_ne_zero, abs_signed, abs_ne_zero]

theorem signed_div (s t : Sign) (x y : ℝ) : signed (s / t) (x / y) = signed s x / signed t y := by
  cases s <;> cases t
  · exact (neg_div_neg_eq x y).symm
  · exact (neg_div y x).symm
  · exact (div_neg x).symm
  · rfl

theorem cast_apply (s : Sign) (n : ℕ) : ((s.apply n : ℤ) : ℝ) = signed s (n : ℝ) := by
  cases s <;> simp [Sign.apply]

theorem nearest_signed (s : Sign) (x : ℝ) : nearest f (signed s x) = signed s (nearest f x) := by
  cases s
  · exact nearest_neg x
  · rfl

/-! ### A mantissa and what is lost -/

/-- A mantissa stands for a number that is less than a unit above it; the first bit says whether it
is half a unit above or more, the second one whether there is anything beside that. -/
inductive Extends : ExtendedMantissa → ℝ → Prop
  | exact (m : ℕ) : Extends ⟨m, false, false⟩ m
  | below {m : ℕ} {x : ℝ} (hlo : m < x) (hhi : x < m + 1 / 2) : Extends ⟨m, false, true⟩ x
  | half {m : ℕ} {x : ℝ} (h : x = m + 1 / 2) : Extends ⟨m, true, false⟩ x
  | above {m : ℕ} {x : ℝ} (hlo : m + 1 / 2 < x) (hhi : x < m + 1) : Extends ⟨m, true, true⟩ x

/-- A mantissa and its accuracy stand for a number. -/
def Approximates (m : ℕ) (accuracy : Accuracy) (x : ℝ) : Prop :=
  Extends (.ofMantissaAndAccuracy m accuracy) x

theorem approximates_exact (m : ℕ) (e : ℤ) : Approximates m .exact (m * 2 ^ e / 2 ^ e) := by
  rw [mul_div_cancel_right₀ _ (two_zpow_pos e).ne']
  exact .exact m

/-- The remainder of a division says where the quotient is. -/
theorem approximates_quotient (n : ℕ) {d : ℕ} (h : 0 < d) :
    Approximates (n / d) (accuracyOfFraction (n % d) d) ((n : ℝ) / d) := by
  have hd : (0 : ℝ) < d := mod_cast h
  have hsplit : (n : ℝ) / d = (n / d : ℕ) + (n % d : ℕ) / (d : ℝ) := by
    rw [eq_comm, ← mul_right_inj' hd.ne', mul_add, mul_div_cancel₀ _ hd.ne',
      mul_div_cancel₀ _ hd.ne']
    exact_mod_cast Nat.div_add_mod n d
  have hrest : ((n % d : ℕ) : ℝ) / d < 1 := by
    rw [div_lt_one hd]
    exact_mod_cast Nat.mod_lt n h
  rw [hsplit, Approximates, accuracyOfFraction]
  split
  case isTrue hzero =>
    rw [hzero, Nat.cast_zero, zero_div, add_zero]
    exact .exact _
  case isFalse hzero =>
    have hpos : 0 < ((n % d : ℕ) : ℝ) / d := div_pos (mod_cast Nat.pos_of_ne_zero hzero) hd
    rcases hcompare : compare (2 * (n % d)) d
    case lt =>
      refine .below (by linarith) ?_
      have hlt : (2 : ℝ) * (n % d : ℕ) < d := mod_cast Nat.compare_eq_lt.1 hcompare
      have hhalf : ((n % d : ℕ) : ℝ) / d < 1 / 2 := (div_lt_iff₀ hd).2 (by linarith)
      linarith
    case eq =>
      refine .half ?_
      have heq : (2 : ℝ) * (n % d : ℕ) = d := mod_cast Nat.compare_eq_eq.1 hcompare
      have hhalf : ((n % d : ℕ) : ℝ) / d = 1 / 2 := (div_eq_iff hd.ne').2 (by linarith)
      linarith
    case gt =>
      refine .above ?_ (by linarith)
      have hgt : (d : ℝ) < 2 * (n % d : ℕ) := mod_cast Nat.compare_eq_gt.1 hcompare
      have hhalf : 1 / 2 < ((n % d : ℕ) : ℝ) / d := (lt_div_iff₀ hd).2 (by linarith)
      linarith

namespace Extends

variable {em : ExtendedMantissa} {x : ℝ}

theorem floor (h : Extends em x) : ⌊x⌋ = em.mantissa := by
  rw [Int.floor_eq_iff, Int.cast_natCast]
  cases h with
  | exact m => constructor <;> linarith
  | below hlo hhi => constructor <;> linarith
  | half h => constructor <;> linarith
  | above hlo hhi => constructor <;> linarith

/-- The two bits round to the nearest whole number. -/
theorem roundedMantissa (h : Extends em x) : (em.roundedMantissa : ℤ) = roundEven x := by
  have hfloor := h.floor
  cases h with
  | exact m => exact (roundEven_intCast m).symm
  | below hlo hhi =>
    rw [roundEven_of_lt (by rw [hfloor, Int.cast_natCast]; linarith), hfloor]
    rfl
  | half h =>
    rw [roundEven_of_eq (by rw [hfloor, Int.cast_natCast]; linarith), hfloor]
    rfl
  | above hlo hhi =>
    rw [roundEven_of_gt (by rw [hfloor, Int.cast_natCast]; linarith), hfloor]
    rfl

/-- The digit that is shifted out becomes the first bit, and what was lost before is beside it. -/
theorem shiftRightOne (h : Extends em x) : Extends em.shiftRightOne (x / 2) := by
  have hdigit := Nat.div_add_mod em.mantissa 2
  have hcast : 2 * ((em.mantissa / 2 : ℕ) : ℝ) + (em.mantissa % 2 : ℕ) = em.mantissa :=
    mod_cast hdigit
  rw [ExtendedMantissa.shiftRightOne]
  rcases Nat.mod_two_eq_zero_or_one em.mantissa with heven | hodd
  · rw [heven, Nat.cast_zero] at hcast
    rw [heven]
    cases h with
    | exact m =>
      have hhalf : (m : ℝ) / 2 = (m / 2 : ℕ) := by linarith
      rw [hhalf]
      exact .exact _
    | below hlo hhi => exact .below (by linarith) (by linarith)
    | half h => exact .below (by linarith) (by linarith)
    | above hlo hhi => exact .below (by linarith) (by linarith)
  · rw [hodd, Nat.cast_one] at hcast
    rw [hodd]
    cases h with
    | exact m => exact .half (by linarith)
    | below hlo hhi => exact .above (by linarith) (by linarith)
    | half h => exact .above (by linarith) (by linarith)
    | above hlo hhi => exact .above (by linarith) (by linarith)

theorem shiftRight (h : Extends em x) (n : ℕ) : Extends (em >>> n) (x / 2 ^ n) := by
  change Extends (n.repeat ExtendedMantissa.shiftRightOne em) (x / 2 ^ n)
  induction n with
  | zero =>
    rw [pow_zero, div_one]
    exact h
  | succ n ih =>
    rw [pow_succ, ← div_div]
    exact ih.shiftRightOne

end Extends

theorem Approximates.floor {m : ℕ} {accuracy : Accuracy} {x : ℝ} (h : Approximates m accuracy x) :
    ⌊x⌋ = m := by
  rw [Extends.floor h]
  cases accuracy with
  | exact => rfl
  | inexact o => cases o <;> rfl

/-- Shifting to an exponent that is not smaller keeps the number. -/
theorem exists_shiftToExponent {m : ℕ} {e t : ℤ} {accuracy : Accuracy} {x : ℝ}
    (h : Approximates m accuracy (x / 2 ^ e)) (hle : e ≤ t) :
    ∃ em, shiftToExponent m e accuracy t = (em, t) ∧ Extends em (x / 2 ^ t) := by
  obtain ⟨n, rfl⟩ : ∃ n : ℕ, t = e + n := ⟨(t - e).toNat, by omega⟩
  have hamount : (e + n - e).toNat = n := by omega
  rw [shiftToExponent, hamount, two_zpow_add, zpow_natCast, ← div_div]
  exact ⟨_, rfl, h.shiftRight n⟩

/-! ### The exponent of a result -/

theorem targetExponent_eq (f : Format) (t : ℤ) :
    f.targetExponent t = max (t - f.mantissaBits) f.minExponent := rfl

/-- The digits of a mantissa are counted by its logarithm. -/
theorem log_of_floor {x : ℝ} {m : ℕ} {e : ℤ} (hm : 0 < m) (h : ⌊x / 2 ^ e⌋ = m) :
    Int.log 2 x = m.log2 + e := by
  obtain ⟨hlo, hhi⟩ := Int.floor_eq_iff.1 h
  rw [Int.cast_natCast] at hlo hhi
  have hunit := two_zpow_pos e
  have hx : 0 < x := by
    have hquotient : 0 < x / 2 ^ e := lt_of_lt_of_le (mod_cast hm) hlo
    rwa [lt_div_iff₀ hunit, zero_mul] at hquotient
  have hlower : (2 : ℝ) ^ ((m.log2 : ℤ) + e) ≤ x := by
    have hpower : (2 : ℝ) ^ m.log2 ≤ m := mod_cast Nat.log2_self_le hm.ne'
    rw [two_zpow_add, zpow_natCast, ← le_div_iff₀ hunit]
    exact hpower.trans hlo
  have hupper : x < 2 ^ ((m.log2 : ℤ) + 1 + e) := by
    have hpower : (m : ℝ) + 1 ≤ 2 ^ (m.log2 + 1) := mod_cast Nat.lt_log2_self
    rw [two_zpow_add, ← Nat.cast_succ, zpow_natCast, ← div_lt_iff₀ hunit]
    exact hhi.trans_le hpower
  have hle := (two_zpow_le_iff hx).1 hlower
  have hlt := (lt_two_zpow_iff hx).1 hupper
  omega

/-- The exponent that a mantissa is shifted to is the last place of the number it stands for. -/
theorem targetExponent_of_floor {x : ℝ} {m : ℕ} {e : ℤ} (hx : 0 < x) (h : ⌊x / 2 ^ e⌋ = m)
    (hle : e ≤ lastPlace f x) :
    f.targetExponent (totalExponent m e) = lastPlace f x := by
  have hdigits := mantissaBits_pos (f := f)
  rw [targetExponent_eq, totalExponent]
  rcases Nat.eq_zero_or_pos m with rfl | hm
  · -- only a number below the smallest one has no digit at its last place
    have hlt : x < 2 ^ e := by
      rw [← one_mul ((2 : ℝ) ^ e), ← div_lt_iff₀ (two_zpow_pos e)]
      have hhi := (Int.floor_eq_iff.1 h).2
      push_cast at hhi
      linarith
    have hlog := (lt_two_zpow_iff hx).1 hlt
    rw [lastPlace, abs_of_pos hx] at hle ⊢
    rw [Nat.log2_zero]
    omega
  · rw [lastPlace, abs_of_pos hx, log_of_floor hm h]
    omega

/-- A number with enough digits, or one whose last digit is small enough, is not below its last
place. -/
theorem le_lastPlace {x : ℝ} {e : ℤ}
    (h : 2 ^ (f.mantissaBitsWithoutImplicit + e) ≤ x ∨ e ≤ f.minExponent) : e ≤ lastPlace f x := by
  have hdigits := mantissaBits_eq f
  rw [lastPlace]
  rcases h with hdigits | hsmall
  · have hx : 0 < x := (two_zpow_pos _).trans_le hdigits
    have hlog := (two_zpow_le_iff hx).1 hdigits
    rw [abs_of_pos hx]
    omega
  · omega

/-! ### What a format holds -/

/-- A mantissa has all its digits; fewer only where the exponent is the smallest one. -/
structure Canonical (f : Format) (m : ℕ) (e : ℤ) : Prop where
  lt : m < 2 ^ f.mantissaBits
  le : f.minExponent ≤ e
  full : 2 ^ f.mantissaBitsWithoutImplicit ≤ m ∨ e = f.minExponent

/-- The number that is held in a format, whatever its size. -/
inductive Holds (f : Format) : UnpackedFloat → ℝ → Prop
  | zero (s : Sign) : Holds f (.zero s) 0
  | finite (s : Sign) {m : ℕ} {e : ℤ} (hm : 0 < m) (h : Canonical f m e) :
    Holds f (.finite s m e hm) (signed s ((m : ℝ) * 2 ^ e))

/-- What a format holds is its own nearest number. -/
theorem Holds.nearest_eq {u : UnpackedFloat} {x : ℝ} (h : Holds f u x) : nearest f x = x := by
  cases h with
  | zero s => exact nearest_zero
  | @finite s m e hm h =>
    have hlt : |(m : ℤ)| < 2 ^ f.mantissaBits := by
      rw [Nat.abs_cast]
      exact_mod_cast h.lt
    have hself := nearest_eq_self hlt h.le
    rw [Int.cast_natCast] at hself
    rw [nearest_signed, hself]

/-- A rounded mantissa has no digit too many, or it is the smallest number with one more. -/
theorem roundEven_le {x : ℝ} (h : 0 < x) :
    roundEven (x / 2 ^ lastPlace f x) ≤ 2 ^ f.mantissaBits := by
  have hlog : Int.log 2 x < f.mantissaBits + lastPlace f x := by
    rw [lastPlace, abs_of_pos h]
    omega
  have hlt : x / 2 ^ lastPlace f x ≤ ((2 ^ f.mantissaBits : ℤ) : ℝ) := by
    rw [div_le_iff₀ (two_zpow_pos _)]
    have hpower := (lt_two_zpow_iff h).2 hlog
    rw [two_zpow_add] at hpower
    exact_mod_cast hpower.le
  have hround := roundEven_mono hlt
  rwa [roundEven_intCast] at hround

/-- The mantissa of a number above the smallest exponent is full. -/
theorem le_roundEven {x : ℝ} (h : 0 < x) (hplace : f.minExponent < lastPlace f x) :
    2 ^ f.mantissaBitsWithoutImplicit ≤ roundEven (x / 2 ^ lastPlace f x) := by
  have hdigits := mantissaBits_eq f
  have hlog : f.mantissaBitsWithoutImplicit + lastPlace f x ≤ Int.log 2 x := by
    rw [lastPlace, abs_of_pos h] at hplace ⊢
    omega
  have hle : ((2 ^ f.mantissaBitsWithoutImplicit : ℤ) : ℝ) ≤ x / 2 ^ lastPlace f x := by
    rw [le_div_iff₀ (two_zpow_pos _)]
    have hpower := (two_zpow_le_iff h).2 hlog
    rw [two_zpow_add] at hpower
    exact_mod_cast hpower
  have hround := roundEven_mono hle
  rwa [roundEven_intCast] at hround

/-- The second shift leaves a mantissa without a digit too many where it is. -/
theorem shiftToTargetExponent_of_lt {m : ℕ} {e : ℤ} (hlt : m < 2 ^ f.mantissaBits)
    (he : f.minExponent ≤ e) :
    shiftToTargetExponent f m e .exact = (⟨m, false, false⟩, e) := by
  have hlog : m.log2 < f.mantissaBits := by
    rcases Nat.eq_zero_or_pos m with rfl | hm
    · rw [Nat.log2_zero]
      exact mantissaBits_pos
    · exact (Nat.log2_lt hm.ne').2 hlt
  have hamount : (f.targetExponent (totalExponent m e) - e).toNat = 0 := by
    rw [targetExponent_eq, totalExponent]
    omega
  rw [shiftToTargetExponent, shiftToExponent, hamount]
  simp only [Nat.cast_zero, add_zero]
  rfl

/-- The second shift halves a mantissa that has grown by one digit. -/
theorem shiftToTargetExponent_two_pow {e : ℤ} (he : f.minExponent ≤ e) :
    shiftToTargetExponent f (2 ^ f.mantissaBits) e .exact =
      (⟨2 ^ f.mantissaBitsWithoutImplicit, false, false⟩, e + 1) := by
  have hamount : (f.targetExponent (totalExponent (2 ^ f.mantissaBits) e) - e).toNat = 1 := by
    rw [targetExponent_eq, totalExponent, Nat.log2_two_pow]
    omega
  have hshift : (ExtendedMantissa.ofMantissaAndAccuracy (2 ^ f.mantissaBits) .exact).shiftRightOne =
      ⟨2 ^ f.mantissaBitsWithoutImplicit, false, false⟩ := by
    simp [ExtendedMantissa.ofMantissaAndAccuracy, ExtendedMantissa.shiftRightOne,
      two_pow_mantissaBits]
  rw [shiftToTargetExponent, shiftToExponent, hamount, ← hshift]
  rfl

/-- **The nearest number is what rounding holds**, if the exponent that is started from is not above
the last place of the exact result. -/
theorem holds_roundWithAccuracy (s : Sign) {m : ℕ} {e : ℤ} {accuracy : Accuracy} {x : ℝ}
    (hx : 0 < x) (h : Approximates m accuracy (x / 2 ^ e)) (hle : e ≤ lastPlace f x) :
    Holds f (roundWithAccuracy f s m e accuracy) (signed s (nearest f x)) := by
  have htarget := targetExponent_of_floor hx h.floor hle
  obtain ⟨em, hshift, hextends⟩ := exists_shiftToExponent h hle
  have hplace : f.minExponent ≤ lastPlace f x := le_max_right _ _
  have hround := hextends.roundedMantissa
  -- the first shift is to the last place, and the mantissa is the nearest one there
  rw [roundWithAccuracy, shiftToTargetExponent, htarget, hshift, nearest, ← hround,
    Int.cast_natCast]
  dsimp only
  generalize em.roundedMantissa = n at hround ⊢
  have hupper : n ≤ 2 ^ f.mantissaBits := by
    have hle := roundEven_le (f := f) hx
    rw [← hround] at hle
    exact_mod_cast hle
  have hfull : 2 ^ f.mantissaBitsWithoutImplicit ≤ n ∨ lastPlace f x = f.minExponent := by
    rcases hplace.lt_or_eq with hlt | heq
    · have hle := le_roundEven hx hlt
      rw [← hround] at hle
      exact .inl (mod_cast hle)
    · exact .inr heq.symm
  rcases hupper.lt_or_eq with hlt | rfl
  · rw [shiftToTargetExponent_of_lt hlt hplace]
    split
    case isTrue hzero =>
      have hn : n = 0 := hzero
      rw [hn, Nat.cast_zero, zero_mul, signed_zero]
      exact .zero s
    case isFalse hzero => exact .finite s _ ⟨hlt, hplace, hfull⟩
  · rw [shiftToTargetExponent_two_pow hplace]
    have hvalue : ((2 ^ f.mantissaBits : ℕ) : ℝ) * 2 ^ lastPlace f x =
        ((2 ^ f.mantissaBitsWithoutImplicit : ℕ) : ℝ) * 2 ^ (lastPlace f x + 1) := by
      rw [two_zpow_add, mantissaBits_eq]
      push_cast
      ring
    have hpos : 0 < 2 ^ f.mantissaBitsWithoutImplicit := Nat.two_pow_pos _
    have hlt : 2 ^ f.mantissaBitsWithoutImplicit < 2 ^ f.mantissaBits := by
      rw [two_pow_mantissaBits]
      omega
    rw [hvalue, dif_neg hpos.ne']
    exact .finite s hpos ⟨hlt, by omega, .inl le_rfl⟩

/-! ### Whole mantissas -/

theorem shiftLeft_cast (m n : ℕ) : ((m <<< n : ℕ) : ℝ) = m * 2 ^ n := by
  rw [Nat.shiftLeft_eq]
  push_cast
  rfl

/-- A whole mantissa and its exponent stay the same number when the exponent is decreased. -/
theorem exists_decreaseExponent (m : ℕ) (e t : ℤ) :
    ∃ n : ℕ, decreaseExponent m e t = (n, min e t) ∧ (n : ℝ) * 2 ^ min e t = m * 2 ^ e := by
  obtain ⟨n, hn⟩ : ∃ n : ℕ, e = min e t + n := ⟨(e - min e t).toNat, by omega⟩
  have hamount : (e - t).toNat = n := by omega
  refine ⟨m <<< n, ?_, ?_⟩
  · rw [decreaseExponent, hamount, Prod.mk.injEq]
    exact ⟨rfl, by omega⟩
  · conv_rhs => rw [hn, two_zpow_add, zpow_natCast]
    rw [shiftLeft_cast]
    ring

/-- A whole mantissa is rounded to the nearest number. -/
theorem holds_round (s : Sign) {m : ℕ} (hm : 0 < m) (e : ℤ) :
    Holds f (UnpackedFloat.round f s m e) (signed s (nearest f (m * 2 ^ e))) := by
  have hx : (0 : ℝ) < m * 2 ^ e := mul_pos (mod_cast hm) (two_zpow_pos e)
  have htarget : f.targetExponent (totalExponent m e) = lastPlace f (m * 2 ^ e) := by
    rw [targetExponent_eq, totalExponent, lastPlace, abs_of_pos hx,
      log_of_floor hm (approximates_exact m e).floor]
    omega
  obtain ⟨n, hdecrease, hvalue⟩ := exists_decreaseExponent m e (lastPlace f (m * 2 ^ e))
  rw [UnpackedFloat.round, htarget, hdecrease]
  refine holds_roundWithAccuracy s hx ?_ (min_le_right _ _)
  have h := approximates_exact n (min e (lastPlace f (m * 2 ^ e)))
  rwa [hvalue] at h

/-- A whole number of units is rounded to the nearest number. -/
theorem holds_normalize (n : ℤ) (e : ℤ) (s : Sign) :
    Holds f (UnpackedFloat.normalize f n e s) (nearest f (n * 2 ^ e)) := by
  rw [UnpackedFloat.normalize]
  rcases hcompare : compare n 0
  case lt =>
    have hlt : n < 0 := Int.compare_eq_lt.1 hcompare
    have hcast : ((-n).toNat : ℝ) = -(n : ℝ) := by
      have hnat : (((-n).toNat : ℤ) : ℝ) = ((-n : ℤ) : ℝ) := by rw [Int.toNat_of_nonneg (by omega)]
      push_cast at hnat
      exact hnat
    have h := holds_round (f := f) .negative (m := (-n).toNat) (by omega) e
    rwa [hcast, neg_mul, nearest_neg, signed_negative, neg_neg] at h
  case eq =>
    have hzero : n = 0 := Int.compare_eq_eq.1 hcompare
    rw [hzero, Int.cast_zero, zero_mul, nearest_zero]
    exact .zero s
  case gt =>
    have hgt : 0 < n := Int.compare_eq_gt.1 hcompare
    have hcast : (n.toNat : ℝ) = n := by
      have hnat : ((n.toNat : ℤ) : ℝ) = (n : ℝ) := by rw [Int.toNat_of_nonneg hgt.le]
      exact_mod_cast hnat
    have h := holds_round (f := f) .positive (m := n.toNat) (by omega) e
    rwa [hcast] at h

/-! ### Products, quotients, differences and sums -/

/-- Whole mantissas are multiplied exactly, and then rounded. -/
theorem holds_mul_of_le {s t : Sign} {m n : ℕ} {d e : ℤ} (hm : 0 < m) (hn : 0 < n)
    (h : 2 ^ f.mantissaBitsWithoutImplicit ≤ m * n ∨ d + e ≤ f.minExponent) :
    Holds f (mul f (.finite s m d hm) (.finite t n e hn))
      (nearest f (signed s ((m : ℝ) * 2 ^ d) * signed t ((n : ℝ) * 2 ^ e))) := by
  have hproduct : (m : ℝ) * 2 ^ d * (n * 2 ^ e) = (m * n : ℕ) * 2 ^ (d + e) := by
    rw [two_zpow_add]
    push_cast
    ring
  have hx : (0 : ℝ) < (m * n : ℕ) * 2 ^ (d + e) :=
    mul_pos (mod_cast Nat.mul_pos hm hn) (two_zpow_pos _)
  rw [← signed_mul, nearest_signed, hproduct]
  refine holds_roundWithAccuracy (s * t) hx (approximates_exact _ _) (le_lastPlace ?_)
  refine h.imp_left fun hdigits => ?_
  rw [two_zpow_add]
  exact mul_le_mul_of_nonneg_right (mod_cast hdigits) (two_zpow_pos _).le

/-- A product is the nearest number to the exact one, as two mantissas have digits enough. -/
theorem Holds.mul {u v : UnpackedFloat} {x y : ℝ} (hu : Holds f u x) (hv : Holds f v y) :
    Holds f (UnpackedFloat.mul f u v) (nearest f (x * y)) := by
  cases hu with
  | zero s =>
    rw [zero_mul, nearest_zero]
    cases hv <;> exact .zero _
  | @finite s m d hm hmd =>
    cases hv with
    | zero t =>
      rw [mul_zero, nearest_zero]
      exact .zero _
    | @finite t n e hn hne =>
      refine holds_mul_of_le hm hn ?_
      rcases hmd.full with hfull | hd
      · exact .inl (hfull.trans (Nat.le_mul_of_pos_right m hn))
      · rcases hne.full with hfull | he
        · exact .inl (hfull.trans (Nat.le_mul_of_pos_left n hm))
        · have hlow := minExponent_nonpos (f := f)
          exact .inr (by omega)

/-- A quotient has its first digit where the digits of the two mantissas say, or one before. -/
theorem le_log_div {m n : ℕ} (hm : 0 < m) (hn : 0 < n) (d e : ℤ) :
    (m.log2 : ℤ) + d - (n.log2 + e) - 1 ≤ Int.log 2 ((m : ℝ) * 2 ^ d / (n * 2 ^ e)) := by
  have hpos : (0 : ℝ) < n * 2 ^ e := mul_pos (mod_cast hn) (two_zpow_pos e)
  refine (two_zpow_le_iff (div_pos (mul_pos (mod_cast hm) (two_zpow_pos d)) hpos)).1 ?_
  rw [le_div_iff₀ hpos]
  have hupper : (n : ℝ) ≤ 2 ^ ((n.log2 : ℤ) + 1) := by
    rw [← Nat.cast_succ, zpow_natCast]
    exact_mod_cast Nat.lt_log2_self.le
  have hlower : (2 : ℝ) ^ (m.log2 : ℤ) ≤ m := by
    rw [zpow_natCast]
    exact_mod_cast Nat.log2_self_le hm.ne'
  calc (2 : ℝ) ^ ((m.log2 : ℤ) + d - (n.log2 + e) - 1) * (n * 2 ^ e)
      ≤ 2 ^ ((m.log2 : ℤ) + d - (n.log2 + e) - 1) * (2 ^ ((n.log2 : ℤ) + 1) * 2 ^ e) :=
        mul_le_mul_of_nonneg_left (mul_le_mul_of_nonneg_right hupper (two_zpow_pos e).le)
          (two_zpow_pos _).le
    _ = 2 ^ (m.log2 : ℤ) * 2 ^ d := by
        rw [← two_zpow_add, ← two_zpow_add, ← two_zpow_add]
        congr 1
        omega
    _ ≤ m * 2 ^ d := mul_le_mul_of_nonneg_right hlower (two_zpow_pos d).le

/-- Mantissas are divided after as many digits have been appended as the quotient needs. -/
theorem holds_div_of_pos {s t : Sign} {m n : ℕ} {d e : ℤ} (hm : 0 < m) (hn : 0 < n) :
    Holds f (div f (.finite s m d hm) (.finite t n e hn))
      (nearest f (signed s ((m : ℝ) * 2 ^ d) / signed t ((n : ℝ) * 2 ^ e))) := by
  have hpos : (0 : ℝ) < n := mod_cast hn
  have hx : (0 : ℝ) < m * 2 ^ d / (n * 2 ^ e) :=
    div_pos (mul_pos (mod_cast hm) (two_zpow_pos d)) (mul_pos hpos (two_zpow_pos e))
  rw [← signed_div, nearest_signed, UnpackedFloat.div, divCore]
  generalize htarget : min (d - e)
    (f.targetExponent (totalExponent m d - totalExponent n e)) = u
  have hle : u ≤ d - e := by
    rw [← htarget]
    exact min_le_left _ _
  refine holds_roundWithAccuracy (s / t) hx ?_ ?_
  · have hquotient : (m : ℝ) * 2 ^ d / (n * 2 ^ e) / 2 ^ u =
        ((m <<< (d - e - u).toNat : ℕ) : ℝ) / n := by
      have hshift : (2 : ℝ) ^ (d - e - u).toNat * 2 ^ u * 2 ^ e = 2 ^ d := by
        rw [← zpow_natCast, ← two_zpow_add, ← two_zpow_add]
        congr 1
        omega
      rw [shiftLeft_cast, ← hshift]
      have hunit := (two_zpow_pos u).ne'
      have hunit' := (two_zpow_pos e).ne'
      field_simp
    rw [hquotient]
    exact approximates_quotient _ hn
  · have hlog := le_log_div hm hn d e
    rw [targetExponent_eq, totalExponent, totalExponent] at htarget
    rw [lastPlace, abs_of_pos hx]
    omega

/-- A quotient is the nearest number to the exact one. -/
theorem Holds.div {u v : UnpackedFloat} {x y : ℝ} (hu : Holds f u x) (hv : Holds f v y)
    (hy : y ≠ 0) :
    Holds f (UnpackedFloat.div f u v) (nearest f (x / y)) := by
  cases hv with
  | zero t => exact absurd rfl hy
  | finite t hn hne =>
    cases hu with
    | zero s =>
      rw [zero_div, nearest_zero]
      exact .zero _
    | finite s hm hmd => exact holds_div_of_pos hm hn

/-- Mantissas are subtracted at the smaller exponent. -/
theorem holds_sub_of_pos {s t : Sign} {m n : ℕ} {d e : ℤ} (hm : 0 < m) (hn : 0 < n) :
    Holds f (sub f (.finite s m d hm) (.finite t n e hn))
      (nearest f (signed s ((m : ℝ) * 2 ^ d) - signed t ((n : ℝ) * 2 ^ e))) := by
  obtain ⟨m', hdecrease, hvalue⟩ := exists_decreaseExponent m d (min d e)
  obtain ⟨n', hdecrease', hvalue'⟩ := exists_decreaseExponent n e (min d e)
  rw [min_eq_right (min_le_left d e)] at hvalue
  rw [min_eq_right (min_le_right d e)] at hvalue'
  have hdifference : signed s ((m : ℝ) * 2 ^ d) - signed t ((n : ℝ) * 2 ^ e) =
      ((s.apply m' - t.apply n' : ℤ) : ℝ) * 2 ^ min d e := by
    rw [← hvalue, ← hvalue', Int.cast_sub, cast_apply, cast_apply, sub_mul, signed_mul_right,
      signed_mul_right]
  rw [UnpackedFloat.sub, hdecrease, hdecrease', hdifference]
  exact holds_normalize _ _ .positive

/-- A difference is the nearest number to the exact one. -/
theorem Holds.sub {u v : UnpackedFloat} {x y : ℝ} (hu : Holds f u x) (hv : Holds f v y) :
    Holds f (UnpackedFloat.sub f u v) (nearest f (x - y)) := by
  cases hu with
  | zero s =>
    cases hv with
    | zero t =>
      rw [sub_zero, nearest_zero]
      cases s <;> cases t <;> exact .zero _
    | finite t hn hne =>
      have hneg := Holds.finite (-t) hn hne
      rw [zero_sub, ← signed_neg, hneg.nearest_eq]
      exact hneg
  | finite s hm hmd =>
    cases hv with
    | zero t =>
      have hself := Holds.finite s hm hmd
      rw [sub_zero, hself.nearest_eq]
      exact hself
    | finite t hn hne => exact holds_sub_of_pos hm hn

/-- To add a number is to subtract its opposite. -/
theorem add_eq_sub_neg (f : Format) {s t : Sign} {m n : ℕ} {d e : ℤ} (hm : 0 < m) (hn : 0 < n) :
    UnpackedFloat.add f (.finite s m d hm) (.finite t n e hn) =
      UnpackedFloat.sub f (.finite s m d hm) (.finite (-t) n e hn) := by
  have hsign (k : ℤ) : t.apply k = -(-t).apply k := by
    cases t
    · rfl
    · exact (neg_neg k).symm
  simp only [UnpackedFloat.add, UnpackedFloat.sub, hsign, ← sub_eq_add_neg]

/-- A sum is the nearest number to the exact one. -/
theorem Holds.add {u v : UnpackedFloat} {x y : ℝ} (hu : Holds f u x) (hv : Holds f v y) :
    Holds f (UnpackedFloat.add f u v) (nearest f (x + y)) := by
  cases hu with
  | zero s =>
    cases hv with
    | zero t =>
      rw [add_zero, nearest_zero]
      cases s <;> cases t <;> exact .zero _
    | finite t hn hne =>
      have hself := Holds.finite t hn hne
      rw [zero_add, hself.nearest_eq]
      exact hself
  | finite s hm hmd =>
    cases hv with
    | zero t =>
      have hself := Holds.finite s hm hmd
      rw [add_zero, hself.nearest_eq]
      exact hself
    | finite t hn hne =>
      rw [add_eq_sub_neg, ← sub_neg_eq_add, ← signed_neg]
      exact holds_sub_of_pos hm hn

end RemoteDisplay.Binary
