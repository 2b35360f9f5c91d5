/-
**What fits into the bits of a format.**

A binary format keeps a number in a sign, an exponent and the digits of the mantissa behind the
first one.  The smallest exponent stands for the mantissas whose first digit is missing, and the
largest one for the infinities and for what is no number.

Main definitions:

* `RemoteDisplay.Binary.Wide` — a format with more than one bit for the exponent;
* `RemoteDisplay.Binary.ofParts` — what a sign, an exponent and a mantissa say;
* `RemoteDisplay.Binary.Fits` — what the bits can say: a number inside the range, zero, an infinity,
  or no number;
* `RemoteDisplay.Binary.kept` — what is left of a result when it is packed into the bits.

Main results:

* `RemoteDisplay.Binary.fits_unpack` — the bits say nothing else;
* `RemoteDisplay.Binary.kept_of_le`, `RemoteDisplay.Binary.kept_of_lt` — **a rounded number is kept
  as it is**, or as an infinity when it is out of range.
-/
import RemoteDisplay.Proofs.Binary.Rounding

set_option relaxedAutoImplicit false
set_option autoImplicit false

namespace RemoteDisplay.Binary

open Float.Model Float.Model.UnpackedFloat

variable {f : Format}

/-! ### The range of exponents -/

/-- An exponent is written as its distance from the one before the smallest. -/
def distance (f : Format) : ℕ := f.exponentBias + f.mantissaBitsWithoutImplicit

/-- The largest exponent of a number. -/
def maxExponent (f : Format) : ℤ := (2 ^ f.exponentBits : ℕ) - 2 - distance f

theorem maxExponent_eq (f : Format) :
    maxExponent f = ((2 ^ f.exponentBits : ℕ) : ℤ) - 2 - distance f := rfl

theorem minExponent_eq (f : Format) : f.minExponent = 1 - distance f := by
  have hpower : 1 ≤ 2 ^ (f.exponentBits - 1) := Nat.one_le_two_pow
  rw [Format.minExponent, mantissaBits_eq, distance, Format.exponentBias]
  push_cast [hpower]
  ring

/-- A format has an exponent of more than one bit, so that it has numbers with a full mantissa. -/
class Wide (f : Format) : Prop where
  one_lt : 1 < f.exponentBits

instance : Wide .binary32 := ⟨by decide⟩

instance : Wide .binary64 := ⟨by decide⟩

theorem minExponent_le_maxExponent [Wide f] : f.minExponent ≤ maxExponent f := by
  have hpower : 2 ^ 2 ≤ 2 ^ f.exponentBits := Nat.pow_le_pow_right two_pos Wide.one_lt
  rw [minExponent_eq, maxExponent_eq]
  omega

/-! ### Reading the bits -/

/-- What a sign, an exponent and the digits behind the first one say. -/
def ofParts (f : Format) (s : Sign) (exponent : BitVec f.exponentBits)
    (mantissa : BitVec f.mantissaBitsWithoutImplicit) : UnpackedFloat :=
  if exponent = -1#_ then
    if mantissa = 0#_ then .infinity s else .notANumber
  else if exponent = 0#_ then
    if h : 0 < mantissa.toNat then .finite s mantissa.toNat f.minExponent h else .zero s
  else
    .finite s (2 ^ f.mantissaBitsWithoutImplicit + mantissa.toNat) (exponent.toNat - distance f)
      (Nat.add_pos_left (Nat.two_pow_pos _) _)

/-- The first digit of a mantissa stands before all others. -/
theorem toNat_one_append {w : ℕ} (v : BitVec w) : (1#1 ++ v).toNat = 2 ^ w + v.toNat := by
  rw [BitVec.toNat_append, ← Nat.shiftLeft_add_eq_or_of_lt v.isLt, Nat.shiftLeft_eq]
  simp

theorem unpack_eq (b : BitVec f.numBits) :
    unpack f b = ofParts f (.ofBitVec (unpackSign b)) (unpackExponent b) (unpackMantissa b) := by
  rw [UnpackedFloat.unpack, ofParts]
  split
  case isTrue hlast => rfl
  case isFalse hlast =>
    split
    case isTrue hfirst =>
      rw [hfirst]
      split
      case isTrue hzero => rw [dif_neg (by rw [hzero]; simp)]
      case isFalse hzero =>
        rw [dif_pos (Nat.pos_of_ne_zero fun h => hzero (BitVec.eq_of_toNat_eq (by simpa using h))),
          UnpackedFloat.finite.injEq, minExponent_eq, distance]
        refine ⟨rfl, rfl, ?_⟩
        push_cast
        simp
        ring
    case isFalse hfirst =>
      rw [UnpackedFloat.finite.injEq, distance]
      exact ⟨rfl, toNat_one_append _, by push_cast; rfl⟩

/-- What the bits of a format can say. -/
inductive Fits (f : Format) : UnpackedFloat → Prop
  | notANumber : Fits f .notANumber
  | infinity (s : Sign) : Fits f (.infinity s)
  | zero (s : Sign) : Fits f (.zero s)
  | finite (s : Sign) {m : ℕ} {e : ℤ} (hm : 0 < m) (h : Canonical f m e) (hle : e ≤ maxExponent f) :
    Fits f (.finite s m e hm)

theorem toNat_last (w : ℕ) : (-1#w).toNat = 2 ^ w - 1 := by
  rw [BitVec.neg_one_eq_allOnes, BitVec.toNat_allOnes]

/-- The smallest exponent is not the largest one. -/
theorem zero_ne_last : 0#f.exponentBits ≠ -1#_ := by
  intro h
  have hnat := congrArg BitVec.toNat h
  have hpower := Nat.one_lt_two_pow f.he.ne'
  rw [toNat_last, BitVec.toNat_ofNat, Nat.zero_mod] at hnat
  omega

theorem fits_ofParts [Wide f] (s : Sign) (exponent : BitVec f.exponentBits)
    (mantissa : BitVec f.mantissaBitsWithoutImplicit) :
    Fits f (ofParts f s exponent mantissa) := by
  have hmantissa := mantissa.isLt
  have hexponent := exponent.isLt
  have hmin := minExponent_eq f
  have hdouble := two_pow_mantissaBits f
  rw [ofParts]
  split
  case isTrue hlast =>
    split
    · exact .infinity s
    · exact .notANumber
  case isFalse hlast =>
    have hbelow : exponent.toNat ≠ 2 ^ f.exponentBits - 1 := by
      rw [← toNat_last]
      exact fun h => hlast (BitVec.eq_of_toNat_eq h)
    have hmax := maxExponent_eq f
    split
    case isTrue hfirst =>
      split
      · exact .finite s _ ⟨by omega, le_rfl, .inr rfl⟩ minExponent_le_maxExponent
      · exact .zero s
    case isFalse hfirst =>
      have hpos : exponent.toNat ≠ 0 := fun h => hfirst (BitVec.eq_of_toNat_eq (by simpa using h))
      exact .finite s _ ⟨by omega, by omega, .inl (by omega)⟩ (by omega)

/-- The bits say nothing else. -/
theorem fits_unpack [Wide f] (b : BitVec f.numBits) : Fits f (unpack f b) := by
  rw [unpack_eq]
  exact fits_ofParts _ _ _

/-! ### Writing the bits -/

/-- The bits are read as they are written. -/
theorem unpack_packComponents (s : Sign) (exponent : BitVec f.exponentBits)
    (mantissa : BitVec f.mantissaBitsWithoutImplicit) :
    unpack f (packComponents f s exponent mantissa) = ofParts f s exponent mantissa := by
  rw [unpack_eq, unpackMantissa_packComponents, unpackExponent_packComponents,
    unpackSign_packComponents, Sign.ofBitVec_toBitVec]

/-- The bits of a finite number, by the size of its exponent and its mantissa. -/
theorem pack_finite (s : Sign) {m : ℕ} (e : ℤ) (hm : 0 < m) :
    UnpackedFloat.pack f (.finite s m e hm) =
      if 2 ^ f.exponentBits ≤ (e + distance f).toNat + 1 then packComponents f s (-1#_) 0#_
      else if m.log2 + 1 = f.mantissaBits then
        packComponents f s (.ofNat _ (e + distance f).toNat) (.ofNat _ m)
      else packComponents f s 0#_ (.ofNat _ m) := by
  rw [UnpackedFloat.pack, distance, Nat.cast_add, ← add_assoc]
  rfl

/-- The parts of a full mantissa, whose first digit is not written. -/
theorem ofParts_full (s : Sign) {m : ℕ} {e : ℤ} (hm : 0 < m)
    (hle : 2 ^ f.mantissaBitsWithoutImplicit ≤ m) (hlt : m < 2 ^ f.mantissaBits)
    (hlow : f.minExponent ≤ e) (hhigh : e ≤ maxExponent f) :
    ofParts f s (.ofNat _ (e + distance f).toNat) (.ofNat _ m) = .finite s m e hm := by
  have hmin := minExponent_eq f
  have hmax := maxExponent_eq f
  have hdouble := two_pow_mantissaBits f
  have hexponent : (BitVec.ofNat f.exponentBits (e + distance f).toNat).toNat =
      (e + distance f).toNat := by
    rw [BitVec.toNat_ofNat, Nat.mod_eq_of_lt (by omega)]
  have hmantissa : (BitVec.ofNat f.mantissaBitsWithoutImplicit m).toNat =
      m - 2 ^ f.mantissaBitsWithoutImplicit := by
    rw [BitVec.toNat_ofNat, Nat.mod_eq_sub_mod hle, Nat.mod_eq_of_lt (by omega)]
  rw [ofParts, if_neg, if_neg]
  · rw [UnpackedFloat.finite.injEq, hexponent, hmantissa]
    exact ⟨rfl, by omega, by omega⟩
  · intro hfirst
    rw [hfirst, BitVec.toNat_ofNat, Nat.zero_mod] at hexponent
    omega
  · intro hlast
    rw [hlast, toNat_last] at hexponent
    omega

/-- The parts of a mantissa whose first digit is missing. -/
theorem ofParts_short (s : Sign) {m : ℕ} (hm : 0 < m)
    (hlt : m < 2 ^ f.mantissaBitsWithoutImplicit) :
    ofParts f s 0#_ (.ofNat _ m) = .finite s m f.minExponent hm := by
  have hmantissa : (BitVec.ofNat f.mantissaBitsWithoutImplicit m).toNat = m := by
    rw [BitVec.toNat_ofNat, Nat.mod_eq_of_lt hlt]
  rw [ofParts, if_neg zero_ne_last, if_pos rfl, dif_pos (by omega), UnpackedFloat.finite.injEq]
  exact ⟨rfl, hmantissa, rfl⟩

/-- What is left of a result when it is packed into the bits of a format. -/
def kept (f : Format) (u : UnpackedFloat) : UnpackedFloat := unpack f (UnpackedFloat.pack f u)

/-- **A rounded number inside the range is kept as it is.** -/
theorem kept_of_le (s : Sign) {m : ℕ} {e : ℤ} (hm : 0 < m) (h : Canonical f m e)
    (hle : e ≤ maxExponent f) : kept f (.finite s m e hm) = .finite s m e hm := by
  have hlow := h.le
  have hmin := minExponent_eq f
  have hmax := maxExponent_eq f
  have hdigits := mantissaBits_eq f
  rw [kept, pack_finite, if_neg (by omega)]
  split
  case isTrue hlog =>
    have hfull : 2 ^ f.mantissaBitsWithoutImplicit ≤ m := (Nat.le_log2 hm.ne').1 (by omega)
    rw [unpack_packComponents, ofParts_full s hm hfull h.lt hlow hle]
  case isFalse hlog =>
    have hlt : m.log2 < f.mantissaBits := (Nat.log2_lt hm.ne').2 h.lt
    have hshort : m < 2 ^ f.mantissaBitsWithoutImplicit := (Nat.log2_lt hm.ne').1 (by omega)
    obtain rfl := h.full.resolve_left (by omega)
    rw [unpack_packComponents, ofParts_short s hm hshort]

theorem ofParts_infinity (s : Sign) : ofParts f s (-1#_) 0#_ = .infinity s := by
  rw [ofParts, if_pos rfl, if_pos rfl]

/-- A rounded number out of range is kept as an infinity. -/
theorem kept_of_lt (s : Sign) {m : ℕ} {e : ℤ} (hm : 0 < m) (hlt : maxExponent f < e) :
    kept f (.finite s m e hm) = .infinity s := by
  have hmax := maxExponent_eq f
  have hpower := Nat.one_lt_two_pow f.he.ne'
  rw [kept, pack_finite, if_pos (by omega), unpack_packComponents, ofParts_infinity]

@[simp] theorem kept_infinity (s : Sign) : kept f (.infinity s) = .infinity s := by
  rw [kept, UnpackedFloat.pack, packedInfinity]
  exact (unpack_packComponents s _ _).trans (ofParts_infinity s)

theorem ofParts_zero (s : Sign) : ofParts f s 0#_ 0#_ = .zero s := by
  rw [ofParts, if_neg zero_ne_last, if_pos rfl, dif_neg (by simp)]

@[simp] theorem kept_zero (s : Sign) : kept f (.zero s) = .zero s := by
  rw [kept, UnpackedFloat.pack, packedZero]
  exact (unpack_packComponents s _ _).trans (ofParts_zero s)

@[simp] theorem kept_notANumber : kept f .notANumber = .notANumber := by
  rw [kept, UnpackedFloat.pack, packedNaN, unpack_packComponents, ofParts, if_pos rfl, if_neg]
  intro hzero
  have hnat := congrArg BitVec.toNat hzero
  have hdigits := f.hm
  rw [BitVec.toNat_shiftLeft, BitVec.toNat_ofNat, BitVec.toNat_ofNat, Nat.zero_mod,
    Nat.mod_eq_of_lt (Nat.one_lt_two_pow hdigits.ne'), Nat.shiftLeft_eq, one_mul,
    Nat.mod_eq_of_lt (Nat.pow_lt_pow_right one_lt_two (by omega))] at hnat
  exact (Nat.two_pow_pos _).ne' hnat

/-- What fits into the bits is kept. -/
theorem Fits.kept_eq {u : UnpackedFloat} (h : Fits f u) : kept f u = u := by
  cases h with
  | notANumber => exact kept_notANumber
  | infinity s => exact kept_infinity s
  | zero s => exact kept_zero s
  | finite s hm h hle => exact kept_of_le s hm h hle

end RemoteDisplay.Binary
