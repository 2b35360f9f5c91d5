/-
**Short axes are covered.**

The place of a new sample is computed with three roundings, and the weight of an old one with three
more.  As long as an axis is not brought to more than `2 ^ 21` samples, all of them together are too
small to matter: the old sample in which the place lies is one of those that the new sample is made
of, and it has a weight.  How long the old axis is makes no difference, since the places are that
much farther apart, and the weights that much wider.

Main definitions:

* `RemoteDisplay.Resample.Uncovered` — the weights of a new sample add up to nothing.

Main results:

* `RemoteDisplay.Resample.centreValue_lt` — the place of a new sample lies on the old axis;
* `RemoteDisplay.Resample.abs_distanceValue_le` — the old sample there is near enough;
* `RemoteDisplay.Resample.not_uncovered` — **short axes are covered**;
* `RemoteDisplay.Resample.all_isNumber_iff` — which images can be resized.
-/
import RemoteDisplay.Proofs.Raster.Sampling

set_option relaxedAutoImplicit false
set_option autoImplicit false

namespace RemoteDisplay.Resample

open Single Binary

/-! ### Places -/

section

variable {n m o : ℕ}

/-- The middle of a new sample is a number. -/
theorem nearest_middle (h : o < 2 ^ 23) :
    nearest .binary32 (nearest .binary32 o + 1 / 2) = o + 1 / 2 := by
  have hdigits : |(2 * o + 1 : ℤ)| < 2 ^ Float.Model.Format.binary32.mantissaBits := by
    rw [mantissaBits_binary32, abs_of_nonneg (by omega)]
    omega
  have hself := nearest_eq_self (f := .binary32) (e := -1) hdigits (by decide)
  have hmiddle : ((2 * o + 1 : ℤ) : ℝ) * 2 ^ (-1 : ℤ) = o + 1 / 2 := by
    push_cast
    rw [zpow_neg_one]
    ring
  rwa [nearest_natCast (by omega), ← hmiddle]

/-- The number of old samples that go into a new one is nearly the quotient. -/
theorem ratioValue_bounds (hn : 0 < n) (hm : 0 < m) (hm' : m ≤ 2 ^ 21) :
    1 / 2 ^ 21 ≤ ratioValue n m ∧ ratioValue n m ≤ n * (1 + 1 / 2 ^ 24) ^ 2 / m := by
  have hn' : (1 : ℝ) ≤ n := mod_cast hn
  have hpos : (0 : ℝ) < m := mod_cast hm
  have hshort : (m : ℝ) ≤ 2 ^ 21 := mod_cast hm'
  have hself : nearest .binary32 m = m := nearest_natCast (by omega)
  have hone := one_le_nearest hn
  have herror := (abs_le.1 (abs_error_le (a := (n : ℝ)) (le_trans (by norm_num) hn'))).2
  have hquotient : 1 / 2 ^ 21 ≤ nearest .binary32 n / m :=
    div_le_div₀ (zero_le_one.trans hone) hone hpos hshort
  have herror' := abs_error_le (a := nearest .binary32 n / m) (le_trans (by norm_num) hquotient)
  rw [ratioValue, hself]
  constructor
  · have hpower : nearest .binary32 (1 / 2 ^ 21) = 1 / 2 ^ 21 := by
      have h := nearest_two_zpow (f := .binary32) (e := -21) (by decide)
      rwa [zpow_neg, ← one_div] at h
    exact le_nearest hpower hquotient
  · calc nearest .binary32 (nearest .binary32 n / m)
        ≤ nearest .binary32 n / m * (1 + 1 / 2 ^ 24) := by linarith [(abs_le.1 herror').2]
      _ ≤ n * (1 + 1 / 2 ^ 24) / m * (1 + 1 / 2 ^ 24) := by
        gcongr
        linarith
      _ = n * (1 + 1 / 2 ^ 24) ^ 2 / m := by ring

/-- The place of a new sample is nearly where it should be. -/
theorem centreValue_bounds (hn : 0 < n) (hm : m ≤ 2 ^ 21) (ho : o < m) :
    0 < centreValue n m o ∧
      centreValue n m o ≤ (o + 1 / 2) * ratioValue n m * (1 + 1 / 2 ^ 24) := by
  obtain ⟨hratio, -⟩ := ratioValue_bounds hn (by omega : 0 < m) hm
  have hmiddle : (1 / 2 : ℝ) ≤ o + 1 / 2 := le_add_of_nonneg_left (Nat.cast_nonneg o)
  have hplace : 1 / 2 * (1 / 2 ^ 21) ≤ (o + 1 / 2) * ratioValue n m := by gcongr
  have herror := abs_le.1 (abs_error_le (a := (o + 1 / 2) * ratioValue n m)
    (le_trans (by norm_num) hplace))
  rw [centreValue_eq, nearest_middle (by omega)]
  constructor
  · norm_num at hplace herror ⊢
    linarith
  · linarith

/-- The place of a new sample lies on the old axis. -/
theorem centreValue_lt (hn : 0 < n) (hm : m ≤ 2 ^ 21) (ho : o < m) : centreValue n m o < n := by
  have hpos : (0 : ℝ) < m := mod_cast (by omega : 0 < m)
  have hn' : (0 : ℝ) < n := mod_cast hn
  have hshort : (m : ℝ) ≤ 2 ^ 21 := mod_cast hm
  have hlast : (o : ℝ) + 1 ≤ m := mod_cast ho
  obtain ⟨-, hratio⟩ := ratioValue_bounds hn (by omega : 0 < m) hm
  -- three roundings are less than half a sample of the new axis
  have hpart : ((o : ℝ) + 1 / 2) * (1 + 1 / 2 ^ 24) ^ 3 < m := by
    calc ((o : ℝ) + 1 / 2) * (1 + 1 / 2 ^ 24) ^ 3
        ≤ ((m : ℝ) - 1 / 2) * (1 + 1 / 2 ^ 24) ^ 3 := by
          gcongr
          linarith
      _ < (m : ℝ) := by
        norm_num
        linarith
  calc centreValue n m o ≤ (o + 1 / 2) * ratioValue n m * (1 + 1 / 2 ^ 24) :=
        (centreValue_bounds hn hm ho).2
    _ ≤ (o + 1 / 2) * (n * (1 + 1 / 2 ^ 24) ^ 2 / m) * (1 + 1 / 2 ^ 24) := by gcongr
    _ = n * ((o + 1 / 2) * (1 + 1 / 2 ^ 24) ^ 3 / m) := by ring
    _ < n * 1 := by
      gcongr
      exact (div_lt_one hpos).2 hpart
    _ = n := mul_one _

/-- A place is not so far out that numbers there would be far apart. -/
theorem centreValue_le_reachValue (hn : 0 < n) (hm : m ≤ 2 ^ 21) (ho : o < m) :
    centreValue n m o / 2 ^ 24 ≤ reachValue n m * (9 / 64) := by
  have hshort : (m : ℝ) ≤ 2 ^ 21 := mod_cast hm
  have hlast : (o : ℝ) + 1 ≤ m := mod_cast ho
  have hreach := one_le_reachValue n m
  have hratio : ratioValue n m ≤ reachValue n m := le_max_right _ _
  have hplace : (o + 1 / 2) * ratioValue n m ≤ 2 ^ 21 * reachValue n m := by
    have hpos : 0 ≤ ratioValue n m :=
      le_trans (by positivity) (ratioValue_bounds hn (by omega : 0 < m) hm).1
    gcongr
    linarith
  linarith [(centreValue_bounds hn hm ho).2]

/-- The middle of the old sample in which a place lies is half a sample away from there, or little
more. -/
theorem abs_offset_le {c reach : ℝ} (hc : 0 ≤ c) (hreach : 1 ≤ reach)
    (hspread : c / 2 ^ 24 ≤ reach * (9 / 64)) :
    |nearest .binary32 ⌊c⌋₊ - nearest .binary32 (c - 1 / 2)| ≤ reach * (13 / 16) := by
  have hfloor := Nat.floor_le hc
  have hfloor' := Nat.lt_floor_add_one c
  have hwhole := abs_error_le_add (⌊c⌋₊ : ℝ)
  rw [Nat.abs_cast] at hwhole
  have hshift := abs_error_le_add (c - 1 / 2)
  have hmiddle : |c - 1 / 2| ≤ c + 1 / 2 := abs_le.2 ⟨by linarith, by linarith⟩
  rw [abs_le] at hwhole hshift ⊢
  norm_num at hwhole hshift hspread ⊢
  constructor <;> linarith

/-- The old sample in which the place of a new one lies is near enough to have a weight. -/
theorem abs_distanceValue_le (hn : 0 < n) (hm : m ≤ 2 ^ 21) (ho : o < m) :
    |distanceValue n m o ⌊centreValue n m o⌋₊| ≤ 7 / 8 := by
  have hreach := one_le_reachValue n m
  have hoffset := abs_offset_le (centreValue_bounds hn hm ho).1.le hreach
    (centreValue_le_reachValue hn hm ho)
  have herror := abs_error_le_add (nearest .binary32 ⌊centreValue n m o⌋₊ -
    nearest .binary32 (centreValue n m o - 1 / 2))
  rw [distanceValue_eq]
  generalize nearest .binary32 ⌊centreValue n m o⌋₊ -
    nearest .binary32 (centreValue n m o - 1 / 2) = offset at *
  have hrounded : |nearest .binary32 offset| ≤ 7 / 8 * reachValue n m := by
    have htriangle := abs_sub_abs_le_abs_sub (nearest .binary32 offset) offset
    norm_num at herror
    linarith
  refine abs_nearest_le ?_ ?_
  · have h := nearest_eq_self (f := .binary32) (m := 7) (e := -3) (by decide) (by decide)
    norm_num at h ⊢
    exact h
  · rwa [abs_div, abs_of_pos (zero_lt_one.trans_le hreach),
      div_le_iff₀ (zero_lt_one.trans_le hreach)]

/-- The end of the old samples that have a weight lies behind the place of the new one. -/
theorem centreValue_lt_nearest (hn : 0 < n) (hm : m ≤ 2 ^ 21) (ho : o < m) :
    centreValue n m o < nearest .binary32 (centreValue n m o + reachValue n m) := by
  have hpos := (centreValue_bounds hn hm ho).1
  have hspread := centreValue_le_reachValue hn hm ho
  have hreach := one_le_reachValue n m
  have herror := abs_le.1 (abs_error_le_add (centreValue n m o + reachValue n m))
  rw [abs_of_pos (by linarith)] at herror
  norm_num at herror hspread
  linarith

theorem tentValue_pos {d : ℝ} (h : |d| ≤ 7 / 8) : 0 < tentValue d := by
  have hpower : nearest .binary32 (1 / 8) = 1 / 8 := by
    have h := nearest_two_zpow (f := .binary32) (e := -3) (by decide)
    norm_num at h ⊢
    exact h
  have hlt : |d| < 1 := h.trans_lt (by norm_num)
  have hle := le_nearest hpower (by linarith : 1 / 8 ≤ 1 - |d|)
  rw [tentValue, if_pos hlt]
  linarith

end

/-! ### Whole numbers near a place -/

section

variable {x : Float32} {a : ℝ}

theorem floorNat_eq (h : HasValue x a) (hlt : a < 2 ^ 64) : floorNat x = ⌊a⌋₊ := by
  rw [floorNat]
  split
  next hpos => exact h.toNat_toUInt64 ((hasValue_zero.lt_iff h).1 hpos).le hlt
  next hneg =>
    have hneg' : a ≤ 0 := not_lt.1 fun hpos => hneg ((hasValue_zero.lt_iff h).2 hpos)
    exact (Nat.floor_of_nonpos hneg').symm

/-- A whole number that is less than another after rounding is less than what that is rounded up
to. -/
theorem lt_ceilNat {i : ℕ} (h : HasValue x a) (hlt : a < 2 ^ 64) (hi : nearest .binary32 i < a) :
    i < ceilNat x := by
  have hpos : 0 < a := (nearest_nonneg (Nat.cast_nonneg i)).trans_lt hi
  have hwhole := h.toNat_toUInt64 hpos.le hlt
  have hword := hasValue_word64 x.toUInt64
  rw [hwhole] at hword
  simp only [ceilNat, if_pos ((hasValue_zero.lt_iff h).2 hpos), hword.lt_iff h, hwhole]
  split
  next hbelow =>
    by_contra hge
    have hle : a ≤ i := (Nat.lt_floor_add_one a).le.trans (mod_cast not_lt.1 hge)
    exact hi.not_ge (le_nearest h.nearest_eq hle)
  next habove =>
    by_contra hge
    have hle : (⌊a⌋₊ : ℝ) ≤ i := mod_cast not_lt.1 hge
    exact habove ((nearest_mono hle).trans_lt hi)

end

/-! ### Weights -/

section

variable {n m : UInt32} {o : ℕ}

/-- The old sample in which the place of a new one lies goes into it. -/
theorem first_le_and_lt_stop (hn : 0 < n.toNat) (hm : m.toNat ≤ 2 ^ 21) (ho : o < m.toNat) :
    first n m o ≤ ⌊centreValue n.toNat m.toNat o⌋₊ ∧
      ⌊centreValue n.toNat m.toNat o⌋₊ < stop n m o := by
  have hm' : 0 < m.toNat := by omega
  have hcentre := hasValue_centre (n := n) hm' (ho.trans m.toNat_lt_size)
  have hreach := hasValue_reach (n := n) hm'
  have hpos := (centreValue_bounds hn hm ho).1
  have hlt := centreValue_lt hn hm ho
  have hone := one_le_reachValue n.toNat m.toNat
  have hword : (n.toNat : ℝ) < 2 ^ 32 := mod_cast n.toNat_lt
  have hle := (le_abs_self _).trans (abs_reachValue_le (n := n) hm')
  have hnext := centreValue_lt_nearest hn hm ho
  generalize centreValue n.toNat m.toNat o = c at *
  generalize reachValue n.toNat m.toNat = r at *
  have hbelow := hcentre.sub hreach (abs_le.2 ⟨by linarith, by linarith⟩)
  have habove := hcentre.add hreach (abs_le.2 ⟨by linarith, by linarith⟩)
  have hbelow' : nearest .binary32 (c - r) ≤ c := nearest_le hcentre.nearest_eq (by linarith)
  have habove' : nearest .binary32 (c + r) ≤ 2 ^ 33 :=
    nearest_le (nearest_two_pow 33) (by linarith)
  have hwhole : nearest .binary32 ⌊c⌋₊ ≤ c := nearest_le hcentre.nearest_eq (Nat.floor_le hpos.le)
  have hinside : ⌊c⌋₊ < n.toNat := (Nat.floor_lt hpos.le).2 hlt
  have hceil := lt_ceilNat habove (by linarith) (hwhole.trans_lt hnext)
  rw [stop, first, floorNat_eq hbelow (by linarith)]
  have hfloor := Nat.floor_mono hbelow'
  omega

/-- The weights of a new sample add up to something, if there are not too many new ones. -/
theorem sum_weights_pos (hn : 0 < n.toNat) (hm : m.toNat ≤ 2 ^ 21) (ho : o < m.toNat) :
    0 < sum (weights n m o) := by
  have hm' : 0 < m.toNat := by omega
  have ho' : o < UInt32.size := ho.trans m.toNat_lt_size
  obtain ⟨s, hs, -, hle⟩ := exists_sum fun w hw => between_of_mem_weights hn hm' ho' hw
  obtain ⟨hfirst, hstop⟩ := first_le_and_lt_stop hn hm ho
  have hn' := stop_le (m := m) (o := o) hn
  have hlt := n.toNat_lt_size
  have hmem := mem_weights.2 ⟨_, hfirst, hstop, rfl⟩
  have hweight := hasValue_weight (n := n) hm' ho' ((hstop.trans_le hn').trans hlt)
  exact (hasValue_zero.lt_iff hs).2
    ((tentValue_pos (abs_distanceValue_le hn hm ho)).trans_le (hle _ hmem _ hweight))

end

/-! ### Samples -/

section

variable {n m : UInt32}

/-- The weights of some new sample add up to nothing, when an axis of `n` samples is brought to
`m`. -/
def Uncovered (n m : UInt32) : Prop := ∃ o, o < m.toNat ∧ ¬ 0 < sum (weights n m o)

/-- **Short axes are covered.** -/
theorem not_uncovered (hn : 0 < n.toNat) (hm : m.toNat ≤ 2 ^ 21) : ¬ Uncovered n m := by
  rintro ⟨o, ho, hsum⟩
  exact hsum (sum_weights_pos hn hm ho)

/-- All new samples are numbers exactly if both axes are covered. -/
theorem all_isNumber_iff {im : Image} {width height : UInt32}
    (him : 0 < im.width.toNat ∧ 0 < im.height.toNat)
    (hsize : 0 < width.toNat ∧ 0 < height.toNat) :
    (samples im width height).all (Array.all · Sample.isNumber) = true ↔
      ¬(Uncovered im.height height ∨ Uncovered im.width width) := by
  rw [all_isNumber_samples, not_or]
  constructor
  · intro hnumber
    constructor
    · rintro ⟨y, hy, hsum⟩
      exact hsum ((isNumber_sampleAt him.1 him.2 hsize.1 hy).1 (hnumber 0 hsize.1 y hy)).2
    · rintro ⟨x, hx, hsum⟩
      exact hsum ((isNumber_sampleAt him.1 him.2 hx hsize.2).1 (hnumber x hx 0 hsize.2)).1
  · rintro ⟨hrows, hcolumns⟩ x hx y hy
    rw [isNumber_sampleAt him.1 him.2 hx hy]
    exact ⟨not_not.1 fun hsum => hcolumns ⟨x, hx, hsum⟩, not_not.1 fun hsum => hrows ⟨y, hy, hsum⟩⟩

end

end RemoteDisplay.Resample
