/-
**Which samples are numbers.**

A new sample is a mean of old ones, divided by the sum of their weights.  In single precision the
place of a new sample is only nearly where it should be, and if it comes out too far from all old
samples the weights add up to nothing.  Then the new sample is no number, and otherwise it is one:
sums of that many numbers stay far inside the range.

Main definitions:

* `RemoteDisplay.Single.Between`, `RemoteDisplay.Single.Agree` — a number between two bounds, and
  two of the same value;
* `RemoteDisplay.Resample.centreValue`, `RemoteDisplay.Resample.distanceValue`,
  `RemoteDisplay.Resample.tentValue` — the values that the weights are computed from;
* `RemoteDisplay.Resample.sampleAt` — a new sample.

Main results:

* `RemoteDisplay.Single.HasValue.add_small` — a sum to which little is added stays in range;
* `RemoteDisplay.Resample.hasValue_weight` — the value of a weight;
* `RemoteDisplay.Resample.rel_mean` — a mean depends on the values of its numbers only;
* `RemoteDisplay.Resample.isNumber_sampleAt` — **which samples are numbers**.
-/
import RemoteDisplay.Proofs.Single.Value
import RemoteDisplay.Raster.Resample

set_option relaxedAutoImplicit false
set_option autoImplicit false

namespace RemoteDisplay

namespace Single

open Binary

/-! ### Numbers between bounds -/

/-- A number between two bounds. -/
def Between (lo hi : ℝ) (x : Float32) : Prop := ∃ a, HasValue x a ∧ lo ≤ a ∧ a ≤ hi

variable {x y : Float32} {a b : ℝ} {k : ℕ}

theorem abs_le_two_pow (hk : k ≤ 127) (ha : 0 ≤ a) (h : a ≤ 2 ^ k) : |a| ≤ 2 ^ 127 := by
  rw [abs_of_nonneg ha]
  exact h.trans (pow_le_pow_right₀ one_le_two hk)

/-- A sum to which little is added does not grow out of bounds, however often that is done: the next
number above the bound is too far away. -/
theorem HasValue.add_small (hk : k ≤ 100) (hx : HasValue x a) (hy : HasValue y b) (ha : 0 ≤ a)
    (ha' : a ≤ 2 ^ (k + 25)) (hb : 0 ≤ b) (hb' : b ≤ 2 ^ k) :
    HasValue (x + y) (nearest .binary32 (a + b)) ∧ a ≤ nearest .binary32 (a + b) ∧
      b ≤ nearest .binary32 (a + b) ∧ nearest .binary32 (a + b) ≤ 2 ^ (k + 25) := by
  have hsmall : (2 : ℝ) ^ k < 2 ^ (k + 1) := pow_lt_pow_right₀ one_lt_two (Nat.lt_succ_self k)
  have hlarge : (2 : ℝ) ^ k ≤ 2 ^ (k + 25) := pow_le_pow_right₀ one_le_two (by omega)
  have hdouble : (2 : ℝ) ^ (k + 26) = 2 ^ (k + 25) + 2 ^ (k + 25) := by ring
  refine ⟨hx.add hy (abs_le_two_pow (k := k + 26) (by omega) (by linarith) (by linarith)),
    le_nearest hx.nearest_eq (by linarith), le_nearest hy.nearest_eq (by linarith), ?_⟩
  have hround := nearest_le_two_zpow (f := .binary32) (e := (k + 25 : ℕ)) (x := a + b)
    (by rw [minExponent_binary32, mantissaBits_binary32]; push_cast; omega) ?_
  · rwa [zpow_natCast] at hround
  · have hunit : ((k + 25 : ℕ) : ℤ) - Float.Model.Format.binary32.mantissaBits = (k + 1 : ℕ) := by
      rw [mantissaBits_binary32]
      push_cast
      ring
    rw [hunit, zpow_natCast, zpow_natCast]
    linarith

/-- Two numbers of the same value, which lies between zero and a bound. -/
def Agree (bound : ℝ) (x y : Float32) : Prop :=
  ∃ a, HasValue x a ∧ HasValue y a ∧ 0 ≤ a ∧ a ≤ bound

/-- A weighted number is no larger than the number. -/
theorem Agree.mul {w : Float32} (hk : k ≤ 127) (h : Agree (2 ^ k) x y) (hw : Between 0 1 w) :
    Agree (2 ^ k) (x * w) (y * w) := by
  obtain ⟨a, hx, hy, ha, ha'⟩ := h
  obtain ⟨b, hw, hb, hb'⟩ := hw
  have hnonneg := mul_nonneg ha hb
  have hle : a * b ≤ 2 ^ k := (mul_le_of_le_one_right ha hb').trans ha'
  have habs := abs_le_two_pow hk hnonneg hle
  exact ⟨_, hx.mul hw habs, hy.mul hw habs, nearest_nonneg hnonneg,
    nearest_le (nearest_two_pow k) hle⟩

theorem Agree.add {x' y' : Float32} (hk : k ≤ 100) (h : Agree (2 ^ (k + 25)) x y)
    (h' : Agree (2 ^ k) x' y') : Agree (2 ^ (k + 25)) (x + x') (y + y') := by
  obtain ⟨a, hx, hy, ha, ha'⟩ := h
  obtain ⟨b, hx', hy', hb, hb'⟩ := h'
  obtain ⟨hsum, hle, -, hsum'⟩ := hx.add_small hk hx' ha ha' hb hb'
  exact ⟨_, hsum, (hy.add_small hk hy' ha ha' hb hb').1, ha.trans hle, hsum'⟩

end Single

namespace Resample

open Single Binary

/-! ### Sums -/

/-- The sum of some weights is a number, and none of them is larger. -/
theorem exists_foldl_add {ws : List Float32} (hws : ∀ w ∈ ws, Between 0 1 w) {x : Float32} {a : ℝ}
    (hx : HasValue x a) (ha : 0 ≤ a) (ha' : a ≤ 2 ^ 25) :
    ∃ s, HasValue (ws.foldl (· + ·) x) s ∧ a ≤ s ∧ ∀ w ∈ ws, ∀ b, HasValue w b → b ≤ s := by
  induction ws generalizing x a with
  | nil => exact ⟨a, hx, le_rfl, fun w hw => absurd hw (List.not_mem_nil)⟩
  | cons w ws ih =>
    obtain ⟨b, hw, hb, hb'⟩ := hws w List.mem_cons_self
    obtain ⟨hs, has, hbs, hs'⟩ :=
      hx.add_small (k := 0) (by omega) hw ha (by simpa using ha') hb (by simpa using hb')
    obtain ⟨t, ht, hst, hle⟩ := ih (fun v hv => hws v (List.mem_cons_of_mem w hv)) hs
      (ha.trans has) (by simpa using hs')
    refine ⟨t, ht, has.trans hst, ?_⟩
    intro v hv c hc
    rcases List.mem_cons.1 hv with rfl | hv
    · rw [hc.unique hw]
      exact hbs.trans hst
    · exact hle v hv c hc

/-- The sum of some weights is a number, and none of them is larger. -/
theorem exists_sum {ws : List Float32} (hws : ∀ w ∈ ws, Between 0 1 w) :
    ∃ s, HasValue (sum ws) s ∧ 0 ≤ s ∧ ∀ w ∈ ws, ∀ b, HasValue w b → b ≤ s :=
  exists_foldl_add hws hasValue_zero le_rfl (by positivity)

/-! ### Weighted sums -/

namespace Sample

/-- Two samples are related channel by channel. -/
def Rel (p : Float32 → Float32 → Prop) (s t : Sample) : Prop :=
  p s.r t.r ∧ p s.g t.g ∧ p s.b t.b ∧ p s.a t.a

/-- All channels of a sample have a property. -/
def All (p : Float32 → Prop) (s : Sample) : Prop := s.Rel (fun x _ => p x) s

variable {s t sum sum' : Sample}

theorem Rel.imp {p q : Float32 → Float32 → Prop} (h : ∀ x y, p x y → q x y) (hs : s.Rel p t) :
    s.Rel q t :=
  ⟨h _ _ hs.1, h _ _ hs.2.1, h _ _ hs.2.2.1, h _ _ hs.2.2.2⟩

/-- What holds for each channel of a weighted sum holds for all of them. -/
theorem Rel.addScaled {p q r : Float32 → Float32 → Prop} {w : Float32}
    (h : ∀ x y x' y', p x y → q x' y' → r (x + x' * w) (y + y' * w)) (hsum : sum.Rel p sum')
    (hs : s.Rel q t) : (sum.addScaled s w).Rel r (sum'.addScaled t w) :=
  ⟨h _ _ _ _ hsum.1 hs.1, h _ _ _ _ hsum.2.1 hs.2.1, h _ _ _ _ hsum.2.2.1 hs.2.2.1,
    h _ _ _ _ hsum.2.2.2 hs.2.2.2⟩

theorem all_true (s : Sample) : s.All fun _ => True := ⟨trivial, trivial, trivial, trivial⟩

theorem All.addScaled {p q r : Float32 → Prop} {w : Float32}
    (h : ∀ x x', p x → q x' → r (x + x' * w)) (hsum : sum.All p) (hs : s.All q) :
    (sum.addScaled s w).All r :=
  Rel.addScaled (fun x _ x' _ => h x x') hsum hs

theorem isNumber_iff : s.isNumber = true ↔ s.All fun x => ¬ IsNone x := by
  simp [isNumber, All, Rel, ← isNaN_iff, and_assoc]

end Sample

/-- The weighted sum of numbers is a number, and depends on their values only. -/
theorem rel_addWeighted {f g : Nat → Sample} {k : ℕ} (hk : k ≤ 100) {ws : List Float32} {i : ℕ}
    {sum sum' : Sample} (hws : ∀ w ∈ ws, Between 0 1 w)
    (hfg : ∀ j, i ≤ j → j < i + ws.length → (f j).Rel (Agree (2 ^ k)) (g j))
    (hsum : sum.Rel (Agree (2 ^ (k + 25))) sum') :
    (addWeighted f ws i sum).Rel (Agree (2 ^ (k + 25))) (addWeighted g ws i sum') := by
  induction ws generalizing i sum sum' with
  | nil => exact hsum
  | cons w ws ih =>
    have hw := hws w List.mem_cons_self
    refine ih (fun v hv => hws v (List.mem_cons_of_mem w hv)) ?_ ?_
    · intro j hij hj
      refine hfg j (by omega) ?_
      rw [List.length_cons]
      omega
    · refine hsum.addScaled ?_ (hfg i le_rfl (by simp))
      intro x y x' y' h h'
      exact h.add hk (h'.mul (by omega) hw)

/-- What is no number stays none, whatever is added to it. -/
theorem all_isNone_addWeighted {sample : Nat → Sample} {ws : List Float32} {i : ℕ} {sum : Sample}
    (hsum : sum.All IsNone) : (addWeighted sample ws i sum).All IsNone := by
  induction ws generalizing i sum with
  | nil => exact hsum
  | cons w ws ih =>
    exact ih (hsum.addScaled (fun _ _ hx _ => IsNone.add (.inl hx)) (Sample.all_true _))

/-- A weighted sum is no number if the first weight is none, or the first sample. -/
theorem Taps.all_isNone_mean {t : Taps} {sample : Nat → Sample} (hne : t.weights ≠ [])
    (h : (∀ w ∈ t.weights, IsNone w) ∨ (sample t.first).All IsNone) :
    (t.mean sample).All IsNone := by
  obtain ⟨w, ws, hws⟩ := List.exists_cons_of_ne_nil hne
  rw [mean, hws, addWeighted]
  refine all_isNone_addWeighted ?_
  rcases h with hnone | hnone
  · have hw := hnone w (by rw [hws]; exact List.mem_cons_self)
    refine (Sample.all_true _).addScaled ?_ (Sample.all_true _)
    intro x y _ _
    exact IsNone.add (.inr (IsNone.mul (.inr hw)))
  · refine (Sample.all_true _).addScaled ?_ hnone
    intro x y _ hy
    exact IsNone.add (.inr (IsNone.mul (.inl hy)))

/-! ### Weights -/

/-- The value of the number of old samples that go into a new one. -/
noncomputable def ratioValue (n m : ℕ) : ℝ :=
  nearest .binary32 (nearest .binary32 n / nearest .binary32 m)

/-- The value of the distance from which on an old sample has no weight. -/
noncomputable def reachValue (n m : ℕ) : ℝ := max 1 (ratioValue n m)

/-- The value of the place of new sample `o`. -/
noncomputable def centreValue (n m o : ℕ) : ℝ :=
  nearest .binary32 (nearest .binary32 (nearest .binary32 o + 1 / (2 : ℕ)) * ratioValue n m)

/-- The value of the distance of old sample `i` from there, as a part of the reach. -/
noncomputable def distanceValue (n m o i : ℕ) : ℝ :=
  nearest .binary32 (nearest .binary32 (nearest .binary32 i -
    nearest .binary32 (centreValue n m o - 1 / (2 : ℕ))) / reachValue n m)

theorem centreValue_eq (n m o : ℕ) : centreValue n m o =
    nearest .binary32 (nearest .binary32 (nearest .binary32 o + 1 / 2) * ratioValue n m) := by
  rw [centreValue, Nat.cast_ofNat]

theorem distanceValue_eq (n m o i : ℕ) : distanceValue n m o i =
    nearest .binary32 (nearest .binary32 (nearest .binary32 i -
      nearest .binary32 (centreValue n m o - 1 / 2)) / reachValue n m) := by
  rw [distanceValue, Nat.cast_ofNat]

/-- The value of the weight at a distance. -/
noncomputable def tentValue (d : ℝ) : ℝ := if |d| < 1 then nearest .binary32 (1 - |d|) else 0

theorem one_le_nearest {n : ℕ} (h : 0 < n) : 1 ≤ nearest .binary32 n :=
  le_nearest hasValue_one.nearest_eq (mod_cast h)

theorem abs_nearest_word_le (n : UInt32) : |nearest .binary32 n.toNat| ≤ 2 ^ 32 := by
  refine abs_nearest_le_two_pow ?_
  rw [abs_of_nonneg (Nat.cast_nonneg _)]
  exact_mod_cast n.toNat_lt.le

section

variable {n m : UInt32} {o i : ℕ}

theorem abs_ratioValue_le (hm : 0 < m.toNat) : |ratioValue n.toNat m.toNat| ≤ 2 ^ 32 := by
  refine abs_nearest_le_two_pow ?_
  have hone := one_le_nearest hm
  rw [abs_div, abs_of_pos (zero_lt_one.trans_le hone)]
  exact (div_le_self (abs_nonneg _) hone).trans (abs_nearest_word_le n)

theorem hasValue_ratio (hm : 0 < m.toNat) :
    HasValue (ratio n m) (ratioValue n.toNat m.toNat) := by
  have hone := one_le_nearest hm
  refine (hasValue_word n).div (hasValue_word m) (zero_lt_one.trans_le hone).ne' ?_
  rw [abs_div, abs_of_pos (zero_lt_one.trans_le hone)]
  exact (div_le_self (abs_nonneg _) hone).trans ((abs_nearest_word_le n).trans (by norm_num))

theorem hasValue_reach (hm : 0 < m.toNat) :
    HasValue (reach n m) (reachValue n.toNat m.toNat) := by
  have hratio := hasValue_ratio (n := n) hm
  rw [reach, reachValue]
  split
  next hlt =>
    rw [max_eq_left ((hratio.lt_iff hasValue_one).1 hlt).le]
    exact hasValue_one
  next hle =>
    rw [max_eq_right (not_lt.1 fun hlt => hle ((hratio.lt_iff hasValue_one).2 hlt))]
    exact hratio

theorem one_le_reachValue (n m : ℕ) : 1 ≤ reachValue n m := le_max_left _ _

theorem abs_reachValue_le (hm : 0 < m.toNat) : |reachValue n.toNat m.toNat| ≤ 2 ^ 32 := by
  rw [abs_of_nonneg (zero_le_one.trans (one_le_reachValue _ _))]
  exact max_le (by norm_num) ((le_abs_self _).trans (abs_ratioValue_le hm))

/-- The middle of a new sample. -/
theorem abs_middle_le (h : o < UInt32.size) : |nearest .binary32 o + 1 / 2| ≤ 2 ^ 33 := by
  have hword := abs_nearest_word_le (UInt32.ofNat o)
  rw [UInt32.toNat_ofNat_of_lt' h] at hword
  have hsum := abs_add_le (nearest .binary32 o) (1 / 2)
  norm_num at hsum hword ⊢
  linarith

theorem abs_centre_le (hm : 0 < m.toNat) (h : o < UInt32.size) :
    |nearest .binary32 (nearest .binary32 o + 1 / 2) * ratioValue n.toNat m.toNat| ≤ 2 ^ 65 := by
  rw [abs_mul]
  calc _ ≤ (2 : ℝ) ^ 33 * 2 ^ 32 :=
        mul_le_mul (abs_nearest_le_two_pow (abs_middle_le h)) (abs_ratioValue_le hm)
          (abs_nonneg _) (by positivity)
    _ = 2 ^ 65 := by norm_num

theorem hasValue_centre (hm : 0 < m.toNat) (h : o < UInt32.size) :
    HasValue (centre n m o) (centreValue n.toNat m.toNat o) := by
  have hword := hasValue_word (UInt32.ofNat o)
  rw [UInt32.toNat_ofNat_of_lt' h] at hword
  rw [centreValue_eq]
  refine (hword.add hasValue_half ?_).mul (hasValue_ratio hm) ?_
  · exact (abs_middle_le h).trans (by norm_num)
  · exact (abs_centre_le hm h).trans (by norm_num)

theorem abs_centreValue_le (hm : 0 < m.toNat) (h : o < UInt32.size) :
    |centreValue n.toNat m.toNat o| ≤ 2 ^ 65 := by
  rw [centreValue_eq]
  exact abs_nearest_le_two_pow (abs_centre_le hm h)

theorem hasValue_distance (hm : 0 < m.toNat) (ho : o < UInt32.size) (hi : i < UInt32.size) :
    HasValue (((UInt32.ofNat i).toFloat32 - (centre n m o - 0.5)) / reach n m)
        (distanceValue n.toNat m.toNat o i) ∧
      |distanceValue n.toNat m.toNat o i| ≤ 2 ^ 67 := by
  have hword := hasValue_word (UInt32.ofNat i)
  have hword' := abs_nearest_word_le (UInt32.ofNat i)
  rw [UInt32.toNat_ofNat_of_lt' hi] at hword hword'
  have hcentre := abs_centreValue_le (n := n) hm ho
  have hreach := one_le_reachValue n.toNat m.toNat
  have hpos := zero_lt_one.trans_le hreach
  have hshift : |centreValue n.toNat m.toNat o - 1 / 2| ≤ 2 ^ 66 := by
    have hsub := abs_sub (centreValue n.toNat m.toNat o) (1 / 2)
    norm_num at hsub hcentre ⊢
    linarith
  have hshift' := abs_nearest_le_two_pow hshift
  have hoffset : |nearest .binary32 i - nearest .binary32 (centreValue n.toNat m.toNat o - 1 / 2)| ≤
      2 ^ 67 := by
    have hsub := abs_sub (nearest .binary32 i)
      (nearest .binary32 (centreValue n.toNat m.toNat o - 1 / 2))
    norm_num at hsub hword' hshift' ⊢
    linarith
  have hquotient : |nearest .binary32 (nearest .binary32 i -
      nearest .binary32 (centreValue n.toNat m.toNat o - 1 / 2)) /
        reachValue n.toNat m.toNat| ≤ 2 ^ 67 := by
    rw [abs_div, abs_of_pos hpos]
    exact (div_le_self (abs_nonneg _) hreach).trans (abs_nearest_le_two_pow hoffset)
  rw [distanceValue_eq]
  refine ⟨(hword.sub ((hasValue_centre hm ho).sub hasValue_half ?_) ?_).div (hasValue_reach hm)
    hpos.ne' ?_, abs_nearest_le_two_pow hquotient⟩
  · exact hshift.trans (by norm_num)
  · exact hoffset.trans (by norm_num)
  · exact hquotient.trans (by norm_num)

theorem tentValue_bounds (d : ℝ) : 0 ≤ tentValue d ∧ tentValue d ≤ 1 := by
  rw [tentValue]
  split
  next h =>
    have habs := abs_nonneg d
    exact ⟨nearest_nonneg (by linarith), nearest_le hasValue_one.nearest_eq (by linarith)⟩
  next => exact ⟨le_rfl, zero_le_one⟩

theorem hasValue_tent {x : Float32} {d : ℝ} (hx : HasValue x d) (h : |d| ≤ 2 ^ 127) :
    HasValue (tent x) (tentValue d) := by
  have habs : HasValue (if x < 0 then -x else x) |d| := by
    split
    next hneg =>
      rw [abs_of_neg ((hx.lt_iff hasValue_zero).1 hneg)]
      exact hx.neg h
    next hnonneg =>
      rw [abs_of_nonneg (not_lt.1 fun hneg => hnonneg ((hx.lt_iff hasValue_zero).2 hneg))]
      exact hx
  rw [tent, tentValue]
  generalize (if x < 0 then -x else x) = distance at habs ⊢
  split
  next hlt =>
    have hlt' := (habs.lt_iff hasValue_one).1 hlt
    have hnonneg := abs_nonneg d
    rw [if_pos hlt']
    refine hasValue_one.sub habs ?_
    rw [abs_of_nonneg (by linarith)]
    exact (by linarith : 1 - |d| ≤ 1).trans (by norm_num)
  next hle =>
    rw [if_neg fun hlt => hle ((habs.lt_iff hasValue_one).2 hlt)]
    exact hasValue_zero

/-- The weight of an old sample is that at its distance. -/
theorem hasValue_weight (hm : 0 < m.toNat) (ho : o < UInt32.size) (hi : i < UInt32.size) :
    HasValue (weight n m o i) (tentValue (distanceValue n.toNat m.toNat o i)) := by
  obtain ⟨hvalue, hle⟩ := hasValue_distance (n := n) hm ho hi
  exact hasValue_tent hvalue (hle.trans (by norm_num))

/-! ### Taps -/

theorem first_lt_stop (n m : UInt32) (o : ℕ) : first n m o < stop n m o := by
  rw [stop]
  omega

/-- New samples are made of samples that there are. -/
theorem stop_le (hn : 0 < n.toNat) : stop n m o ≤ n.toNat := by
  rw [stop, first]
  omega

theorem mem_weights {w : Float32} :
    w ∈ weights n m o ↔ ∃ i, first n m o ≤ i ∧ i < stop n m o ∧ weight n m o i = w := by
  have hlt := first_lt_stop n m o
  rw [weights, List.mem_map]
  refine exists_congr fun i => ?_
  rw [List.mem_range'_1, and_assoc]
  have hend : first n m o + (stop n m o - first n m o) = stop n m o := by omega
  rw [hend]

theorem weights_ne_nil (n m : UInt32) (o : ℕ) : weights n m o ≠ [] := by
  have hlt := first_lt_stop n m o
  rw [weights, ne_eq, List.map_eq_nil_iff, List.range'_eq_nil_iff]
  omega

/-- All weights are numbers between zero and one. -/
theorem between_of_mem_weights (hn : 0 < n.toNat) (hm : 0 < m.toNat) (ho : o < UInt32.size)
    {w : Float32} (hw : w ∈ weights n m o) : Between 0 1 w := by
  obtain ⟨i, -, hi, rfl⟩ := mem_weights.1 hw
  have hlt := n.toNat_lt_size
  have hle := stop_le (m := m) (o := o) hn
  exact ⟨_, hasValue_weight hm ho (by omega), tentValue_bounds _⟩

/-- Weights that add up to something are scaled to numbers between zero and one. -/
theorem between_of_mem_taps (hn : 0 < n.toNat) (hm : 0 < m.toNat) (ho : o < UInt32.size)
    (hsum : 0 < sum (weights n m o)) {w : Float32} (hw : w ∈ (taps n m o).weights) :
    Between 0 1 w := by
  obtain ⟨v, hv, rfl⟩ := List.mem_map.1 hw
  obtain ⟨s, hs, -, hle⟩ := exists_sum fun w hw => between_of_mem_weights hn hm ho hw
  obtain ⟨a, ha, hnonneg, -⟩ := between_of_mem_weights hn hm ho hv
  have hpos : 0 < s := (hasValue_zero.lt_iff hs).1 hsum
  have hquotient : 0 ≤ a / s := div_nonneg hnonneg hpos.le
  have hone : a / s ≤ 1 := div_le_one_of_le₀ (hle v hv a ha) hpos.le
  refine ⟨_, ha.div hs hpos.ne' ?_, nearest_nonneg hquotient,
    nearest_le hasValue_one.nearest_eq hone⟩
  rw [abs_of_nonneg hquotient]
  exact hone.trans (by norm_num)

/-- Weights that add up to nothing are all zero, and cannot be scaled. -/
theorem isNone_of_mem_taps (hn : 0 < n.toNat) (hm : 0 < m.toNat) (ho : o < UInt32.size)
    (hsum : ¬ 0 < sum (weights n m o)) {w : Float32} (hw : w ∈ (taps n m o).weights) :
    IsNone w := by
  obtain ⟨v, hv, rfl⟩ := List.mem_map.1 hw
  obtain ⟨s, hs, hnonneg, hle⟩ := exists_sum fun w hw => between_of_mem_weights hn hm ho hw
  obtain ⟨a, ha, ha', -⟩ := between_of_mem_weights hn hm ho hv
  have hzero : s = 0 := le_antisymm (not_lt.1 fun h => hsum ((hasValue_zero.lt_iff hs).2 h)) hnonneg
  have hzero' : a = 0 := le_antisymm ((hle v hv a ha).trans hzero.le) ha'
  rw [hzero] at hs
  rw [hzero'] at ha
  exact isNone_zero_div_zero ha hs

end

/-! ### Samples -/

theorem rel_zero {k : ℕ} : Sample.zero.Rel (Agree (2 ^ k)) .zero := by
  have hzero : Agree (2 ^ k) 0 0 := ⟨0, hasValue_zero, hasValue_zero, le_rfl, by positivity⟩
  exact ⟨hzero, hzero, hzero, hzero⟩

theorem rel_ofPixel (p : Pixel) : (Sample.ofPixel p).Rel (Agree (2 ^ 8)) (.ofPixel p) := by
  have hbyte (c : UInt8) : Agree (2 ^ 8) c.toFloat32 c.toFloat32 := by
    refine ⟨_, hasValue_byte c, hasValue_byte c, Nat.cast_nonneg _, ?_⟩
    exact_mod_cast c.toNat_lt.le
  exact ⟨hbyte _, hbyte _, hbyte _, hbyte _⟩

theorem length_taps (n m : UInt32) (o : ℕ) :
    (taps n m o).first + (taps n m o).weights.length = stop n m o := by
  have hlt := first_lt_stop n m o
  simp only [taps, weights, List.length_map, List.length_range']
  omega

/-- A mean of numbers is a number, if its weights add up to something, and depends on their values
only. -/
theorem rel_mean {n m : UInt32} {o k : ℕ} {f g : Nat → Sample} (hn : 0 < n.toNat)
    (hm : 0 < m.toNat) (ho : o < UInt32.size) (hk : k ≤ 100) (hsum : 0 < sum (weights n m o))
    (hfg : ∀ i, i < n.toNat → (f i).Rel (Agree (2 ^ k)) (g i)) :
    ((taps n m o).mean f).Rel (Agree (2 ^ (k + 25))) ((taps n m o).mean g) := by
  refine rel_addWeighted hk (fun w hw => between_of_mem_taps hn hm ho hsum hw) ?_ rel_zero
  intro j _ hj
  have hle := stop_le (m := m) (o := o) hn
  rw [length_taps] at hj
  exact hfg j (by omega)

/-- A mean is no number if its weights add up to nothing, or if there is a sample that is none. -/
theorem all_isNone_mean {n m : UInt32} {o : ℕ} {sample : Nat → Sample} (hn : 0 < n.toNat)
    (hm : 0 < m.toNat) (ho : o < UInt32.size)
    (h : ¬ 0 < sum (weights n m o) ∨ ∀ i, i < n.toNat → (sample i).All IsNone) :
    ((taps n m o).mean sample).All IsNone := by
  have hne : (taps n m o).weights ≠ [] := by
    rw [taps, ne_eq, List.map_eq_nil_iff]
    exact weights_ne_nil n m o
  refine Taps.all_isNone_mean hne (h.imp (fun hsum w hw => isNone_of_mem_taps hn hm ho hsum hw) ?_)
  intro hsample
  have hlt := first_lt_stop n m o
  have hle := stop_le (m := m) (o := o) hn
  exact hsample (first n m o) (by omega)

section

variable {im : Image} {width height : UInt32} {x y : ℕ}

theorem getElem?_columns (hx : x < im.width.toNat) (hy : y < height.toNat) :
    (columns im height)[y * im.width.toNat + x]? =
      some ((taps im.height height y).mean fun i => .ofPixel (im.pixelD x i)) := by
  have hlt : y * im.width.toNat + x < im.width.toNat * height.toNat := Image.index_lt hx hy
  simp [columns, hlt, hy, Image.mod_of_index hx, Image.div_of_index hx]

/-- The new sample in column `x` of row `y`. -/
def sampleAt (im : Image) (width height : UInt32) (x y : ℕ) : Sample :=
  (taps im.width width x).mean fun i =>
    (columns im height)[y * im.width.toNat + i]?.getD .zero

theorem getElem?_samples (hx : x < width.toNat) :
    (samples im width height)[x]? =
      some (Array.ofFn fun y : Fin height.toNat => sampleAt im width height x y) := by
  simp [samples, sampleAt, hx]

theorem all_ofFn {α : Type} {n : ℕ} {f : Fin n → α} {p : α → Bool} :
    (Array.ofFn f).all p = true ↔ ∀ i : Fin n, p (f i) = true := by
  rw [Array.all_eq_true_iff_forall_mem]
  simp [Array.mem_ofFn]

/-- All new samples are numbers if each of them is one. -/
theorem all_isNumber_samples :
    (samples im width height).all (Array.all · Sample.isNumber) = true ↔
      ∀ x < width.toNat, ∀ y < height.toNat, (sampleAt im width height x y).isNumber = true := by
  simp only [samples, all_ofFn, Fin.forall_iff, sampleAt]

/-- A new sample is a number exactly if the weights of its column add up to something, and those of
its row. -/
theorem isNumber_sampleAt (hwidth : 0 < im.width.toNat) (hheight : 0 < im.height.toNat)
    (hx : x < width.toNat) (hy : y < height.toNat) :
    (sampleAt im width height x y).isNumber = true ↔
      0 < sum (weights im.width width x) ∧ 0 < sum (weights im.height height y) := by
  have hx' : x < UInt32.size := hx.trans width.toNat_lt_size
  have hy' : y < UInt32.size := hy.trans height.toNat_lt_size
  have hwidth' : 0 < width.toNat := by omega
  have hheight' : 0 < height.toNat := by omega
  rw [Sample.isNumber_iff]
  constructor
  · intro hnumber
    by_contra hsum
    have hnone : (sampleAt im width height x y).All IsNone := by
      refine all_isNone_mean hwidth hwidth' hx' ((not_and_or.1 hsum).imp_right ?_)
      intro hrow i hi
      rw [getElem?_columns hi hy, Option.getD_some]
      exact all_isNone_mean hheight hheight' hy' (.inl hrow)
    exact hnumber.1 hnone.1
  · rintro ⟨hcolumn, hrow⟩
    have hagree : (sampleAt im width height x y).Rel (Agree (2 ^ (33 + 25)))
        (sampleAt im width height x y) := by
      refine rel_mean hwidth hwidth' hx' (by norm_num) hcolumn ?_
      intro i hi
      rw [getElem?_columns hi hy, Option.getD_some]
      exact rel_mean (k := 8) hheight hheight' hy' (by norm_num) hrow fun _ _ => rel_ofPixel _
    refine hagree.imp ?_
    rintro z _ ⟨a, ha, -⟩ hnone
    have hfalse := ha.isNaN_eq_false
    rw [isNaN_iff.2 hnone] at hfalse
    exact Bool.noConfusion hfalse

end

end Resample

end RemoteDisplay
