/-
**An axis that keeps its length.**

An image that is resized may keep its width or its height.  The axis is sampled all the same, but
each new sample lies in the middle of an old one, which has all the weight.  So nothing happens
along that axis, and the columns or the rows of an image are resized one by one: a part of the image
that has all of the other axis is resized like the whole.

Main results:

* `RemoteDisplay.Resample.rel_mean_self` — a new sample has the values of the old one in its place;
* `RemoteDisplay.Resample.toPixel_sampleAt_of_rows`,
  `RemoteDisplay.Resample.toPixel_sampleAt_of_columns` — rows and columns are resized one by one;
* `RemoteDisplay.Image.pixel?_resize_crop_rows`, `RemoteDisplay.Image.pixel?_resize_crop_columns` —
  **resizing some of the rows or columns**.
-/
import RemoteDisplay.Proofs.Raster.Covering
import RemoteDisplay.Proofs.Raster.Locality

set_option relaxedAutoImplicit false
set_option autoImplicit false

namespace RemoteDisplay

namespace Single

open Binary

/-! ### Sums of two -/

/-- A number without weight does not change a sum. -/
theorem Agree.add_unweighted {x y z w : Float32} {k : ℕ} (hk : k ≤ 100) (hx : Agree (2 ^ k) x z)
    (hy : Agree (2 ^ k) y y) (hw : HasValue w 0) : Agree (2 ^ k) (x + y * w) z := by
  obtain ⟨a, hx, hz, ha, ha'⟩ := hx
  obtain ⟨b, hy, -, -, -⟩ := hy
  have hproduct := hy.mul hw (by rw [mul_zero, abs_zero]; positivity)
  rw [mul_zero, nearest_zero] at hproduct
  have hsum := hx.add hproduct (by rw [add_zero]; exact abs_le_two_pow (by omega) ha ha')
  rw [add_zero, hx.nearest_eq] at hsum
  exact ⟨a, hsum, hz, ha, ha'⟩

/-- A number with all the weight is the sum. -/
theorem Agree.add_weighted {x y w : Float32} {k : ℕ} (hk : k ≤ 100) (hx : Agree (2 ^ k) x 0)
    (hy : Agree (2 ^ k) y y) (hw : HasValue w 1) : Agree (2 ^ k) (x + y * w) y := by
  obtain ⟨a, hx, hzero, -, -⟩ := hx
  obtain rfl := hzero.unique hasValue_zero
  obtain ⟨b, hy, -, hb, hb'⟩ := hy
  have hle := abs_le_two_pow (k := k) (by omega) hb hb'
  have hproduct := hy.mul hw (by rwa [mul_one])
  rw [mul_one, hy.nearest_eq] at hproduct
  have hsum := hx.add hproduct (by rwa [zero_add])
  rw [zero_add, hy.nearest_eq] at hsum
  exact ⟨b, hsum, hy, hb, hb'⟩

end Single

namespace Resample

open Single Binary

/-! ### Weights -/

section

variable {n o i : ℕ}

theorem ratioValue_self (hn : 0 < n) : ratioValue n n = 1 := by
  have hone := one_le_nearest hn
  rw [ratioValue, div_self (by linarith), hasValue_one.nearest_eq]

theorem reachValue_self (hn : 0 < n) : reachValue n n = 1 := by
  rw [reachValue, ratioValue_self hn, max_self]

/-- The place of a new sample is the middle of an old one. -/
theorem centreValue_self (hn : n ≤ 2 ^ 21) (ho : o < n) : centreValue n n o = o + 1 / 2 := by
  have hmiddle := nearest_middle (o := o) (by omega)
  have hself : nearest .binary32 ((o : ℝ) + 1 / 2) = o + 1 / 2 := by
    rwa [nearest_natCast (by omega)] at hmiddle
  rw [centreValue_eq, ratioValue_self (by omega), mul_one, hmiddle, hself]

theorem distanceValue_self (hn : n ≤ 2 ^ 21) (ho : o < n) (hi : i < n) :
    distanceValue n n o i = i - o := by
  have hoffset : nearest .binary32 ((i : ℝ) - o) = i - o := by
    have h := nearest_intCast (f := .binary32) (n := (i : ℤ) - o)
      (by rw [mantissaBits_binary32, abs_lt]; omega)
    exact_mod_cast h
  rw [distanceValue_eq, centreValue_self hn ho, reachValue_self (by omega), add_sub_cancel_right,
    nearest_natCast (by omega), nearest_natCast (by omega), div_one, hoffset, hoffset]

/-- An old sample has all the weight in its own place, and none in any other. -/
theorem tentValue_sub (i o : ℕ) : tentValue (i - o) = if i = o then 1 else 0 := by
  rcases eq_or_ne i o with rfl | hdiffer
  · simp [tentValue, hasValue_one.nearest_eq]
  · have hone : 1 ≤ |(i : ℤ) - o| := Int.one_le_abs (by omega)
    have hone' : (1 : ℝ) ≤ |(i : ℝ) - o| := mod_cast hone
    rw [tentValue, if_neg (not_lt.2 hone'), if_neg hdiffer]

/-- What has been added up of something that there is only in one place. -/
theorem passed_add (c : ℝ) (o i : ℕ) :
    (if o < i then c else 0) + (if i = o then c else 0) = if o < i + 1 then c else 0 := by
  rcases lt_trichotomy o i with hlt | rfl | hgt
  · rw [if_pos hlt, if_neg (by omega), if_pos (by omega), add_zero]
  · rw [if_neg (lt_irrefl o), if_pos rfl, if_pos (by omega), zero_add]
  · rw [if_neg (by omega), if_neg (by omega), if_neg (by omega), add_zero]

end

section

variable {n : UInt32} {o i len : ℕ}

theorem hasValue_weight_self (hn : n.toNat ≤ 2 ^ 21) (ho : o < n.toNat) (hi : i < n.toNat) :
    HasValue (weight n n o i) (if i = o then 1 else 0) := by
  have hlt := n.toNat_lt_size
  have h := hasValue_weight (n := n) (m := n) (o := o) (i := i) (by omega) (by omega) (by omega)
  rwa [distanceValue_self hn ho hi, tentValue_sub] at h

/-- The weights add up to one when the place of the new sample has been passed. -/
theorem hasValue_foldl_weight {x : Float32} (hn : n.toNat ≤ 2 ^ 21) (ho : o < n.toNat)
    (hi : i + len ≤ n.toNat) (hx : HasValue x (if o < i then 1 else 0)) :
    HasValue (((List.range' i len).map (weight n n o)).foldl (· + ·) x)
      (if o < i + len then 1 else 0) := by
  induction len generalizing i x with
  | zero => simpa using hx
  | succ len ih =>
    have hw := hasValue_weight_self hn ho (i := i) (by omega)
    have hstep : HasValue (x + weight n n o i) (if o < i + 1 then 1 else 0) := by
      have hsum := hx.add hw (by rw [passed_add]; split <;> norm_num)
      rw [passed_add] at hsum
      split at hsum
      next hpassed =>
        rw [if_pos hpassed]
        rwa [hasValue_one.nearest_eq] at hsum
      next hahead =>
        rw [if_neg hahead]
        rwa [nearest_zero] at hsum
    rw [List.range'_succ, List.map_cons, List.foldl_cons]
    have h := ih (by omega) hstep
    rwa [Nat.add_right_comm] at h

/-- The place of a new sample is among the old ones that it is made of. -/
theorem first_le_and_lt_stop_self (hn : n.toNat ≤ 2 ^ 21) (ho : o < n.toNat) :
    first n n o ≤ o ∧ o < stop n n o := by
  have h := first_le_and_lt_stop (n := n) (by omega) hn ho
  have hfloor : ⌊(o : ℝ) + 1 / 2⌋₊ = o := by
    rw [Nat.floor_eq_iff (by positivity)]
    constructor <;> linarith
  rwa [centreValue_self hn ho, hfloor] at h

theorem hasValue_sum_weights_self (hn : n.toNat ≤ 2 ^ 21) (ho : o < n.toNat) :
    HasValue (sum (weights n n o)) 1 := by
  obtain ⟨hfirst, hstop⟩ := first_le_and_lt_stop_self hn ho
  have hle := stop_le (n := n) (m := n) (o := o) (by omega)
  have hend : first n n o + (stop n n o - first n n o) = stop n n o := by omega
  have h := hasValue_foldl_weight (x := 0) hn ho (hend.le.trans hle)
    (by rw [if_neg (by omega)]; exact hasValue_zero)
  rwa [hend, if_pos hstop] at h

/-- Scaled to add up to one, the weights are what they were. -/
theorem hasValue_weight_div_sum (hn : n.toNat ≤ 2 ^ 21) (ho : o < n.toNat) (hi : i < n.toNat) :
    HasValue (weight n n o i / sum (weights n n o)) (if i = o then 1 else 0) := by
  have hw := hasValue_weight_self hn ho hi
  have h := hw.div (hasValue_sum_weights_self hn ho) one_ne_zero
    (by rw [div_one]; split <;> norm_num)
  rwa [div_one, hw.nearest_eq] at h

/-! ### Samples -/

namespace Sample

variable {s t z : Sample} {w : Float32} {k : ℕ}

theorem Rel.add_unweighted (hk : k ≤ 100) (hs : s.Rel (Agree (2 ^ k)) z)
    (ht : t.Rel (Agree (2 ^ k)) t) (hw : HasValue w 0) :
    (s.addScaled t w).Rel (Agree (2 ^ k)) z :=
  ⟨hs.1.add_unweighted hk ht.1 hw, hs.2.1.add_unweighted hk ht.2.1 hw,
    hs.2.2.1.add_unweighted hk ht.2.2.1 hw, hs.2.2.2.add_unweighted hk ht.2.2.2 hw⟩

theorem Rel.add_weighted (hk : k ≤ 100) (hs : s.Rel (Agree (2 ^ k)) .zero)
    (ht : t.Rel (Agree (2 ^ k)) t) (hw : HasValue w 1) :
    (s.addScaled t w).Rel (Agree (2 ^ k)) t :=
  ⟨hs.1.add_weighted hk ht.1 hw, hs.2.1.add_weighted hk ht.2.1 hw,
    hs.2.2.1.add_weighted hk ht.2.2.1 hw, hs.2.2.2.add_weighted hk ht.2.2.2 hw⟩

end Sample

/-- A weighted sum is the sample in one place, when that has been passed. -/
theorem rel_addWeighted_self {w : ℕ → Float32} {sample : ℕ → Sample} {s : Sample} {k : ℕ}
    (hk : k ≤ 100)
    (hw : ∀ j, i ≤ j → j < i + len → HasValue (w j) (if j = o then 1 else 0))
    (hsample : ∀ j, i ≤ j → j < i + len → (sample j).Rel (Agree (2 ^ k)) (sample j))
    (hs : s.Rel (Agree (2 ^ k)) (if o < i then sample o else .zero)) :
    (addWeighted sample ((List.range' i len).map w) i s).Rel (Agree (2 ^ k))
      (if o < i + len then sample o else .zero) := by
  induction len generalizing i s with
  | zero => simpa [addWeighted] using hs
  | succ len ih =>
    have hstep : (s.addScaled (sample i) (w i)).Rel (Agree (2 ^ k))
        (if o < i + 1 then sample o else .zero) := by
      have hi := hsample i le_rfl (by omega)
      have hwi := hw i le_rfl (by omega)
      rcases eq_or_ne i o with rfl | hdiffer
      · rw [if_neg (lt_irrefl i)] at hs
        rw [if_pos rfl] at hwi
        rw [if_pos (Nat.lt_succ_self i)]
        exact hs.add_weighted hk hi hwi
      · have hpassed : o < i + 1 ↔ o < i := by omega
        rw [if_neg hdiffer] at hwi
        simp only [hpassed]
        exact hs.add_unweighted hk hi hwi
    rw [List.range'_succ, List.map_cons, addWeighted]
    have h := ih (fun j hj hj' => hw j (by omega) (by omega))
      (fun j hj hj' => hsample j (by omega) (by omega)) hstep
    rwa [Nat.add_right_comm] at h

/-- **A new sample has the values of the old one in its place.** -/
theorem rel_mean_self {sample : ℕ → Sample} {k : ℕ} (hk : k ≤ 100) (hn : n.toNat ≤ 2 ^ 21)
    (ho : o < n.toNat)
    (hsample : ∀ i, i < n.toNat → (sample i).Rel (Agree (2 ^ k)) (sample i)) :
    ((taps n n o).mean sample).Rel (Agree (2 ^ k)) (sample o) := by
  obtain ⟨hfirst, hstop⟩ := first_le_and_lt_stop_self hn ho
  have hle := stop_le (n := n) (m := n) (o := o) (by omega)
  have hend : first n n o + (stop n n o - first n n o) = stop n n o := by omega
  have hweights : ∀ j, first n n o ≤ j → j < first n n o + (stop n n o - first n n o) →
      HasValue (weight n n o j / sum (weights n n o)) (if j = o then 1 else 0) :=
    fun j _ hj => hasValue_weight_div_sum hn ho (by omega)
  have h := rel_addWeighted_self hk hweights (fun j _ hj => hsample j (by omega)) (s := .zero)
    (by rw [if_neg (by omega)]; exact rel_zero)
  rw [hend, if_pos hstop] at h
  rw [Taps.mean, taps, weights, List.map_map]
  exact h

end

/-! ### Pixels -/

/-- Numbers of the same value are rounded to the same byte. -/
theorem toByte_of_agree {x y : Float32} {bound : ℝ} (h : Agree bound x y) :
    toByte x = toByte y := by
  obtain ⟨a, hx, hy, ha, -⟩ := h
  have hlarge : 255 < x ↔ 255 < y := (hasValue_255.lt_iff hx).trans (hasValue_255.lt_iff hy).symm
  have hneg : x < 0 ↔ y < 0 := (hx.lt_iff hasValue_zero).trans (hy.lt_iff hasValue_zero).symm
  unfold toByte
  simp only [hlarge, hneg]
  split
  · rfl
  next hle =>
    have hle' : a ≤ 255 := not_lt.1 fun hlt => hle ((hasValue_255.lt_iff hy).2 hlt)
    have hwhole : x.toUInt8 = y.toUInt8 := by
      rw [← UInt8.toNat_inj, hx.toNat_toUInt8 (by linarith) (by linarith),
        hy.toNat_toUInt8 (by linarith) (by linarith)]
    have hbyte := hasValue_byte y.toUInt8
    have hrest : |a - y.toUInt8.toNat| ≤ 2 ^ 127 := by
      have hlt : (y.toUInt8.toNat : ℝ) < 256 := mod_cast y.toUInt8.toNat_lt
      have hnonneg : (0 : ℝ) ≤ y.toUInt8.toNat := Nat.cast_nonneg _
      exact abs_le.2 ⟨by linarith, by linarith⟩
    have hhalf : x - y.toUInt8.toFloat32 < 0.5 ↔ y - y.toUInt8.toFloat32 < 0.5 :=
      ((hx.sub hbyte hrest).lt_iff hasValue_half).trans
        ((hy.sub hbyte hrest).lt_iff hasValue_half).symm
    simp only [hwhole, hhalf]

/-- Whatever is no number is the same. -/
theorem toByte_of_isNone {x y : Float32} (hx : IsNone x) (hy : IsNone y) : toByte x = toByte y := by
  rw [eq_of_unpack_eq (hx.trans hy.symm)]

namespace Sample

variable {s t : Sample}

theorem Rel.toPixel_eq {bound : ℝ} (h : s.Rel (Agree bound) t) : s.toPixel = t.toPixel := by
  rw [toPixel, toPixel, toByte_of_agree h.1, toByte_of_agree h.2.1, toByte_of_agree h.2.2.1,
    toByte_of_agree h.2.2.2]

theorem All.toPixel_eq (hs : s.All IsNone) (ht : t.All IsNone) : s.toPixel = t.toPixel := by
  rw [toPixel, toPixel, toByte_of_isNone hs.1 ht.1, toByte_of_isNone hs.2.1 ht.2.1,
    toByte_of_isNone hs.2.2.1 ht.2.2.1, toByte_of_isNone hs.2.2.2 ht.2.2.2]

end Sample

section

variable {im : Image} {width height : UInt32} {x y : ℕ}

/-- **The rows of an image that keeps its height are resized one by one.** -/
theorem toPixel_sampleAt_of_rows (hheight : im.height.toNat ≤ 2 ^ 21) (hwidth : 0 < im.width.toNat)
    (hx : x < width.toNat) (hy : y < im.height.toNat) :
    (sampleAt im width im.height x y).toPixel =
      ((taps im.width width x).mean fun i => .ofPixel (im.pixelD i y)).toPixel := by
  have hm : 0 < width.toNat := by omega
  have hx' : x < UInt32.size := hx.trans width.toNat_lt_size
  by_cases hsum : 0 < sum (weights im.width width x)
  · refine (rel_mean (k := 8) hwidth hm hx' (by norm_num) hsum ?_).toPixel_eq
    intro i hi
    rw [getElem?_columns hi hy, Option.getD_some]
    exact rel_mean_self (by norm_num) hheight hy fun _ _ => rel_ofPixel _
  · exact (all_isNone_mean hwidth hm hx' (.inl hsum)).toPixel_eq
      (all_isNone_mean hwidth hm hx' (.inl hsum))

/-- **The columns of an image that keeps its width are resized one by one.** -/
theorem toPixel_sampleAt_of_columns (hwidth : im.width.toNat ≤ 2 ^ 21)
    (hheight : 0 < im.height.toNat) (hx : x < im.width.toNat) (hy : y < height.toNat) :
    (sampleAt im im.width height x y).toPixel =
      ((taps im.height height y).mean fun i => .ofPixel (im.pixelD x i)).toPixel := by
  have hm : 0 < height.toNat := by omega
  have hn : 0 < im.width.toNat := by omega
  have hx' : x < UInt32.size := hx.trans im.width.toNat_lt_size
  have hy' : y < UInt32.size := hy.trans height.toNat_lt_size
  have hcolumn (i : ℕ) (hi : i < im.width.toNat) :
      (columns im height)[y * im.width.toNat + i]?.getD .zero =
        (taps im.height height y).mean fun j => .ofPixel (im.pixelD i j) := by
    rw [getElem?_columns hi hy, Option.getD_some]
  by_cases hsum : 0 < sum (weights im.height height y)
  · have hagree (i : ℕ) (hi : i < im.width.toNat) :
        ((columns im height)[y * im.width.toNat + i]?.getD .zero).Rel (Agree (2 ^ 33))
          ((columns im height)[y * im.width.toNat + i]?.getD .zero) := by
      rw [hcolumn i hi]
      exact rel_mean (k := 8) hheight hm hy' (by norm_num) hsum fun _ _ => rel_ofPixel _
    have hself := rel_mean_self (by norm_num) hwidth hx hagree
    rw [sampleAt, hself.toPixel_eq, hcolumn x hx]
  · refine Sample.All.toPixel_eq (all_isNone_mean hn hn hx' (.inr ?_))
      (all_isNone_mean hheight hm hy' (.inl hsum))
    intro i hi
    rw [hcolumn i hi]
    exact all_isNone_mean hheight hm hy' (.inl hsum)

end

end Resample

namespace Image

open Resample

variable {im : Image} {width height : UInt32} {x y : ℕ}

/-! ### Images -/

theorem pixel?_resize (hdiffers : ¬(im.width = width ∧ im.height = height)) (hx : x < width.toNat)
    (hy : y < height.toNat) :
    (im.resize width height).pixel? x y = some (sampleAt im width height x y).toPixel := by
  rw [resize, if_neg hdiffers, ofSamples, pixel?_ofFn, if_pos ⟨hx, hy⟩, getElem?_samples hx]
  simp [hy]

theorem pixelD_crop_rows (hheight : height.toNat ≤ im.height.toNat) (hy : y < height.toNat)
    (x : ℕ) : (im.crop 0 0 im.width height).pixelD x y = im.pixelD x y := by
  rw [pixelD, pixelD, pixel?_crop_corner le_rfl hheight]
  split
  · rfl
  · rw [(pixel?_eq_none_iff im x y).2 (by omega)]

theorem pixelD_crop_columns (hwidth : width.toNat ≤ im.width.toNat) (hx : x < width.toNat)
    (y : ℕ) : (im.crop 0 0 width im.height).pixelD x y = im.pixelD x y := by
  rw [pixelD, pixelD, pixel?_crop_corner hwidth le_rfl]
  split
  · rfl
  · rw [(pixel?_eq_none_iff im x y).2 (by omega)]

/-- **Some rows of an image that keeps its height** are resized like all of them. -/
theorem pixel?_resize_crop_rows (hshort : im.height.toNat ≤ 2 ^ 21) (hwidth : 0 < im.width.toNat)
    (hdiffers : im.width ≠ width) (hheight : height.toNat ≤ im.height.toNat)
    (hx : x < width.toNat) (hy : y < height.toNat) :
    ((im.crop 0 0 im.width height).resize width height).pixel? x y =
      (im.resize width im.height).pixel? x y := by
  have hpart : ((im.crop 0 0 im.width height).resize width height).pixel? x y = some _ :=
    pixel?_resize (fun h => hdiffers h.1) hx hy
  have hrow := toPixel_sampleAt_of_rows hshort hwidth hx (hy.trans_le hheight)
  have hrow' : (sampleAt (im.crop 0 0 im.width height) width height x y).toPixel = _ :=
    toPixel_sampleAt_of_rows (hheight.trans hshort) hwidth hx hy
  simp only [pixelD_crop_rows hheight hy] at hrow'
  rw [hpart, pixel?_resize (fun h => hdiffers h.1) hx (hy.trans_le hheight), hrow, hrow']
  rfl

/-- **Some columns of an image that keeps its width** are resized like all of them. -/
theorem pixel?_resize_crop_columns (hshort : im.width.toNat ≤ 2 ^ 21)
    (hheight : 0 < im.height.toNat) (hdiffers : im.height ≠ height)
    (hwidth : width.toNat ≤ im.width.toNat) (hx : x < width.toNat) (hy : y < height.toNat) :
    ((im.crop 0 0 width im.height).resize width height).pixel? x y =
      (im.resize im.width height).pixel? x y := by
  have hpart : ((im.crop 0 0 width im.height).resize width height).pixel? x y = some _ :=
    pixel?_resize (fun h => hdiffers h.2) hx hy
  have hcolumn := toPixel_sampleAt_of_columns hshort hheight (hx.trans_le hwidth) hy
  have hcolumn' : (sampleAt (im.crop 0 0 width im.height) width height x y).toPixel = _ :=
    toPixel_sampleAt_of_columns (hwidth.trans hshort) hheight hx hy
  simp only [pixelD_crop_columns hwidth hx] at hcolumn'
  rw [hpart, pixel?_resize (fun h => hdiffers h.2) (hx.trans_le hwidth) hy, hcolumn, hcolumn']
  rfl

end Image

end RemoteDisplay
