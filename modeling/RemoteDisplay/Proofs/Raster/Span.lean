/-
**What is visible of a rectangle, and which source pixels lie under it.**

A rectangle that can be seen at all begins on the canvas, so its visible part begins where it does
and ends where it does or where the canvas does.  None of the words that the source pixels are
computed from is ever too large, so the rounding is that of whole numbers: down at the beginning and
up at the end.

Main definitions:

* `RemoteDisplay.Rect.Clipped` — a rectangle cut off at the edges of a canvas;
* `RemoteDisplay.Span.Covers` — a run of source pixels covers a span, and is no longer than it must.

Main results:

* `RemoteDisplay.Rect.clipped_of_clip`, `RemoteDisplay.Rect.not_contains_of_clip_eq_none` — what is
  visible of a rectangle;
* `RemoteDisplay.covers_sourceSpan`, `RemoteDisplay.Span.Covers.unique` — the source pixels under a
  span are the only run that covers it;
* `RemoteDisplay.sourceSpan_full`, `RemoteDisplay.sourceSpan_unscaled` — the whole axis lies under
  the whole rectangle, and each pixel under its own if nothing is scaled.
-/
import RemoteDisplay.Raster.Span

set_option relaxedAutoImplicit false
set_option autoImplicit false

namespace RemoteDisplay

theorem toNat_min (a b : UInt32) : (min a b).toNat = min a.toNat b.toNat := by
  rw [show min a b = if a ≤ b then a else b from rfl, Nat.min_def]
  simp only [UInt32.le_iff_toNat_le]
  split <;> rfl

/-! ### The visible part of a rectangle -/

namespace Rect

variable {r visible : Rect} {width height : UInt32} {x y : Nat}

/-- A rectangle covers no pixel if bounds meet or are in the wrong order. -/
theorem isEmpty_iff :
    r.isEmpty = true ↔ r.right.toNat ≤ r.left.toNat ∨ r.bottom.toNat ≤ r.top.toNat := by
  have hw := r.toNat_width
  have hh := r.toNat_height
  simp only [isEmpty, Bool.or_eq_true, beq_iff_eq, ← UInt32.toNat_inj, UInt32.toNat_zero]
  omega

/-- The part of a rectangle that lies on a canvas: it begins where the rectangle does, ends at the
edge of the canvas at the latest, and covers a pixel. -/
structure Clipped (r : Rect) (width height : UInt32) (visible : Rect) : Prop where
  left : visible.left = r.left
  top : visible.top = r.top
  right : visible.right.toNat = min r.right.toNat width.toNat
  bottom : visible.bottom.toNat = min r.bottom.toNat height.toNat
  left_lt : visible.left.toNat < visible.right.toNat
  top_lt : visible.top.toNat < visible.bottom.toNat

theorem Clipped.contains (h : r.Clipped width height visible) (hvisible : visible.Contains x y) :
    r.Contains x y := by
  have hleft := congrArg UInt32.toNat h.left
  have htop := congrArg UInt32.toNat h.top
  have hright := h.right
  have hbottom := h.bottom
  simp only [Contains] at hvisible ⊢
  omega

theorem Clipped.width_eq (h : r.Clipped width height visible) :
    visible.right - r.left = visible.width := by
  rw [Rect.width, if_pos, h.left]
  rw [UInt32.le_iff_toNat_le]
  exact Nat.le_of_lt h.left_lt

theorem Clipped.height_eq (h : r.Clipped width height visible) :
    visible.bottom - r.top = visible.height := by
  rw [Rect.height, if_pos, h.top]
  rw [UInt32.le_iff_toNat_le]
  exact Nat.le_of_lt h.top_lt

theorem Clipped.not_isEmpty (h : r.Clipped width height visible) : r.isEmpty = false := by
  have hleft := h.left_lt
  have htop := h.top_lt
  rw [h.left, h.right] at hleft
  rw [h.top, h.bottom] at htop
  rw [Bool.eq_false_iff, ne_eq, isEmpty_iff]
  omega

theorem Clipped.toNat_width (h : r.Clipped width height visible) :
    0 < visible.width.toNat ∧ visible.width.toNat ≤ r.width.toNat := by
  have hlt := h.left_lt
  rw [Rect.toNat_width, Rect.toNat_width, h.right, h.left] at *
  omega

theorem Clipped.toNat_height (h : r.Clipped width height visible) :
    0 < visible.height.toNat ∧ visible.height.toNat ≤ r.height.toNat := by
  have hlt := h.top_lt
  rw [Rect.toNat_height, Rect.toNat_height, h.bottom, h.top] at *
  omega

/-- What is visible of a rectangle is the part of it that lies on the canvas. -/
theorem clipped_of_clip (h : r.clip width height = some visible) :
    Clipped r width height visible := by
  unfold clip at h
  dsimp only at h
  split at h
  · cases h
  next hvisible =>
    cases h
    rw [isEmpty_iff] at hvisible
    simp only [toNat_min] at hvisible
    refine ⟨?_, ?_, toNat_min _ _, toNat_min _ _, ?_, ?_⟩
    · rw [← UInt32.toNat_inj, toNat_min]
      omega
    · rw [← UInt32.toNat_inj, toNat_min]
      omega
    · simp only [toNat_min]
      omega
    · simp only [toNat_min]
      omega

/-- A rectangle of which nothing is visible contains no pixel of the canvas. -/
theorem not_contains_of_clip_eq_none (h : r.clip width height = none) (hx : x < width.toNat)
    (hy : y < height.toNat) : ¬ r.Contains x y := by
  unfold clip at h
  dsimp only at h
  split at h
  next hvisible =>
    rw [isEmpty_iff] at hvisible
    simp only [toNat_min] at hvisible
    simp only [Contains]
    omega
  · cases h

end Rect

/-! ### The source pixels under a span -/

/-- A quotient that is rounded up is the least whole number that is large enough. -/
theorem ceilDiv_bounds (a : UInt64) {b : UInt64} (hb : 0 < b.toNat) :
    a.toNat ≤ (ceilDiv a b).toNat * b.toNat ∧
      (ceilDiv a b).toNat * b.toNat < a.toNat + b.toNat := by
  have ha := Nat.div_add_mod a.toNat b.toNat
  have hmod := Nat.mod_lt a.toNat hb
  rw [Nat.mul_comm] at ha
  unfold ceilDiv
  split
  next hzero =>
    rw [← UInt64.toNat_inj, UInt64.toNat_mod, UInt64.toNat_zero] at hzero
    rw [UInt64.toNat_div]
    omega
  next hpos =>
    rw [← UInt64.toNat_inj, UInt64.toNat_mod, UInt64.toNat_zero] at hpos
    -- there is a remainder, so the divisor is at least two and one more is no overflow
    have hhalf : a.toNat / b.toNat ≤ a.toNat / 2 := Nat.div_le_div_left (by omega) (by omega)
    have hlt := a.toNat_lt
    have hfits : a.toNat / b.toNat + 1 < 2 ^ 64 := by omega
    rw [UInt64.toNat_add, UInt64.toNat_div, UInt64.toNat_one, Nat.mod_eq_of_lt hfits, Nat.succ_mul]
    omega

/-- A word between two bounds is held where it is. -/
theorem clampWord_of_le {lo hi x : UInt64} (hlo : lo.toNat ≤ x.toNat) (hhi : x.toNat ≤ hi.toNat) :
    clampWord lo hi x = x := by
  simp only [clampWord, UInt64.lt_iff_toNat_lt]
  rw [if_neg (by omega), if_neg (by omega)]

/-- The product of two 32-bit words is a 64-bit word. -/
theorem toNat_mul_toUInt64 (a b : UInt32) :
    (a.toUInt64 * b.toUInt64).toNat = a.toNat * b.toNat := by
  have hlt : a.toNat * b.toNat < 2 ^ 32 * 2 ^ 32 := Nat.mul_lt_mul'' a.toNat_lt b.toNat_lt
  rw [UInt64.toNat_mul, UInt32.toNat_toUInt64, UInt32.toNat_toUInt64]
  omega

theorem toNat_min64 (a b : UInt64) : (min a b).toNat = min a.toNat b.toNat := by
  rw [show min a b = if a ≤ b then a else b from rfl, Nat.min_def]
  simp only [UInt64.le_iff_toNat_le]
  split <;> rfl

theorem toNat_toUInt64_sub_one {a : UInt32} (h : 0 < a.toNat) :
    (a.toUInt64 - 1).toNat = a.toNat - 1 := by
  rw [UInt64.toNat_sub_of_le _ _ (by simp [UInt64.le_iff_toNat_le]; omega)]
  simp

section Span

variable {start stop dest source : UInt32}

/-- Two quotients of which neither is larger than the source, and the first is the smaller one, are
held where they are. -/
theorem held_of_lt {first last : UInt64} (hlt : first.toNat < last.toNat)
    (hle : last.toNat ≤ source.toNat) :
    min first (source.toUInt64 - 1) = first ∧
      clampWord (first + 1) source.toUInt64 last = last := by
  have hsource := source.toNat_lt
  constructor
  · rw [← UInt64.toNat_inj, toNat_min64, toNat_toUInt64_sub_one (by omega)]
    omega
  · refine clampWord_of_le ?_ ?_
    · rw [UInt64.toNat_add, UInt64.toNat_one]
      omega
    · rw [UInt32.toNat_toUInt64]
      omega

/-- Such quotients are the ends of the source pixels. -/
theorem sourceSpan_eq {first last : UInt64}
    (hfirst : first = start.toUInt64 * source.toUInt64 / dest.toUInt64)
    (hlast : last = ceilDiv (stop.toUInt64 * source.toUInt64) dest.toUInt64)
    (hlt : first.toNat < last.toNat) (hle : last.toNat ≤ source.toNat) :
    (sourceSpan start stop dest source).offset.toNat = first.toNat ∧
      (sourceSpan start stop dest source).length.toNat = last.toNat - first.toNat := by
  have hsource := source.toNat_lt
  obtain ⟨hmin, hclamp⟩ := held_of_lt hlt hle
  have hspan : sourceSpan start stop dest source = ⟨first.toUInt32, (last - first).toUInt32⟩ := by
    simp only [sourceSpan, ← hfirst, ← hlast, hmin, hclamp]
  rw [hspan]
  simp only [UInt64.toNat_toUInt32]
  rw [UInt64.toNat_sub_of_le _ _ (by rw [UInt64.le_iff_toNat_le]; omega)]
  omega

/-- A run of pixels of an axis covers the span from `start` up to `stop` of the `dest` parts that
the axis is shown at: it begins with the last pixel that does not begin after the span, and ends
with the first one that does not end before it. -/
structure Span.Covers (start stop dest source : UInt32) (span : Span) : Prop where
  first_le : span.offset.toNat * dest.toNat ≤ start.toNat * source.toNat
  lt_first : start.toNat * source.toNat < span.offset.toNat * dest.toNat + dest.toNat
  le_last : stop.toNat * source.toNat ≤ (span.offset.toNat + span.length.toNat) * dest.toNat
  last_lt : (span.offset.toNat + span.length.toNat) * dest.toNat <
    stop.toNat * source.toNat + dest.toNat

/-- Of two multiples of which neither is larger than the other by a whole step, none is larger. -/
theorem le_of_mul_lt_add {a b d : Nat} (h : a * d < b * d + d) : a ≤ b := by
  rw [← Nat.succ_mul] at h
  exact Nat.lt_succ_iff.1 (Nat.lt_of_mul_lt_mul_right h)

/-- Only one run of pixels covers a span. -/
theorem Span.Covers.unique {span span' : Span} (h : span.Covers start stop dest source)
    (h' : span'.Covers start stop dest source) : span = span' := by
  have hfirst : span.offset.toNat = span'.offset.toNat :=
    Nat.le_antisymm (le_of_mul_lt_add (Nat.lt_of_le_of_lt h.first_le h'.lt_first))
      (le_of_mul_lt_add (Nat.lt_of_le_of_lt h'.first_le h.lt_first))
  have hlast : span.offset.toNat + span.length.toNat =
      span'.offset.toNat + span'.length.toNat :=
    Nat.le_antisymm
      (le_of_mul_lt_add (Nat.lt_of_lt_of_le h.last_lt (Nat.add_le_add_right h'.le_last _)))
      (le_of_mul_lt_add (Nat.lt_of_lt_of_le h'.last_lt (Nat.add_le_add_right h.le_last _)))
  have hlength : span.length.toNat = span'.length.toNat := by omega
  cases span
  cases span'
  simp only [Span.mk.injEq, ← UInt32.toNat_inj]
  exact ⟨hfirst, hlength⟩

/-- Where a span is not empty and lies in the rectangle, its beginning times the source over the
rectangle, rounded down, is less than its end times the source over the rectangle, rounded up, and
neither is larger than the source. -/
theorem quotients_bounds {first last : UInt64}
    (hfirst : first = start.toUInt64 * source.toUInt64 / dest.toUInt64)
    (hlast : last = ceilDiv (stop.toUInt64 * source.toUInt64) dest.toUInt64)
    (hstart : start.toNat < stop.toNat) (hstop : stop.toNat ≤ dest.toNat)
    (hsource : 0 < source.toNat) :
    (first.toNat * dest.toNat ≤ start.toNat * source.toNat ∧
        start.toNat * source.toNat < first.toNat * dest.toNat + dest.toNat) ∧
      (stop.toNat * source.toNat ≤ last.toNat * dest.toNat ∧
        last.toNat * dest.toNat < stop.toNat * source.toNat + dest.toNat) ∧
      first.toNat < last.toNat ∧ last.toNat ≤ source.toNat := by
  have hdest : 0 < dest.toNat := by omega
  have hfloor : first.toNat = start.toNat * source.toNat / dest.toNat := by
    rw [hfirst, UInt64.toNat_div, toNat_mul_toUInt64, UInt32.toNat_toUInt64]
  have hfirst_le : first.toNat * dest.toNat ≤ start.toNat * source.toNat := by
    rw [hfloor]
    exact Nat.div_mul_le_self _ _
  have hlt_first : start.toNat * source.toNat < first.toNat * dest.toNat + dest.toNat := by
    rw [hfloor]
    exact Nat.lt_div_mul_add hdest
  have hceil := ceilDiv_bounds (stop.toUInt64 * source.toUInt64) (b := dest.toUInt64)
    (by rwa [UInt32.toNat_toUInt64])
  rw [← hlast, toNat_mul_toUInt64, UInt32.toNat_toUInt64] at hceil
  obtain ⟨hle_last, hlast_lt⟩ := hceil
  have hproper : start.toNat * source.toNat < stop.toNat * source.toNat :=
    Nat.mul_lt_mul_of_pos_right hstart hsource
  have hwhole : stop.toNat * source.toNat ≤ source.toNat * dest.toNat := by
    rw [Nat.mul_comm source.toNat]
    exact Nat.mul_le_mul_right _ hstop
  have hlt : first.toNat < last.toNat :=
    Nat.lt_of_mul_lt_mul_right (a := dest.toNat) (by omega)
  have hle : last.toNat ≤ source.toNat := le_of_mul_lt_add (d := dest.toNat) (by omega)
  exact ⟨⟨hfirst_le, hlt_first⟩, ⟨hle_last, hlast_lt⟩, hlt, hle⟩

/-- The source pixels under a span cover it. -/
theorem covers_sourceSpan (hstart : start.toNat < stop.toNat) (hstop : stop.toNat ≤ dest.toNat)
    (hsource : 0 < source.toNat) :
    (sourceSpan start stop dest source).Covers start stop dest source := by
  obtain ⟨first, hfirst⟩ : ∃ q, q = start.toUInt64 * source.toUInt64 / dest.toUInt64 := ⟨_, rfl⟩
  obtain ⟨last, hlast⟩ : ∃ q, q = ceilDiv (stop.toUInt64 * source.toUInt64) dest.toUInt64 :=
    ⟨_, rfl⟩
  obtain ⟨⟨hfirst_le, hlt_first⟩, ⟨hle_last, hlast_lt⟩, hlt, hle⟩ :=
    quotients_bounds hfirst hlast hstart hstop hsource
  obtain ⟨hoffset, hlength⟩ := sourceSpan_eq hfirst hlast hlt hle
  have hend : first.toNat + (last.toNat - first.toNat) = last.toNat := by omega
  constructor <;> simp only [hoffset, hlength, hend]
  · exact hfirst_le
  · exact hlt_first
  · exact hle_last
  · exact hlast_lt

/-- The whole axis lies under the whole rectangle. -/
theorem sourceSpan_full (hdest : 0 < dest.toNat) (hsource : 0 < source.toNat) :
    sourceSpan 0 dest dest source = ⟨0, source⟩ := by
  refine (covers_sourceSpan (by simpa using hdest) (Nat.le_refl _) hsource).unique ?_
  have hcomm := Nat.mul_comm dest.toNat source.toNat
  constructor <;> simp only [UInt32.toNat_zero, Nat.zero_mul, Nat.zero_add] <;> omega

/-- Where nothing is scaled, each pixel lies under its own. -/
theorem sourceSpan_unscaled (hstart : start.toNat < stop.toNat) (hstop : stop.toNat ≤ dest.toNat) :
    sourceSpan start stop dest dest = ⟨start, stop - start⟩ := by
  refine (covers_sourceSpan hstart hstop (by omega)).unique ?_
  have hlength : (stop - start).toNat = stop.toNat - start.toNat :=
    UInt32.toNat_sub_of_le _ _ (by rw [UInt32.le_iff_toNat_le]; omega)
  have hend : start.toNat + (stop.toNat - start.toNat) = stop.toNat := by omega
  constructor <;> simp only [hlength, hend] <;> omega

end Span

end RemoteDisplay
