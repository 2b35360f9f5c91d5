/-
**The source pixels under a span, as exact quotients.**

Along an axis of a rectangle, the preimage of a span is what it is of the axis by proportion: its
bounds times the source over the length of the rectangle, two rational numbers.  The source pixels
that are taken begin at the lower bound rounded down and end at the upper one rounded up, so that
they are the shortest run of pixels around the preimage.  The words are large enough for that, and
the bounds between which the quotients are held never hold one back.

Main definitions:

* `RemoteDisplay.Span.stop`, `RemoteDisplay.Span.pixels` — where a run of pixels ends, and its
  pixels;
* `RemoteDisplay.Encloses` — an interval of pixels around an interval of the axis.

Main results:

* `RemoteDisplay.floor_offset`, `RemoteDisplay.ceil_stop` — the two ends of the source pixels;
* `RemoteDisplay.quotients_exact` — nothing is held back, and nothing is cut off;
* `RemoteDisplay.sourceSpan_cut` — two parts of a rectangle share at most one source pixel;
* `RemoteDisplay.sourceSpan_outward` — **the source pixels under a span are its preimage, rounded
  outward**.
-/
import Mathlib.Algebra.Order.Floor.Ring
import Mathlib.Data.Rat.Floor
import Mathlib.Order.Interval.Finset.Nat
import RemoteDisplay.Proofs.Raster.Faults

set_option relaxedAutoImplicit false
set_option autoImplicit false

namespace RemoteDisplay

/-- The pixel behind the last one of a run. -/
def Span.stop (span : Span) : Nat := span.offset.toNat + span.length.toNat

/-- The pixels of a run. -/
def Span.pixels (span : Span) : Finset Nat := Finset.Ico span.offset.toNat span.stop

/-- The pixels from `first` up to `stop` cover an axis from `lower` up to `upper`. -/
def Encloses (first stop : ℤ) (lower upper : ℚ) : Prop := first ≤ lower ∧ upper ≤ stop

section

variable {start stop dest source : UInt32}

theorem InRange.toNat (h : InRange start stop dest source) :
    start.toNat < stop.toNat ∧ stop.toNat ≤ dest.toNat ∧ 0 < source.toNat :=
  ⟨UInt32.lt_iff_toNat_lt.1 h.start_lt, UInt32.le_iff_toNat_le.1 h.stop_le,
    UInt32.lt_iff_toNat_lt.1 h.source_pos⟩

theorem InRange.covers (h : InRange start stop dest source) :
    (sourceSpan start stop dest source).Covers start stop dest source :=
  covers_sourceSpan h.toNat.1 h.toNat.2.1 h.toNat.2.2

theorem InRange.dest_pos (h : InRange start stop dest source) : (0 : ℚ) < dest.toNat := by
  obtain ⟨hstart, hstop, -⟩ := h.toNat
  exact_mod_cast Nat.lt_of_le_of_lt (Nat.zero_le _) (Nat.lt_of_lt_of_le hstart hstop)

/-- The source pixels begin at the lower bound of the preimage, rounded down. -/
theorem floor_offset (h : InRange start stop dest source) :
    ⌊(start.toNat * source.toNat / dest.toNat : ℚ)⌋ =
      ((sourceSpan start stop dest source).offset.toNat : ℤ) := by
  have hdest := h.dest_pos
  rw [Int.floor_eq_iff, le_div_iff₀ hdest, div_lt_iff₀ hdest, add_mul, one_mul]
  exact ⟨mod_cast h.covers.first_le, mod_cast h.covers.lt_first⟩

/-- The source pixels end at the upper bound of the preimage, rounded up. -/
theorem ceil_stop (h : InRange start stop dest source) :
    ⌈(stop.toNat * source.toNat / dest.toNat : ℚ)⌉ =
      ((sourceSpan start stop dest source).stop : ℤ) := by
  have hdest := h.dest_pos
  rw [Int.ceil_eq_iff, lt_div_iff₀ hdest, div_le_iff₀ hdest, sub_mul, one_mul, sub_lt_iff_lt_add]
  exact ⟨mod_cast h.covers.last_lt, mod_cast h.covers.le_last⟩

/-- The quotients are the ends of the source pixels as they are: the bounds between which they are
held do not change them, and they fit into the words of 32 bits that they are put in. -/
theorem quotients_exact (h : InRange start stop dest source) :
    let first := start.toUInt64 * source.toUInt64 / dest.toUInt64
    let last := ceilDiv (stop.toUInt64 * source.toUInt64) dest.toUInt64
    min first (source.toUInt64 - 1) = first ∧ clampWord (first + 1) source.toUInt64 last = last ∧
      first.toUInt32.toUInt64 = first ∧ (last - first).toUInt32.toUInt64 = last - first := by
  intro first last
  obtain ⟨hstart, hstop, hsource⟩ := h.toNat
  have hfirst : first = start.toUInt64 * source.toUInt64 / dest.toUInt64 := rfl
  have hlast : last = ceilDiv (stop.toUInt64 * source.toUInt64) dest.toUInt64 := rfl
  obtain ⟨-, -, hlt, hle⟩ := quotients_bounds hfirst hlast hstart hstop hsource
  obtain ⟨hmin, hclamp⟩ := held_of_lt hlt hle
  have hfits := source.toNat_lt
  have hlength : (last - first).toNat = last.toNat - first.toNat :=
    UInt64.toNat_sub_of_le _ _ (UInt64.le_iff_toNat_le.2 (Nat.le_of_lt hlt))
  refine ⟨hmin, hclamp, ?_, ?_⟩
  · rw [← UInt64.toNat_inj, UInt32.toNat_toUInt64, UInt64.toNat_toUInt32]
    omega
  · rw [← UInt64.toNat_inj, UInt32.toNat_toUInt64, UInt64.toNat_toUInt32, hlength]
    omega

/-- The source pixels under two parts of a rectangle are all of the source, and the parts share one
of them at most, the one under the cut. -/
theorem sourceSpan_cut {cut : UInt32} (hsource : 0 < source) (hcut : 0 < cut) (hdest : cut < dest) :
    let before := sourceSpan 0 cut dest source
    let behind := sourceSpan cut dest dest source
    before.pixels ∪ behind.pixels = Finset.range source.toNat ∧
      (before.pixels ∩ behind.pixels).card ≤ 1 := by
  intro before behind
  have hbefore : InRange 0 cut dest source := ⟨hcut, UInt32.le_of_lt hdest, hsource⟩
  have hbehind : InRange cut dest dest source := ⟨hdest, UInt32.le_refl dest, hsource⟩
  have hzero : before.offset.toNat = 0 := by
    have hfloor := floor_offset hbefore
    simpa using hfloor.symm
  have hlast : behind.stop = source.toNat := by
    have hceil := ceil_stop hbehind
    rw [mul_div_cancel_left₀ _ hbehind.dest_pos.ne', Int.ceil_natCast] at hceil
    exact_mod_cast hceil.symm
  -- the first part ends where the second one begins, one pixel later at most
  have hmeet : behind.offset.toNat ≤ before.stop := by
    have hle := Int.floor_le_ceil (cut.toNat * source.toNat / dest.toNat : ℚ)
    rw [floor_offset hbehind, ceil_stop hbefore] at hle
    exact_mod_cast hle
  have hshare : before.stop ≤ behind.offset.toNat + 1 := by
    have hle := Int.ceil_le_floor_add_one (cut.toNat * source.toNat / dest.toNat : ℚ)
    rw [floor_offset hbehind, ceil_stop hbefore] at hle
    exact_mod_cast hle
  have hinside : behind.offset.toNat ≤ behind.stop := Nat.le_add_right _ _
  have hinside' : before.stop ≤ source.toNat := (sourceSpan_inside 0 cut dest hbefore.toNat.2.2).2
  constructor
  · ext i
    simp only [Span.pixels, Finset.mem_union, Finset.mem_Ico, Finset.mem_range]
    omega
  · rw [Span.pixels, Span.pixels, Finset.Ico_inter_Ico, Nat.card_Ico]
    omega

/-- **The source pixels under a span are its preimage, rounded outward.**  Where a span is not empty
and lies in the rectangle, and there is a source, the source pixels begin at the lower bound of the
preimage rounded down and end at the upper one rounded up.  The quotients are neither held back nor
cut off on the way.  There is a source pixel, and all of them are pixels of the source; they are the
shortest run of pixels around the preimage.  The whole source lies under the whole rectangle, and
wherever the rectangle is cut in two, the whole source lies under the two parts, of which at most
one pixel lies under both. -/
theorem sourceSpan_outward (h : InRange start stop dest source) :
    let span := sourceSpan start stop dest source
    let lower : ℚ := start.toNat * source.toNat / dest.toNat
    let upper : ℚ := stop.toNat * source.toNat / dest.toNat
    let first := start.toUInt64 * source.toUInt64 / dest.toUInt64
    let last := ceilDiv (stop.toUInt64 * source.toUInt64) dest.toUInt64
    ((span.offset.toNat : ℤ) = ⌊lower⌋ ∧ (span.stop : ℤ) = ⌈upper⌉) ∧
      (min first (source.toUInt64 - 1) = first ∧
        clampWord (first + 1) source.toUInt64 last = last ∧
        first.toUInt32.toUInt64 = first ∧ (last - first).toUInt32.toUInt64 = last - first) ∧
      (1 ≤ span.length.toNat ∧ span.stop ≤ source.toNat) ∧
      (Encloses span.offset.toNat span.stop lower upper ∧
        ∀ first stop : ℤ, Encloses first stop lower upper →
          first ≤ span.offset.toNat ∧ span.stop ≤ stop) ∧
      sourceSpan 0 dest dest source = ⟨0, source⟩ ∧
      ∀ cut : UInt32, 0 < cut → cut < dest →
        let before := sourceSpan 0 cut dest source
        let behind := sourceSpan cut dest dest source
        before.pixels ∪ behind.pixels = Finset.range source.toNat ∧
          (before.pixels ∩ behind.pixels).card ≤ 1 := by
  intro span lower upper first last
  obtain ⟨hstart, hstop, hsource⟩ := h.toNat
  have hfloor : ⌊lower⌋ = span.offset.toNat := floor_offset h
  have hceil : ⌈upper⌉ = span.stop := ceil_stop h
  refine ⟨⟨hfloor.symm, hceil.symm⟩, quotients_exact h,
    sourceSpan_inside start stop dest hsource, ⟨?_, ?_⟩, sourceSpan_full (by omega) hsource, ?_⟩
  · rw [← hfloor, ← hceil]
    exact ⟨Int.floor_le lower, Int.le_ceil upper⟩
  · intro first stop hencloses
    rw [← hfloor, ← hceil]
    exact ⟨Int.le_floor.2 hencloses.1, Int.ceil_le.2 hencloses.2⟩
  · intro cut hcut hdest
    exact sourceSpan_cut h.source_pos hcut hdest

/-- The third and the fourth of seven pixels, of a source as long as words allow: neither bound of
the preimage is a whole number. -/
theorem sourceSpan_outward_small :
    InRange 2 4 7 0xffffffff ∧
      ((sourceSpan 2 4 7 0xffffffff).offset.toNat : ℤ) = ⌊(2 * 4294967295 / 7 : ℚ)⌋ ∧
      ((sourceSpan 2 4 7 0xffffffff).stop : ℤ) = ⌈(4 * 4294967295 / 7 : ℚ)⌉ ∧
      ((sourceSpan 0 3 7 0xffffffff).pixels ∩ (sourceSpan 3 7 7 0xffffffff).pixels).card ≤ 1 := by
  have hrange : InRange 2 4 7 0xffffffff := ⟨by decide, by decide, by decide⟩
  obtain ⟨⟨hfirst, hlast⟩, -, -, -, -, hcut⟩ := sourceSpan_outward hrange
  exact ⟨hrange, by simpa using hfirst, by simpa using hlast,
    (hcut 3 (by decide) (by decide)).2⟩

end

end RemoteDisplay
