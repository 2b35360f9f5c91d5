/-
**The reported position follows the pointer.**

A canvas may be shown anywhere and at any size, even at one that makes no sense: at an infinite
offset, with a size that is no number, or so small that the scale overflows.  Then differences and
products appear that are no number and count as zero.  Still a pointer that goes right is never
reported further left, and one that goes down never further up.

The scale is never negative, and multiplying by it, rounding and converting keep the order.  The
difference is the step where a jump to zero could break it: with an infinite offset only the points
at that same infinity give no number, and they are first, or last, in the order of the points.

Main results:

* `RemoteDisplay.Double.difference_mono` — differences keep the order, no number counting as zero;
* `RemoteDisplay.level_axisScale_nonneg` — no scale is negative;
* `RemoteDisplay.Geometry.toCanvas_mono` — **the position on the canvas follows the pointer**.
-/
import RemoteDisplay.Proofs.Double.Value

set_option relaxedAutoImplicit false
set_option autoImplicit false

namespace RemoteDisplay

namespace Double

open Binary

/-- Differences keep the order, no number counting as zero. -/
theorem difference_mono {a b : EReal} (c : EReal) (h : a ≤ b) :
    (difference? .binary64 a c).getD 0 ≤ (difference? .binary64 b c).getD 0 := by
  induction c with
  | bot =>
    rcases eq_or_ne b ⊥ with rfl | hb
    · rw [le_bot_iff.1 h]
    · have htop : difference? .binary64 b ⊥ = some ⊤ := by
        rw [difference?, if_neg fun h => hb h.1, EReal.sub_bot hb, rounded_top]
      rw [htop]
      exact le_top
  | top =>
    rcases eq_or_ne a ⊤ with rfl | ha
    · rw [top_le_iff.1 h]
    · have hbot : difference? .binary64 a ⊤ = some ⊥ := by
        rw [difference?, if_neg fun h => ha h.1, EReal.sub_top, rounded_bot]
      rw [hbot]
      exact bot_le
  | coe z =>
    -- nothing but an infinity has no difference
    have hsome (d : EReal) : difference? .binary64 d z = some (rounded .binary64 (d - z)) := by
      refine if_neg ?_
      rintro ⟨rfl, hinfinite⟩
      exact hinfinite.elim (EReal.coe_ne_top z) (EReal.coe_ne_bot z)
    rw [hsome a, hsome b]
    exact rounded_mono (EReal.sub_le_sub h le_rfl)

/-- Subtracting a double keeps the order. -/
theorem level_sub_mono {x y : Float} (o : Float) (h : x ≤ y) : level (x - o) ≤ level (y - o) := by
  obtain ⟨a, b, hx, hy, hle⟩ := le_iff.1 h
  change (value? (x - o)).getD 0 ≤ (value? (y - o)).getD 0
  rw [value?_sub, value?_sub, hx, hy, Option.bind_some, Option.bind_some]
  rcases value? o with _ | c
  · exact le_rfl
  · exact difference_mono c hle

/-- Multiplying by a double that is not negative keeps the order. -/
theorem level_mul_mono {x y s : Float} (hs : 0 ≤ level s) (h : level x ≤ level y) :
    level (x * s) ≤ level (y * s) := by
  rw [level_mul, level_mul]
  exact rounded_mono (mul_le_mul_of_nonneg_right h hs)

/-- Converting a double keeps the order. -/
theorem truncate_mono {x y : Float} (h : level x ≤ level y) : truncate x ≤ truncate y := by
  rw [Int32.le_iff_toInt_le, toInt_truncate, toInt_truncate]
  exact toWord_mono h

end Double

open Binary Double

/-- No scale is negative. -/
theorem level_axisScale_nonneg (logical : UInt32) (displayed : Float) :
    0 ≤ level (axisScale logical displayed) := by
  rw [axisScale]
  split
  case isTrue hshown =>
    obtain ⟨a, b, hzero, hvalue, hpos⟩ := lt_iff.1 hshown
    obtain rfl := Option.some.inj (value?_zero.symm.trans hzero)
    have hlogical : 0 ≤ level logical.toFloat := by
      rw [level_of_value? (value?_toFloat logical)]
      exact EReal.coe_nonneg.2 (Nat.cast_nonneg _)
    rw [level_div fun h => hpos.ne' (Option.some.inj (hvalue.symm.trans h)),
      level_of_value? hvalue]
    exact rounded_nonneg (EReal.div_nonneg hlogical hpos.le)
  case isFalse hshown =>
    rw [level_of_value? value?_one]
    exact zero_le_one

/-- Along an axis the coordinate on the canvas follows that on the screen. -/
theorem axis_mono {x y : Float} (o : Float) (logical : UInt32) (displayed : Float) (h : x ≤ y) :
    truncate ((x - o) * axisScale logical displayed) ≤
      truncate ((y - o) * axisScale logical displayed) :=
  truncate_mono (level_mul_mono (level_axisScale_nonneg logical displayed) (level_sub_mono o h))

/-- **The position on the canvas follows the pointer**: a pointer that is not further left, or not
further up, is not reported further left, or further up, wherever and however large the canvas is
shown.  Coordinates that are no number do not compare. -/
theorem Geometry.toCanvas_mono (g : Geometry) (p q : Point) :
    (p.x ≤ q.x → (g.toCanvas p).x ≤ (g.toCanvas q).x) ∧
      (p.y ≤ q.y → (g.toCanvas p).y ≤ (g.toCanvas q).y) := by
  constructor
  · exact axis_mono g.bbox.left g.width g.bbox.width
  · exact axis_mono g.bbox.top g.height g.bbox.height

/-- The case of a canvas infinitely far to the right: a point that is as far counts as zero, and the
others lie before it. -/
theorem Geometry.toCanvas_mono_small :
    (3 : Float) ≤ 1 / 0 ∧
      (Geometry.toCanvas ⟨4, 4, ⟨1 / 0, 0, 2, 2⟩⟩ ⟨3, 0⟩).x = -2147483648 ∧
      (Geometry.toCanvas ⟨4, 4, ⟨1 / 0, 0, 2, 2⟩⟩ ⟨1 / 0, 0⟩).x = 0 ∧
      (Geometry.toCanvas ⟨4, 4, ⟨1 / 0, 0, 2, 2⟩⟩ ⟨3, 0⟩).x ≤
        (Geometry.toCanvas ⟨4, 4, ⟨1 / 0, 0, 2, 2⟩⟩ ⟨1 / 0, 0⟩).x :=
  ⟨by decide, by decide, by decide, (Geometry.toCanvas_mono _ _ _).1 (by decide)⟩

end RemoteDisplay
