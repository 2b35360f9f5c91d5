/-
**Painting a translucent pixel.**

A pixel that covers another in part is composed with it in single precision.  What that comes to is
compared with the exact composition: each opacity and each colour is a fraction of 255, the opacity
of both together is what the one leaves of the other, and a colour is the mean of both colours,
weighted by how much of each is seen.  However transparent both pixels are, no byte of the result is
wrong by more than the cutting off and a small part of a unit.

Main definitions:

* `RemoteDisplay.Single.Near` — a number that is near to a value;
* `RemoteDisplay.Pixel.alphaOnto`, `RemoteDisplay.Pixel.colourOnto` — the exact composition;
* `RemoteDisplay.Pixel.CutOff` — a byte is the whole part of a fraction of 255, or nearly so.

Main results:

* `RemoteDisplay.Pixel.near_blend` — **the composition is nearly exact**;
* `RemoteDisplay.Pixel.cutOff_onto` — the bytes of a pixel painted over another.
-/
import RemoteDisplay.Proofs.Single.Value
import RemoteDisplay.Raster.Pixel

set_option relaxedAutoImplicit false
set_option autoImplicit false

namespace RemoteDisplay

namespace Single

open Binary

/-! ### Numbers near a value -/

/-- A number whose value is that near to a given one. -/
def Near (x : Float32) (a error : ℝ) : Prop := ∃ b, HasValue x b ∧ |b - a| ≤ error

variable {x y : Float32} {a b c k l ε η : ℝ}

theorem HasValue.near (h : HasValue x a) : Near x a 0 := ⟨a, h, by simp⟩

theorem Near.mono (h : Near x a ε) (hle : ε ≤ η) : Near x a η := by
  obtain ⟨a', hx, ha⟩ := h
  exact ⟨a', hx, ha.trans hle⟩

/-- A bound is neither so small that rounding would lose digits nor so large that it would not be
kept. -/
structure Moderate (c : ℝ) : Prop where
  low : 1 / 2 ^ 100 ≤ c
  high : c ≤ 2 ^ 100

/-- Rounding moves a number up to `c` by one part in `2 ^ 23` of that at most. -/
theorem near_of_hasValue {a' : ℝ} (hx : |a'| ≤ 2 ^ 127 → HasValue x (nearest .binary32 a'))
    (ha : |a' - a| ≤ ε) (ha0 : 0 ≤ a) (hle : a + ε ≤ c) (hc : Moderate c) :
    Near x a (ε + c / 2 ^ 23) := by
  obtain ⟨hlow, hhigh⟩ := hc
  obtain ⟨hlo, hhi⟩ := abs_le.1 ha
  have habs : |a'| ≤ c := abs_le.2 ⟨by linarith, by linarith⟩
  have herror := abs_error_le_add a'
  refine ⟨_, hx (habs.trans (hhigh.trans (by norm_num))), ?_⟩
  have htriangle := abs_sub_le (nearest .binary32 a') a' a
  norm_num at herror hlow ⊢
  linarith

theorem Near.add (hx : Near x a ε) (hy : Near y b η) (hab : 0 ≤ a + b) (hle : a + b + (ε + η) ≤ c)
    (hc : Moderate c) : Near (x + y) (a + b) (ε + η + c / 2 ^ 23) := by
  obtain ⟨a', hx, ha⟩ := hx
  obtain ⟨b', hy, hb⟩ := hy
  refine near_of_hasValue (hx.add hy) ?_ hab hle hc
  rw [add_sub_add_comm]
  exact (abs_add_le _ _).trans (add_le_add ha hb)

theorem Near.sub (hx : Near x a ε) (hy : Near y b η) (hab : 0 ≤ a - b) (hle : a - b + (ε + η) ≤ c)
    (hc : Moderate c) : Near (x - y) (a - b) (ε + η + c / 2 ^ 23) := by
  obtain ⟨a', hx, ha⟩ := hx
  obtain ⟨b', hy, hb⟩ := hy
  refine near_of_hasValue (hx.sub hy) ?_ hab hle hc
  rw [sub_sub_sub_comm]
  exact (abs_sub _ _).trans (add_le_add ha hb)

/-- The error of a product of a number up to `k` and one that stands for a value up to `l`. -/
theorem Near.mul (hx : Near x a ε) (hy : Near y b η) (ha0 : 0 ≤ a) (hb0 : 0 ≤ b) (hk : a + ε ≤ k)
    (hl : b ≤ l) (hle : a * b + (k * η + l * ε) ≤ c) (hc : Moderate c) :
    Near (x * y) (a * b) (k * η + l * ε + c / 2 ^ 23) := by
  obtain ⟨a', hx, ha⟩ := hx
  obtain ⟨b', hy, hb⟩ := hy
  refine near_of_hasValue (hx.mul hy) ?_ (mul_nonneg ha0 hb0) hle hc
  have hk' : |a'| ≤ k := by
    obtain ⟨hlo, hhi⟩ := abs_le.1 ha
    exact abs_le.2 ⟨by linarith, by linarith⟩
  have hl' : |b| ≤ l := by rwa [abs_of_nonneg hb0]
  have hsplit : a' * b' - a * b = a' * (b' - b) + b * (a' - a) := by ring
  rw [hsplit]
  refine (abs_add_le _ _).trans ?_
  rw [abs_mul, abs_mul]
  exact add_le_add (mul_le_mul hk' hb (abs_nonneg _) ((abs_nonneg _).trans hk'))
    (mul_le_mul hl' ha (abs_nonneg _) ((abs_nonneg _).trans hl'))

/-- The error of a quotient that is not more than one, if both errors are parts of the divisor. -/
theorem Near.div (hx : Near x a (k * b)) (hy : Near y b (l * b)) (ha0 : 0 ≤ a) (hb : 0 < b)
    (hab : a ≤ b) (hl : l < 1) (hle : 1 + (k + l) / (1 - l) ≤ c) (hc : Moderate c) :
    Near (x / y) (a / b) ((k + l) / (1 - l) + c / 2 ^ 23) := by
  obtain ⟨a', hx, ha⟩ := hx
  obtain ⟨b', hy, hb'⟩ := hy
  have hpart : 0 < (1 - l) * b := mul_pos (by linarith) hb
  have hlow : (1 - l) * b ≤ b' := by linarith [(abs_le.1 hb').1]
  have hpos : 0 < b' := hpart.trans_le hlow
  have hquotient : 0 ≤ a / b := div_nonneg ha0 hb.le
  have hone : a / b ≤ 1 := div_le_one_of_le₀ hab hb.le
  refine near_of_hasValue (hx.div hy hpos.ne') ?_ hquotient (by linarith) hc
  have hsplit : a' / b' - a / b = (a' - a - a / b * (b' - b)) / b' := by
    field_simp
    ring
  have herror : |a' - a - a / b * (b' - b)| ≤ (k + l) * b := by
    refine (abs_sub _ _).trans ?_
    rw [abs_mul, abs_of_nonneg hquotient, add_mul]
    exact add_le_add ha ((mul_le_of_le_one_left (abs_nonneg _) hone).trans hb')
  rw [hsplit, abs_div, abs_of_pos hpos]
  calc |a' - a - a / b * (b' - b)| / b' ≤ (k + l) * b / ((1 - l) * b) :=
        div_le_div₀ ((abs_nonneg _).trans herror) herror hpart hlow
    _ = (k + l) / (1 - l) := mul_div_mul_right _ _ hb.ne'

end Single

namespace Pixel

open Single Binary

/-! ### The exact composition -/

/-- The value of a byte as a fraction of 255. -/
noncomputable def fractionValue (c : UInt8) : ℝ := c.toNat / 255

/-- The opacity of two pixels, one over the other. -/
noncomputable def alphaOnto (fg bg : Pixel) : ℝ :=
  fractionValue bg.a + fractionValue fg.a - fractionValue bg.a * fractionValue fg.a

/-- A colour `f` of a pixel over the colour `b` of another. -/
noncomputable def colourOnto (fg bg : Pixel) (f b : UInt8) : ℝ :=
  (fractionValue f * fractionValue fg.a +
    fractionValue b * fractionValue bg.a * (1 - fractionValue fg.a)) / alphaOnto fg bg

/-- A byte is the whole part of a fraction of 255, or nearly so. -/
def CutOff (c : UInt8) (x : ℝ) : Prop :=
  c.toNat ≤ 255 * x + 1 / 512 ∧ 255 * x < c.toNat + 1 + 1 / 512

theorem fractionValue_bounds (c : UInt8) : 0 ≤ fractionValue c ∧ fractionValue c ≤ 1 := by
  have hbyte : (c.toNat : ℝ) ≤ 255 := mod_cast Nat.le_of_lt_succ c.toNat_lt
  exact ⟨by rw [fractionValue]; positivity, div_le_one_of_le₀ hbyte (by norm_num)⟩

theorem fractionValue_zero : fractionValue 0 = 0 := by simp [fractionValue]

theorem fractionValue_255 : fractionValue 255 = 1 := by simp [fractionValue]

theorem one_le_of_ne_zero {c : UInt8} (h : c ≠ 0) : 1 / 255 ≤ fractionValue c := by
  have hone : 0 < c.toNat := Nat.pos_of_ne_zero fun hzero => h (UInt8.toNat_inj.1 hzero)
  have hone' : (1 : ℝ) ≤ c.toNat := mod_cast hone
  rw [fractionValue]
  gcongr

theorem near_fraction (c : UInt8) :
    Near (fraction c) (fractionValue c) (fractionValue c / 2 ^ 23) := by
  have hvalue : HasValue (fraction c) (nearest .binary32 (fractionValue c)) := by
    refine (hasValue_byte c).div hasValue_255 (by norm_num) ?_
    have hbounds := fractionValue_bounds c
    rw [fractionValue] at hbounds
    rw [abs_of_nonneg hbounds.1]
    exact hbounds.2.trans (by norm_num)
  refine ⟨_, hvalue, ?_⟩
  by_cases hc : c = 0
  · rw [hc, fractionValue_zero]
    simp
  · have hone := one_le_of_ne_zero hc
    have herror := abs_error_le (a := fractionValue c) (le_trans (by norm_num) hone)
    norm_num at herror ⊢
    linarith

/-! ### Composing nearly exact numbers -/

section

variable {x y f g : Float32} {A B F G alpha : ℝ}

/-- Two opacities, and that of both together. -/
structure Opacities (A B alpha : ℝ) : Prop where
  left : 0 ≤ A ∧ A ≤ 1
  right : 0 ≤ B ∧ B ≤ 1
  eq : B + A - B * A = alpha
  low : 1 / 255 ≤ alpha

namespace Opacities

/-- Both together are as opaque as either of them. -/
theorem le (h : Opacities A B alpha) : A ≤ alpha ∧ B ≤ alpha ∧ alpha ≤ 1 := by
  have hA := mul_nonneg h.left.1 (sub_nonneg.2 h.right.2)
  have hB := mul_nonneg h.right.1 (sub_nonneg.2 h.left.2)
  have hAB := mul_nonneg (sub_nonneg.2 h.left.2) (sub_nonneg.2 h.right.2)
  have heq := h.eq
  refine ⟨by linarith, by linarith, by linarith⟩

theorem mul_bounds (h : Opacities A B alpha) : 0 ≤ B * A ∧ B * A ≤ alpha :=
  ⟨mul_nonneg h.right.1 h.left.1, (mul_le_of_le_one_right h.right.1 h.left.2).trans h.le.2.1⟩

/-- What is seen of both colours is no more than both are opaque. -/
theorem seen_bounds (h : Opacities A B alpha) (hF : 0 ≤ F ∧ F ≤ 1) (hG : 0 ≤ G ∧ G ≤ 1) :
    0 ≤ F * A + G * B * (1 - A) ∧ F * A + G * B * (1 - A) ≤ alpha := by
  have hrest : 0 ≤ 1 - A := sub_nonneg.2 h.left.2
  have hGB := mul_nonneg hG.1 h.right.1
  constructor
  · exact add_nonneg (mul_nonneg hF.1 h.left.1) (mul_nonneg hGB hrest)
  · calc F * A + G * B * (1 - A) ≤ 1 * A + 1 * B * (1 - A) := by
          have hF' := mul_le_mul_of_nonneg_right hF.2 h.left.1
          have hG' := mul_le_mul_of_nonneg_right (mul_le_mul_of_nonneg_right hG.2 h.right.1) hrest
          exact add_le_add hF' hG'
      _ = alpha := by
        rw [← h.eq]
        ring

end Opacities

theorem moderate_two_mul (h : Opacities A B alpha) : Moderate (2 * alpha) := by
  have hlow := h.low
  have hone := h.le.2.2
  constructor <;> linarith

/-- The opacity of both together comes out nearly exact. -/
theorem near_alphaOver (h : Opacities A B alpha) (hx : Near x A (alpha / 2 ^ 23))
    (hy : Near y B (alpha / 2 ^ 23)) : Near (alphaOver x y) alpha (12 / 2 ^ 23 * alpha) := by
  obtain ⟨hleA, hleB, hone⟩ := h.le
  obtain ⟨hnonneg, hmul⟩ := h.mul_bounds
  have hlow := h.low
  have hA := h.left
  have hB := h.right
  have hc := moderate_two_mul h
  have hsum : Near (y + x) (B + A) (5 / 2 ^ 23 * alpha) :=
    (hy.add hx (c := 3 * alpha) (by linarith) (by linarith)
      ⟨by linarith, by linarith⟩).mono (by linarith)
  have hproduct : Near (y * x) (B * A) (5 / 2 ^ 23 * alpha) :=
    (hy.mul hx (k := 2) (l := 1) hB.1 hA.1 (by linarith) hA.2 (by linarith) hc).mono (by linarith)
  have hresult := hsum.sub hproduct (by linarith [h.eq]) (by linarith [h.eq]) hc
  rw [h.eq] at hresult
  exact hresult.mono (by linarith)

/-- A colour comes out nearly exact: all errors are parts of the opacity, and it is divided by
that. -/
theorem near_colourOver (h : Opacities A B alpha) (hx : Near x A (alpha / 2 ^ 23))
    (hy : Near y B (alpha / 2 ^ 23)) (hf : Near f F (1 / 2 ^ 23)) (hg : Near g G (1 / 2 ^ 23))
    (hF : 0 ≤ F ∧ F ≤ 1) (hG : 0 ≤ G ∧ G ≤ 1) :
    Near (colourOver f x g y (alphaOver x y)) ((F * A + G * B * (1 - A)) / alpha)
      (35 / 2 ^ 23) := by
  obtain ⟨hleA, hleB, hone⟩ := h.le
  obtain ⟨hnonneg, hseen⟩ := h.seen_bounds hF hG
  have hlow := h.low
  have hA := h.left
  have hB := h.right
  have hc := moderate_two_mul h
  have hrest : 0 ≤ 1 - A := by linarith
  have hFA : F * A ≤ alpha := (mul_le_of_le_one_left hA.1 hF.2).trans hleA
  have hGB0 : 0 ≤ G * B := mul_nonneg hG.1 hB.1
  have hGB : G * B ≤ alpha := (mul_le_of_le_one_left hB.1 hG.2).trans hleB
  have hGB' : G * B * (1 - A) ≤ alpha := (mul_le_of_le_one_right hGB0 (by linarith)).trans hGB
  have hover : Near (f * x) (F * A) (5 / 2 ^ 23 * alpha) :=
    (hf.mul hx (k := 2) hF.1 hA.1 (by linarith) hleA (by linarith) hc).mono (by linarith)
  have hunder : Near (g * y) (G * B) (5 / 2 ^ 23 * alpha) :=
    (hg.mul hy (k := 2) hG.1 hB.1 (by linarith) hleB (by linarith) hc).mono (by linarith)
  have hshare : Near (1 - x) (1 - A) (3 / 2 ^ 23) :=
    (hasValue_one.near.sub hx (c := 2) hrest (by linarith)
      ⟨by norm_num, by norm_num⟩).mono (by linarith)
  have hshown : Near (g * y * (1 - x)) (G * B * (1 - A)) (13 / 2 ^ 23 * alpha) :=
    (hunder.mul hshare (k := 2 * alpha) (l := 1) hGB0 hrest (by linarith) (by linarith)
      (by linarith) hc).mono (by linarith)
  have hsum : Near (f * x + g * y * (1 - x)) (F * A + G * B * (1 - A)) (20 / 2 ^ 23 * alpha) :=
    (hover.add hshown hnonneg (by linarith) hc).mono (by linarith)
  exact (hsum.div (near_alphaOver h hx hy) (c := 2) hnonneg (by linarith) hseen (by norm_num)
    (by norm_num) ⟨by norm_num, by norm_num⟩).mono (by norm_num)

end

/-! ### Bytes -/

/-- A fraction that is nearly exact, scaled to a byte: it is neither too large for one nor too far
below zero, and is cut off. -/
theorem near_scaled {x : Float32} {a : ℝ} (hx : Near x a (35 / 2 ^ 23)) (ha : 0 ≤ a ∧ a ≤ 1) :
    Near (255 * x) (255 * a) (1 / 512) :=
  (hasValue_255.near.mul hx (k := 255) (l := 1) (c := 256) (by norm_num) ha.1 (by norm_num) ha.2
    (by linarith) ⟨by norm_num, by norm_num⟩).mono (by norm_num)

theorem cutOff_toUInt8 {x : Float32} {a : ℝ} (hx : Near x (255 * a) (1 / 512))
    (ha : 0 ≤ a ∧ a ≤ 1) : CutOff x.toUInt8 a := by
  obtain ⟨b, hvalue, hb⟩ := hx
  obtain ⟨hlo, hhi⟩ := abs_le.1 hb
  rw [CutOff, hvalue.toNat_toUInt8 (by linarith) (by linarith)]
  have hlt := Nat.lt_floor_add_one b
  refine ⟨?_, by linarith⟩
  rcases le_or_gt 0 b with hnonneg | hneg
  · linarith [Nat.floor_le hnonneg]
  · rw [Nat.floor_of_nonpos hneg.le, Nat.cast_zero]
    linarith

/-! ### Pixels -/

theorem opacities {fg : Pixel} (h : fg.a ≠ 0) (bg : Pixel) :
    Opacities (fractionValue fg.a) (fractionValue bg.a) (alphaOnto fg bg) where
  left := fractionValue_bounds fg.a
  right := fractionValue_bounds bg.a
  eq := rfl
  low := by
    have hone := one_le_of_ne_zero h
    have hA := fractionValue_bounds fg.a
    have hB := fractionValue_bounds bg.a
    rw [alphaOnto]
    nlinarith

theorem alphaOnto_bounds {fg : Pixel} (h : fg.a ≠ 0) (bg : Pixel) :
    0 ≤ alphaOnto fg bg ∧ alphaOnto fg bg ≤ 1 := by
  have hlow := (opacities h bg).low
  exact ⟨by linarith, (opacities h bg).le.2.2⟩

theorem colourOnto_bounds {fg : Pixel} (h : fg.a ≠ 0) (bg : Pixel) (f b : UInt8) :
    0 ≤ colourOnto fg bg f b ∧ colourOnto fg bg f b ≤ 1 := by
  obtain ⟨hnonneg, hseen⟩ :=
    (opacities h bg).seen_bounds (fractionValue_bounds f) (fractionValue_bounds b)
  exact ⟨div_nonneg hnonneg (alphaOnto_bounds h bg).1,
    div_le_one_of_le₀ hseen (alphaOnto_bounds h bg).1⟩

/-- **A translucent pixel is composed with the one below it nearly as it should be.** -/
theorem near_blend {fg : Pixel} (h : fg.a ≠ 0) (bg : Pixel) :
    Near (255 * alphaOver (fraction fg.a) (fraction bg.a)) (255 * alphaOnto fg bg) (1 / 512) ∧
      ∀ f b, Near (255 * colourOver (fraction f) (fraction fg.a) (fraction b) (fraction bg.a)
        (alphaOver (fraction fg.a) (fraction bg.a))) (255 * colourOnto fg bg f b) (1 / 512) := by
  have hover := opacities h bg
  obtain ⟨hfg, hbg, hone⟩ := hover.le
  have hx := (near_fraction fg.a).mono (div_le_div_of_nonneg_right hfg (by norm_num))
  have hy := (near_fraction bg.a).mono (div_le_div_of_nonneg_right hbg (by norm_num))
  have hpart (c : UInt8) : Near (fraction c) (fractionValue c) (1 / 2 ^ 23) :=
    (near_fraction c).mono (div_le_div_of_nonneg_right (fractionValue_bounds c).2 (by norm_num))
  constructor
  · exact near_scaled ((near_alphaOver hover hx hy).mono (by linarith)) (alphaOnto_bounds h bg)
  · intro f b
    exact near_scaled (near_colourOver hover hx hy (hpart f) (hpart b) (fractionValue_bounds f)
      (fractionValue_bounds b)) (colourOnto_bounds h bg f b)

theorem cutOff_fractionValue (c : UInt8) : CutOff c (fractionValue c) := by
  have hwhole : 255 * fractionValue c = c.toNat := by
    rw [fractionValue]
    field_simp
  rw [CutOff, hwhole]
  constructor <;> linarith

/-- **The bytes of a pixel painted over another.**  They are those of the exact composition, cut
off, or nearly so; if both pixels are transparent, there is no colour to be seen. -/
theorem cutOff_onto {fg bg : Pixel} (h : fg.a ≠ 0 ∨ bg.a ≠ 0) :
    CutOff (fg.onto bg).r (colourOnto fg bg fg.r bg.r) ∧
      CutOff (fg.onto bg).g (colourOnto fg bg fg.g bg.g) ∧
      CutOff (fg.onto bg).b (colourOnto fg bg fg.b bg.b) ∧
      CutOff (fg.onto bg).a (alphaOnto fg bg) := by
  by_cases htransparent : fg.a = 0
  · have hbelow : fractionValue bg.a ≠ 0 := by
      have hone := one_le_of_ne_zero (h.resolve_left (not_not.2 htransparent))
      intro hzero
      rw [hzero] at hone
      norm_num at hone
    have hcolour (f b : UInt8) : colourOnto fg bg f b = fractionValue b := by
      simp [colourOnto, alphaOnto, htransparent, fractionValue_zero, hbelow]
    have halpha : alphaOnto fg bg = fractionValue bg.a := by
      simp [alphaOnto, htransparent, fractionValue_zero]
    simp only [onto_of_transparent htransparent, hcolour, halpha, cutOff_fractionValue, and_self]
  · by_cases hopaque : fg.a = 255
    · have hcolour (f b : UInt8) : colourOnto fg bg f b = fractionValue f := by
        simp [colourOnto, alphaOnto, hopaque, fractionValue_255]
      have halpha : alphaOnto fg bg = fractionValue fg.a := by
        simp [alphaOnto, hopaque, fractionValue_255]
      have hreplaced := onto_of_opaque hopaque bg
      simp only [hreplaced, hcolour, halpha, cutOff_fractionValue, and_self]
    · obtain ⟨halpha, hcolour⟩ := near_blend htransparent bg
      have hbounds := fun f b => colourOnto_bounds htransparent bg f b
      rw [onto, if_neg htransparent, if_neg hopaque]
      exact ⟨cutOff_toUInt8 (hcolour _ _) (hbounds _ _), cutOff_toUInt8 (hcolour _ _) (hbounds _ _),
        cutOff_toUInt8 (hcolour _ _) (hbounds _ _),
        cutOff_toUInt8 halpha (alphaOnto_bounds htransparent bg)⟩

end Pixel

end RemoteDisplay
