/-
**Drawing works pixel by pixel.**

What a draw does to a pixel of the canvas depends on the old value of that pixel, on the image, the
rectangle and the size of the canvas, and on nothing else; no other pixel of the canvas is looked
at.  A pixel outside the rectangle keeps its value.

Main definitions:

* `RemoteDisplay.Pixel.under` — a pixel after something has been painted over it, or nothing;
* `RemoteDisplay.Image.shifted?` — the pixels of an image that has been moved;
* `RemoteDisplay.Image.drawn?` — the pixel that a draw paints over a pixel of the canvas.

Main results:

* `RemoteDisplay.Image.ext_pixel?` — images of the same size with the same pixels are the same;
* `RemoteDisplay.Image.pixel?_draw` — **one pixel after a draw**;
* `RemoteDisplay.Image.drawn?_eq_none` — nothing is painted outside the rectangle.
-/
import RemoteDisplay.Canvas
import RemoteDisplay.Proofs.Raster.Span

set_option relaxedAutoImplicit false
set_option autoImplicit false

namespace RemoteDisplay

/-- A pixel after another has been painted over it, if there is another. -/
def Pixel.under (old : Pixel) : Option Pixel → Pixel
  | some p => p.onto old
  | none => old

@[simp] theorem Pixel.under_none (old : Pixel) : old.under none = old := rfl

namespace Image

/-! ### Images and their pixels -/

/-- Images of the same size with the same pixels are the same. -/
theorem ext_pixel? {a b : Image} (hwidth : a.width = b.width) (hheight : a.height = b.height)
    (h : ∀ x y, x < a.width.toNat → y < a.height.toNat → a.pixel? x y = b.pixel? x y) : a = b := by
  have hpixels : a.pixels = b.pixels := by
    refine Array.ext (by rw [a.size_pixels, b.size_pixels, hwidth, hheight]) ?_
    intro i hi hi'
    -- the pixel in place `i` is in column `i % width` of row `i / width`
    have hplace : i / a.width.toNat * a.width.toNat + i % a.width.toNat = i := Nat.div_add_mod' i _
    have hlt : i < a.width.toNat * a.height.toNat := by rwa [← a.size_pixels]
    have hpos : 0 < a.width.toNat := Nat.pos_of_mul_pos_right (Nat.zero_lt_of_lt hlt)
    have hx : i % a.width.toNat < a.width.toNat := Nat.mod_lt i hpos
    have hy : i / a.width.toNat < a.height.toNat := Nat.div_lt_of_lt_mul hlt
    have hpixel := h _ _ hx hy
    rw [pixel?, pixel?, dif_pos ⟨hx, hy⟩, dif_pos ⟨hwidth ▸ hx, hheight ▸ hy⟩] at hpixel
    simpa only [← hwidth, hplace, Option.some.injEq] using hpixel
  cases a
  cases b
  simp only [mk.injEq]
  exact ⟨hwidth, hheight, hpixels⟩

variable {im canvas : Image} {dest r : Rect} {width height : UInt32} {x y : Nat}

theorem pixel?_eq_pixelD (hx : x < im.width.toNat) (hy : y < im.height.toNat) :
    im.pixel? x y = some (im.pixelD x y) := by
  have hsome : im.pixel? x y ≠ none := by
    rw [ne_eq, pixel?_eq_none_iff, Classical.not_not]
    exact ⟨hx, hy⟩
  obtain ⟨p, hp⟩ := Option.ne_none_iff_exists'.1 hsome
  simp [pixelD, hp]

/-- The upper left corner of an image has its pixels. -/
theorem pixel?_crop_corner (hwidth : width.toNat ≤ im.width.toNat)
    (hheight : height.toNat ≤ im.height.toNat) :
    (im.crop 0 0 width height).pixel? x y =
      if x < width.toNat ∧ y < height.toNat then im.pixel? x y else none := by
  rw [crop, pixel?_ofFn]
  split
  next hlt =>
    rw [pixel?_eq_pixelD (by omega) (by omega)]
    simp
  · rfl

theorem crop_whole (im : Image) : im.crop 0 0 im.width im.height = im := by
  refine ext_pixel? rfl rfl ?_
  intro x y hx hy
  rw [pixel?_crop_corner (Nat.le_refl _) (Nat.le_refl _), if_pos ⟨hx, hy⟩]

/-- The pixel at `(x, y)` of an image that has been moved right and down, if it has one there. -/
def shifted? (im : Image) (left top : UInt32) (x y : Nat) : Option Pixel :=
  if left.toNat ≤ x ∧ top.toNat ≤ y then im.pixel? (x - left.toNat) (y - top.toNat) else none

/-- An image that fills a rectangle has no pixel outside it. -/
theorem shifted?_eq_none (hwidth : im.width = r.width) (hheight : im.height = r.height)
    (h : ¬ r.Contains x y) : im.shifted? r.left r.top x y = none := by
  unfold shifted?
  split
  next hcorner =>
    rw [pixel?_eq_none_iff, hwidth, hheight, Rect.toNat_width, Rect.toNat_height]
    simp only [Rect.Contains] at h
    omega
  · rfl

theorem pixel?_paintAt_eq_under (canvas im : Image) (left top : UInt32) (x y : Nat) :
    (canvas.paintAt im left top).pixel? x y =
      (canvas.pixel? x y).map fun old => old.under (im.shifted? left top x y) := by
  rw [pixel?_paintAt]
  congr
  funext old
  unfold shifted?
  split
  · cases im.pixel? (x - left.toNat) (y - top.toNat) <;> rfl
  · rfl

/-! ### One pixel of a draw -/

/-- The pixel that is painted over pixel `(x, y)` of a canvas of the given size when an image is
drawn into a rectangle, if any is. -/
def drawn? (im : Image) (dest : Rect) (width height : UInt32) (x y : Nat) : Option Pixel :=
  if dest.isEmpty || im.width == 0 || im.height == 0 then none
  else
    (dest.clip width height).bind fun visible =>
      (im.visiblePart dest visible).shifted? visible.left visible.top x y

/-- **One pixel after a draw** is the old one with one pixel painted over it, or none; which one
does not depend on any pixel of the canvas. -/
theorem pixel?_draw (canvas im : Image) (dest : Rect) (x y : Nat) :
    (canvas.draw im dest).pixel? x y =
      (canvas.pixel? x y).map fun old =>
        old.under (im.drawn? dest canvas.width canvas.height x y) := by
  unfold draw drawn?
  split
  · simp
  · cases dest.clip canvas.width canvas.height with
    | none => simp
    | some visible => exact pixel?_paintAt_eq_under _ _ _ _ _ _

theorem drawn?_eq_shifted? {visible : Rect} (hclip : dest.clip width height = some visible)
    (hwidth : im.width ≠ 0) (hheight : im.height ≠ 0) :
    im.drawn? dest width height x y =
      (im.visiblePart dest visible).shifted? dest.left dest.top x y := by
  have hvisible := Rect.clipped_of_clip hclip
  simp [drawn?, hvisible.not_isEmpty, hwidth, hheight, hclip, hvisible.left, hvisible.top]

theorem drawn?_eq_none (h : ¬ dest.Contains x y) : im.drawn? dest width height x y = none := by
  unfold drawn?
  split
  · rfl
  · cases hclip : dest.clip width height with
    | none => rfl
    | some visible =>
      have hvisible := Rect.clipped_of_clip hclip
      have houtside : ¬ visible.Contains x y := fun hcontains => h (hvisible.contains hcontains)
      exact shifted?_eq_none (width_resize _ _ _) (height_resize _ _ _) houtside

end Image

end RemoteDisplay
