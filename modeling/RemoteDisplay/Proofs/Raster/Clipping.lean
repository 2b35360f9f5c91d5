/-
**Drawing over the edge of a canvas.**

To draw an image into a rectangle is to scale it to the rectangle and to paint it over the canvas,
leaving out what lies outside.  A canvas only scales the part of the image that lands on it.  The
two agree as long as along each axis the rectangle lies on the canvas, or the image has its length.
Then a larger canvas shows the same in the same place.

If the image is scaled along an axis and the rectangle reaches beyond the canvas there, they do not
agree: the part that is scaled begins and ends with whole pixels, and nothing beyond it is looked
at.

Main definitions:

* `RemoteDisplay.Image.drawWhole` — the whole image is scaled before anything is left out;
* `RemoteDisplay.Image.Undistorted` — along each axis, the rectangle lies on the canvas or nothing
  is scaled;
* `RemoteDisplay.Image.Corner` — a canvas is the upper left corner of another.

Main results:

* `RemoteDisplay.Image.Corner.drawWhole` — scaling the whole image, a larger canvas always shows the
  same;
* `RemoteDisplay.Image.Undistorted.draw_eq_drawWhole` — drawing is just that if nothing is
  distorted;
* `RemoteDisplay.Image.corner_draw` — **then a larger canvas shows the same**;
* `RemoteDisplay.Image.not_corner_draw` — **otherwise it need not**.
-/
import RemoteDisplay.Proofs.Raster.Keeping

set_option relaxedAutoImplicit false
set_option autoImplicit false

namespace RemoteDisplay.Image

variable {small large canvas im : Image} {dest visible : Rect} {width height : UInt32} {x y : Nat}

/-! ### Drawing the whole image -/

/-- The image scaled to a rectangle as a whole and painted over a canvas; what lies outside is left
out.  An image without pixels draws nothing. -/
def drawWhole (canvas im : Image) (dest : Rect) : Image :=
  if im.width = 0 ∨ im.height = 0 then canvas
  else canvas.paintAt (im.resize dest.width dest.height) dest.left dest.top

/-- The pixel that is painted over pixel `(x, y)` when the whole image is scaled, if any is. -/
def whole? (im : Image) (dest : Rect) (x y : Nat) : Option Pixel :=
  if im.width = 0 ∨ im.height = 0 then none
  else (im.resize dest.width dest.height).shifted? dest.left dest.top x y

theorem pixel?_drawWhole (canvas im : Image) (dest : Rect) (x y : Nat) :
    (canvas.drawWhole im dest).pixel? x y =
      (canvas.pixel? x y).map fun old => old.under (im.whole? dest x y) := by
  unfold drawWhole whole?
  split
  · simp
  · exact pixel?_paintAt_eq_under _ _ _ _ _ _

theorem size_drawWhole (canvas im : Image) (dest : Rect) :
    (canvas.drawWhole im dest).width = canvas.width ∧
      (canvas.drawWhole im dest).height = canvas.height := by
  unfold drawWhole
  split <;> exact ⟨rfl, rfl⟩

theorem whole?_eq_none (h : ¬ dest.Contains x y) : im.whole? dest x y = none := by
  unfold whole?
  split
  · rfl
  · exact shifted?_eq_none (width_resize _ _ _) (height_resize _ _ _) h

/-! ### What is visible of an image -/

theorem sourceColumns_eq (h : dest.Clipped width height visible) (n : UInt32) :
    dest.sourceColumns visible n = sourceSpan 0 visible.width dest.width n := by
  rw [Rect.sourceColumns, h.left, UInt32.sub_self, h.width_eq]

theorem sourceRows_eq (h : dest.Clipped width height visible) (n : UInt32) :
    dest.sourceRows visible n = sourceSpan 0 visible.height dest.height n := by
  rw [Rect.sourceRows, h.top, UInt32.sub_self, h.height_eq]

/-- If all of a rectangle is visible along an axis, so is all of the image. -/
theorem sourceColumns_of_inside (h : dest.Clipped width height visible)
    (hright : dest.right ≤ width) (hwidth : im.width ≠ 0) :
    dest.sourceColumns visible im.width = ⟨0, im.width⟩ ∧ visible.width = dest.width := by
  have hsame : visible.width = dest.width := by
    rw [← UInt32.toNat_inj, Rect.toNat_width, Rect.toNat_width, h.right, h.left]
    have hright' := UInt32.le_iff_toNat_le.1 hright
    omega
  rw [sourceColumns_eq h, hsame]
  refine ⟨sourceSpan_full ?_ (UInt32.lt_iff_toNat_lt.1 (UInt32.pos_iff_ne_zero.2 hwidth)), rfl⟩
  rw [← hsame]
  exact h.toNat_width.1

theorem sourceRows_of_inside (h : dest.Clipped width height visible)
    (hbottom : dest.bottom ≤ height) (hheight : im.height ≠ 0) :
    dest.sourceRows visible im.height = ⟨0, im.height⟩ ∧ visible.height = dest.height := by
  have hsame : visible.height = dest.height := by
    rw [← UInt32.toNat_inj, Rect.toNat_height, Rect.toNat_height, h.bottom, h.top]
    have hbottom' := UInt32.le_iff_toNat_le.1 hbottom
    omega
  rw [sourceRows_eq h, hsame]
  refine ⟨sourceSpan_full ?_ (UInt32.lt_iff_toNat_lt.1 (UInt32.pos_iff_ne_zero.2 hheight)), rfl⟩
  rw [← hsame]
  exact h.toNat_height.1

/-- Of an image that is not scaled along an axis, as many pixels are visible as of its rectangle. -/
theorem sourceColumns_of_unscaled (h : dest.Clipped width height visible)
    (hwidth : im.width = dest.width) :
    dest.sourceColumns visible im.width = ⟨0, visible.width⟩ := by
  rw [sourceColumns_eq h, hwidth]
  exact (sourceSpan_unscaled (by simpa using h.toNat_width.1) h.toNat_width.2).trans
    (by rw [UInt32.sub_zero])

theorem sourceRows_of_unscaled (h : dest.Clipped width height visible)
    (hheight : im.height = dest.height) :
    dest.sourceRows visible im.height = ⟨0, visible.height⟩ := by
  rw [sourceRows_eq h, hheight]
  exact (sourceSpan_unscaled (by simpa using h.toNat_height.1) h.toNat_height.2).trans
    (by rw [UInt32.sub_zero])

/-- What a canvas of the given size shows of an image in a rectangle is part of what the whole image
would show there: along each axis either all of the rectangle is on the canvas, or nothing is
scaled. -/
inductive Undistorted (width height : UInt32) (im : Image) (dest : Rect) : Prop
  /-- The rectangle lies on the canvas. -/
  | inside (hright : dest.right ≤ width) (hbottom : dest.bottom ≤ height)
  /-- The image has the size of the rectangle. -/
  | unscaled (hwidth : im.width = dest.width) (hheight : im.height = dest.height)
  /-- Rows are left out, of an image as high as the rectangle. -/
  | rows (hright : dest.right ≤ width) (hheight : im.height = dest.height)
      (hshort : im.height.toNat ≤ 2 ^ 21)
  /-- Columns are left out, of an image as wide as the rectangle. -/
  | columns (hbottom : dest.bottom ≤ height) (hwidth : im.width = dest.width)
      (hshort : im.width.toNat ≤ 2 ^ 21)

/-- A larger canvas distorts no more. -/
theorem Undistorted.mono {width' height' : UInt32} (h : Undistorted width height im dest)
    (hwidth : width ≤ width') (hheight : height ≤ height') :
    Undistorted width' height' im dest := by
  cases h with
  | inside hright hbottom =>
    exact .inside (UInt32.le_trans hright hwidth) (UInt32.le_trans hbottom hheight)
  | unscaled hwidth hheight => exact .unscaled hwidth hheight
  | rows hright hheight hshort => exact .rows (UInt32.le_trans hright hwidth) hheight hshort
  | columns hbottom hwidth hshort =>
    exact .columns (UInt32.le_trans hbottom hheight) hwidth hshort

/-- The visible part of an image that is not scaled. -/
theorem pixel?_visiblePart_of_unscaled (h : dest.Clipped width height visible)
    (hwidth : im.width = dest.width) (hheight : im.height = dest.height)
    (hx : x < visible.width.toNat) (hy : y < visible.height.toNat) :
    (im.visiblePart dest visible).pixel? x y = (im.resize dest.width dest.height).pixel? x y := by
  have hwhole : im.resize dest.width dest.height = im := if_pos ⟨hwidth, hheight⟩
  have hpart : im.visiblePart dest visible = im.crop 0 0 visible.width visible.height := by
    simp only [visiblePart, part, sourceColumns_of_unscaled h hwidth,
      sourceRows_of_unscaled h hheight]
    exact if_pos ⟨rfl, rfl⟩
  rw [hpart, hwhole, pixel?_crop_corner (by rw [hwidth]; exact h.toNat_width.2)
    (by rw [hheight]; exact h.toNat_height.2), if_pos ⟨hx, hy⟩]

/-- The visible part of an image is made like the whole. -/
theorem Undistorted.pixel?_visiblePart (hdest : Undistorted width height im dest)
    (h : dest.Clipped width height visible) (hwidth : im.width ≠ 0) (hheight : im.height ≠ 0)
    (hx : x < visible.width.toNat) (hy : y < visible.height.toNat) :
    (im.visiblePart dest visible).pixel? x y = (im.resize dest.width dest.height).pixel? x y := by
  have hpos := UInt32.lt_iff_toNat_lt.1 (UInt32.pos_iff_ne_zero.2 hwidth)
  have hpos' := UInt32.lt_iff_toNat_lt.1 (UInt32.pos_iff_ne_zero.2 hheight)
  cases hdest with
  | inside hright hbottom =>
    obtain ⟨hcolumns, hsame⟩ := sourceColumns_of_inside h hright hwidth
    obtain ⟨hrows, hsame'⟩ := sourceRows_of_inside h hbottom hheight
    simp only [visiblePart, part, hcolumns, hrows, crop_whole, hsame, hsame']
  | unscaled hwidth' hheight' => exact pixel?_visiblePart_of_unscaled h hwidth' hheight' hx hy
  | rows hright hheight' hshort =>
    obtain ⟨hcolumns, hsame⟩ := sourceColumns_of_inside h hright hwidth
    by_cases hunscaled : im.width = dest.width
    · exact pixel?_visiblePart_of_unscaled h hunscaled hheight' hx hy
    · have hle := h.toNat_height.2
      rw [← hheight'] at hle ⊢
      rw [hsame] at hx
      simp only [visiblePart, part, hcolumns, sourceRows_of_unscaled h hheight', hsame]
      exact pixel?_resize_crop_rows hshort hpos hunscaled hle hx hy
  | columns hbottom hwidth' hshort =>
    obtain ⟨hrows, hsame⟩ := sourceRows_of_inside h hbottom hheight
    by_cases hunscaled : im.height = dest.height
    · exact pixel?_visiblePart_of_unscaled h hwidth' hunscaled hx hy
    · have hle := h.toNat_width.2
      rw [← hwidth'] at hle ⊢
      rw [hsame] at hy
      simp only [visiblePart, part, hrows, sourceColumns_of_unscaled h hwidth', hsame]
      exact pixel?_resize_crop_columns hshort hpos' hunscaled hle hx hy

/-! ### Where drawing scales the whole image -/

/-- A part of an image that has its pixels shows them where they are visible: a pixel of the canvas
that is not visible lies outside the rectangle. -/
theorem shifted?_eq_of_pixel? {made whole : Image} (h : dest.Clipped width height visible)
    (hmade : made.width = visible.width ∧ made.height = visible.height)
    (hwhole : whole.width = dest.width ∧ whole.height = dest.height)
    (hx : x < width.toNat) (hy : y < height.toNat)
    (hpixel : ∀ x y, x < visible.width.toNat → y < visible.height.toNat →
      made.pixel? x y = whole.pixel? x y) :
    made.shifted? dest.left dest.top x y = whole.shifted? dest.left dest.top x y := by
  unfold shifted?
  split
  next hcorner =>
    by_cases hvisible :
      x - dest.left.toNat < visible.width.toNat ∧ y - dest.top.toNat < visible.height.toNat
    · exact hpixel _ _ hvisible.1 hvisible.2
    · rw [(pixel?_eq_none_iff _ _ _).2 (by rw [hmade.1, hmade.2]; exact hvisible)]
      symm
      rw [pixel?_eq_none_iff, hwhole.1, hwhole.2]
      simp only [Rect.toNat_width, Rect.toNat_height, h.right, h.bottom, h.left, h.top]
        at hvisible ⊢
      omega
  · rfl

/-- A draw paints what the whole image paints, as long as nothing is distorted. -/
theorem Undistorted.drawn?_eq_whole? (h : Undistorted width height im dest) (hx : x < width.toNat)
    (hy : y < height.toNat) : im.drawn? dest width height x y = im.whole? dest x y := by
  by_cases hcontains : dest.Contains x y
  · by_cases hempty : im.width = 0 ∨ im.height = 0
    · rcases hempty with hzero | hzero <;> simp [drawn?, whole?, hzero]
    · rw [whole?, if_neg hempty]
      obtain ⟨hwidth, hheight⟩ := not_or.1 hempty
      cases hclip : dest.clip width height with
      | none => exact absurd hcontains (Rect.not_contains_of_clip_eq_none hclip hx hy)
      | some visible =>
        have hvisible := Rect.clipped_of_clip hclip
        rw [drawn?_eq_shifted? hclip hwidth hheight]
        exact shifted?_eq_of_pixel? hvisible ⟨width_resize _ _ _, height_resize _ _ _⟩
          ⟨width_resize _ _ _, height_resize _ _ _⟩ hx hy
          fun x y => h.pixel?_visiblePart hvisible hwidth hheight
  · rw [drawn?_eq_none hcontains, whole?_eq_none hcontains]

/-- Drawing scales the whole image, as long as nothing is distorted. -/
theorem Undistorted.draw_eq_drawWhole (h : Undistorted canvas.width canvas.height im dest) :
    canvas.draw im dest = canvas.drawWhole im dest := by
  obtain ⟨hwidth, hheight⟩ := Canvas.size_draw canvas im dest
  obtain ⟨hwidth', hheight'⟩ := size_drawWhole canvas im dest
  refine ext_pixel? (hwidth.trans hwidth'.symm) (hheight.trans hheight'.symm) ?_
  intro x y hx hy
  rw [hwidth] at hx
  rw [hheight] at hy
  rw [pixel?_draw, pixel?_drawWhole, h.drawn?_eq_whole? hx hy]

/-! ### Smaller and larger canvases -/

/-- A canvas is the upper left corner of another one. -/
structure Corner (small large : Image) : Prop where
  width_le : small.width ≤ large.width
  height_le : small.height ≤ large.height
  pixels : ∀ x y, x < small.width.toNat → y < small.height.toNat →
    small.pixel? x y = large.pixel? x y

theorem corner_fill {width' height' : UInt32} (hwidth : width ≤ width') (hheight : height ≤ height')
    (p : Pixel) : Corner (fill width height p) (fill width' height' p) := by
  refine ⟨hwidth, hheight, ?_⟩
  intro x y hx hy
  have hx' : x < width'.toNat := Nat.lt_of_lt_of_le hx (UInt32.le_iff_toNat_le.1 hwidth)
  have hy' : y < height'.toNat := Nat.lt_of_lt_of_le hy (UInt32.le_iff_toNat_le.1 hheight)
  rw [pixel?_fill, pixel?_fill, if_pos ⟨hx, hy⟩, if_pos ⟨hx', hy'⟩]

/-- If the whole image is scaled, a larger canvas shows the same in the same place. -/
theorem Corner.drawWhole (h : Corner small large) (im : Image) (dest : Rect) :
    Corner (small.drawWhole im dest) (large.drawWhole im dest) := by
  obtain ⟨hwidth, hheight⟩ := size_drawWhole small im dest
  obtain ⟨hwidth', hheight'⟩ := size_drawWhole large im dest
  refine ⟨?_, ?_, ?_⟩
  · rw [hwidth, hwidth']
    exact h.width_le
  · rw [hheight, hheight']
    exact h.height_le
  · intro x y hx hy
    rw [hwidth] at hx
    rw [hheight] at hy
    rw [pixel?_drawWhole, pixel?_drawWhole, h.pixels x y hx hy]

/-- **A larger canvas shows the same in the same place** if along each axis the rectangle lies on
the smaller one or the image is not scaled; and what both show is the whole image, scaled to the
rectangle. -/
theorem corner_draw (h : Corner small large)
    (hdest : Undistorted small.width small.height im dest) :
    Corner (small.draw im dest) (large.draw im dest) ∧
      small.draw im dest = small.drawWhole im dest ∧
      large.draw im dest = large.drawWhole im dest := by
  have hsmall := hdest.draw_eq_drawWhole
  have hlarge := (hdest.mono h.width_le h.height_le).draw_eq_drawWhole
  refine ⟨?_, hsmall, hlarge⟩
  rw [hsmall, hlarge]
  exact h.drawWhole im dest

/-- Two pixels drawn over the edge of a canvas of three, and onto one of four; and two rows drawn at
twice their width, of which a canvas of one row shows the first. -/
theorem corner_draw_small :
    let im : Image := ⟨2, 1, #[⟨255, 0, 0, 255⟩, ⟨0, 0, 255, 255⟩], rfl⟩
    let dest : Rect := ⟨2, 0, 4, 1⟩
    let small : Image := .fill 3 1 .clear
    let large : Image := .fill 4 1 .clear
    let tall : Image := ⟨2, 2, #[⟨255, 0, 0, 255⟩, ⟨0, 0, 255, 255⟩, .clear, .clear], rfl⟩
    let wide : Rect := ⟨0, 0, 4, 2⟩
    let square : Image := .fill 4 4 .clear
    Corner small large ∧ im.width = dest.width ∧ im.height = dest.height ∧
      Corner (small.draw im dest) (large.draw im dest) ∧
      (small.draw im dest).pixel? 2 0 = some ⟨255, 0, 0, 255⟩ ∧
      Corner large square ∧ wide.right ≤ large.width ∧ tall.height = wide.height ∧
      Corner (large.draw tall wide) (square.draw tall wide) ∧
      (large.draw tall wide).pixel? 1 0 = some ⟨191, 0, 64, 255⟩ := by
  intro im dest small large tall wide square
  have hcorner : Corner small large := corner_fill (by decide) (by decide) _
  have hunscaled : im.width = dest.width ∧ im.height = dest.height := by decide
  obtain ⟨hdraw, -, -⟩ := corner_draw hcorner (.unscaled hunscaled.1 hunscaled.2)
  have hcorner' : Corner large square := corner_fill (by decide) (by decide) _
  have hright : wide.right ≤ large.width := by decide
  have hheight : tall.height = wide.height := by decide
  obtain ⟨hdraw', -, -⟩ := corner_draw hcorner' (.rows hright hheight (by decide))
  exact ⟨hcorner, hunscaled.1, hunscaled.2, hdraw, by decide +kernel, hcorner', hright, hheight,
    hdraw', by decide +kernel⟩

/-- **A scaled image may look different on a larger canvas.**  Two pixels are drawn over four; a
canvas of three pixels takes both of them for its part and shows the second one too soon. -/
theorem not_corner_draw :
    let im : Image := ⟨2, 1, #[⟨255, 0, 0, 255⟩, ⟨0, 0, 255, 255⟩], rfl⟩
    let dest : Rect := ⟨0, 0, 4, 1⟩
    let small : Image := .fill 3 1 .clear
    let large : Image := .fill 4 1 .clear
    Corner small large ∧ ¬ Corner (small.draw im dest) (large.draw im dest) ∧
      (small.draw im dest).pixel? 2 0 = some ⟨0, 0, 255, 255⟩ ∧
      (large.draw im dest).pixel? 2 0 = some ⟨64, 0, 191, 255⟩ ∧
      (small.drawWhole im dest).pixel? 2 0 = some ⟨64, 0, 191, 255⟩ := by
  intro im dest small large
  have hcorner : Corner small large := corner_fill (by decide) (by decide) _
  have hsmall : (small.draw im dest).pixel? 2 0 = some ⟨0, 0, 255, 255⟩ := by decide +kernel
  have hlarge : (large.draw im dest).pixel? 2 0 = some ⟨64, 0, 191, 255⟩ := by decide +kernel
  have hwhole : (small.drawWhole im dest).pixel? 2 0 = some ⟨64, 0, 191, 255⟩ := by decide +kernel
  refine ⟨hcorner, ?_, hsmall, hlarge, hwhole⟩
  intro hdraw
  have hpixel := hdraw.pixels 2 0 (by decide +kernel) (by decide +kernel)
  rw [hsmall, hlarge] at hpixel
  exact absurd hpixel (by decide)

end RemoteDisplay.Image
