/-
**What a draw composites.**

A draw changes no pixel outside its rectangle.  Inside it, as far as the canvas reaches, each pixel
has one pixel composited over it, once; and that pixel is the one in its place of the visible part
of the image, whether this part had to be scaled or not.  So it is known from the image, the
rectangle and the size of the canvas, before anything is known of the pixels of the canvas.

Main definitions:

* `RemoteDisplay.Image.source` — the pixel that a draw composites over a pixel of the canvas.

Main results:

* `RemoteDisplay.Image.exists_visible` — what is visible of an image covers the rectangle, as far as
  the canvas reaches;
* `RemoteDisplay.Image.pixel?_draw_eq_source` — one pixel after a draw;
* `RemoteDisplay.Image.draw_composites` — **a draw composites one pixel over each pixel of its
  rectangle**, and does nothing else.
-/
import RemoteDisplay.Proofs.Raster.Locality

set_option relaxedAutoImplicit false
set_option autoImplicit false

namespace RemoteDisplay.Image

variable {im : Image} {dest : Rect} {width height : UInt32} {x y : Nat}

/-- The pixel that is composited over pixel `(x, y)` of a canvas of the given size when an image is
drawn into a rectangle; transparent where there is none. -/
def source (im : Image) (dest : Rect) (width height : UInt32) (x y : Nat) : Pixel :=
  (im.drawn? dest width height x y).getD .clear

/-- An image draws something into a rectangle at a pixel: it has pixels, and the rectangle contains
this one. -/
def Reaches (im : Image) (dest : Rect) (x y : Nat) : Prop :=
  im.width ≠ 0 ∧ im.height ≠ 0 ∧ dest.Contains x y

instance (im : Image) (dest : Rect) (x y : Nat) : Decidable (im.Reaches dest x y) :=
  inferInstanceAs (Decidable (_ ∧ _ ∧ _))

theorem drawn?_of_not_reaches (h : ¬ im.Reaches dest x y) :
    im.drawn? dest width height x y = none := by
  by_cases hwidth : im.width = 0
  · simp [drawn?, hwidth]
  · by_cases hheight : im.height = 0
    · simp [drawn?, hheight]
    · exact drawn?_eq_none fun hcontains => h ⟨hwidth, hheight, hcontains⟩

/-- Wherever a draw reaches a pixel of the canvas, what is visible of the image has a pixel in its
place. -/
theorem exists_visible (h : im.Reaches dest x y) (hx : x < width.toNat) (hy : y < height.toNat) :
    ∃ visible p, dest.clip width height = some visible ∧
      (im.visiblePart dest visible).pixel? (x - dest.left.toNat) (y - dest.top.toNat) = some p ∧
      im.drawn? dest width height x y = some p := by
  obtain ⟨hwidth, hheight, hcontains⟩ := h
  cases hclip : dest.clip width height with
  | none => exact absurd hcontains (Rect.not_contains_of_clip_eq_none hclip hx hy)
  | some visible =>
    have hvisible := Rect.clipped_of_clip hclip
    obtain ⟨hleft, hright, htop, hbottom⟩ := hcontains
    have hpixel : (im.visiblePart dest visible).pixel? (x - dest.left.toNat)
        (y - dest.top.toNat) ≠ none := by
      rw [ne_eq, pixel?_eq_none_iff, Classical.not_not, visiblePart, width_resize, height_resize,
        Rect.toNat_width, Rect.toNat_height, hvisible.left, hvisible.top, hvisible.right,
        hvisible.bottom]
      omega
    obtain ⟨p, hp⟩ := Option.ne_none_iff_exists'.1 hpixel
    refine ⟨visible, p, rfl, hp, ?_⟩
    rw [drawn?_eq_shifted? hclip hwidth hheight, shifted?, if_pos ⟨hleft, htop⟩, hp]

/-- A pixel after a draw: one pixel is composited over it if the draw reaches it. -/
theorem pixel?_draw_eq_source (canvas im : Image) (dest : Rect) (x y : Nat) :
    (canvas.draw im dest).pixel? x y =
      (canvas.pixel? x y).map fun old =>
        if im.Reaches dest x y then (im.source dest canvas.width canvas.height x y).onto old
        else old := by
  rw [pixel?_draw]
  by_cases hinside : x < canvas.width.toNat ∧ y < canvas.height.toNat
  · by_cases hreaches : im.Reaches dest x y
    · obtain ⟨visible, p, -, -, hdrawn⟩ := exists_visible hreaches hinside.1 hinside.2
      simp [source, hdrawn, hreaches, Pixel.under]
    · simp [drawn?_of_not_reaches hreaches, hreaches]
  · rw [(pixel?_eq_none_iff canvas x y).2 hinside]
    rfl

/-- **A draw composites one pixel over each pixel of its rectangle**, as far as the canvas reaches,
and does nothing else: the canvas keeps its size, and its other pixels; all of them if the image has
none.  What is composited is the pixel in this place of the visible part of the image.  It does not
depend on the pixels of the canvas; if it is opaque, it is what is seen afterwards, and if it is
transparent, nothing is changed. -/
theorem draw_composites (canvas im : Image) (dest : Rect) :
    let after := canvas.draw im dest
    let source := im.source dest canvas.width canvas.height
    after.width = canvas.width ∧ after.height = canvas.height ∧
      ∀ x y old, canvas.pixel? x y = some old →
        (im.width = 0 ∨ im.height = 0 ∨ ¬ dest.Contains x y → after.pixel? x y = some old) ∧
        (im.width ≠ 0 → im.height ≠ 0 → dest.Contains x y →
          after.pixel? x y = some ((source x y).onto old) ∧
          ((source x y).a = 255 → after.pixel? x y = some (source x y)) ∧
          ((source x y).a = 0 → after.pixel? x y = some old) ∧
          ∃ visible, dest.clip canvas.width canvas.height = some visible ∧
            (im.visiblePart dest visible).pixel? (x - dest.left.toNat) (y - dest.top.toNat) =
              some (source x y)) := by
  intro after source
  obtain ⟨hwidth, hheight⟩ := Canvas.size_draw canvas im dest
  refine ⟨hwidth, hheight, ?_⟩
  intro x y old hold
  have hpixel : after.pixel? x y =
      some (if im.Reaches dest x y then (source x y).onto old else old) := by
    rw [pixel?_draw_eq_source, hold, Option.map_some]
  constructor
  · intro hout
    have hreaches : ¬ im.Reaches dest x y := by
      rintro ⟨hw, hh, hcontains⟩
      rcases hout with hzero | hzero | hcontains'
      · exact hw hzero
      · exact hh hzero
      · exact hcontains' hcontains
    rw [hpixel, if_neg hreaches]
  · intro hw hh hcontains
    have hreaches : im.Reaches dest x y := ⟨hw, hh, hcontains⟩
    rw [if_pos hreaches] at hpixel
    obtain ⟨hx, hy⟩ : x < canvas.width.toNat ∧ y < canvas.height.toNat := by
      have hsome : canvas.pixel? x y ≠ none := by simp [hold]
      rwa [ne_eq, pixel?_eq_none_iff, Classical.not_not] at hsome
    obtain ⟨visible, p, hclip, hp, hdrawn⟩ := exists_visible hreaches hx hy
    have hsource : source x y = p := by simp [source, Image.source, hdrawn]
    refine ⟨hpixel, ?_, ?_, visible, hclip, ?_⟩
    · intro hopaque
      rw [hpixel, Pixel.onto_of_opaque hopaque]
    · intro htransparent
      rw [hpixel, Pixel.onto_of_transparent htransparent]
    · rw [hp, hsource]

/-- An opaque and a transparent pixel are drawn over the right edge of a canvas of three: the first
one replaces the last pixel of the row, and nothing else is changed. -/
theorem draw_composites_small :
    let canvas : Image := .fill 3 1 ⟨9, 8, 7, 255⟩
    let im : Image := ⟨2, 1, #[⟨255, 0, 0, 255⟩, ⟨0, 0, 255, 0⟩], rfl⟩
    let dest : Rect := ⟨2, 0, 4, 1⟩
    canvas.pixel? 1 0 = some ⟨9, 8, 7, 255⟩ ∧ canvas.pixel? 2 0 = some ⟨9, 8, 7, 255⟩ ∧
      ¬ dest.Contains 1 0 ∧ dest.Contains 2 0 ∧ im.width ≠ 0 ∧ im.height ≠ 0 ∧
      (im.source dest 3 1 2 0).a = 255 ∧
      (canvas.draw im dest).pixel? 1 0 = some ⟨9, 8, 7, 255⟩ ∧
      (canvas.draw im dest).pixel? 2 0 = some (im.source dest 3 1 2 0) := by
  intro canvas im dest
  have hbefore : canvas.pixel? 1 0 = some ⟨9, 8, 7, 255⟩ := by decide
  have hbefore' : canvas.pixel? 2 0 = some ⟨9, 8, 7, 255⟩ := by decide
  have hout : ¬ dest.Contains 1 0 := by decide
  have hin : dest.Contains 2 0 := by decide
  have hwidth : im.width ≠ 0 := by decide
  have hheight : im.height ≠ 0 := by decide
  have hopaque : (im.source dest 3 1 2 0).a = 255 := by decide +kernel
  obtain ⟨-, -, hpixels⟩ := draw_composites canvas im dest
  have hunchanged := (hpixels 1 0 _ hbefore).1 (.inr (.inr hout))
  obtain ⟨-, hreplaced, -, -⟩ := (hpixels 2 0 _ hbefore').2 hwidth hheight hin
  exact ⟨hbefore, hbefore', hout, hin, hwidth, hheight, hopaque, hunchanged, hreplaced hopaque⟩

end RemoteDisplay.Image
