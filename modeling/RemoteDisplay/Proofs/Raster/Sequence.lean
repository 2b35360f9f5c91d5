/-
**Several draws, one after another.**

A pixel of the canvas is only changed by the draws whose rectangles contain it, one after another in
the order in which they are made; the others may be left out.

Main definitions:

* `RemoteDisplay.Image.drawAll` — several draws on an image, one after another;
* `RemoteDisplay.Canvas.drawAll` — several draws on a canvas.

Main results:

* `RemoteDisplay.Image.pixel?_drawAll` — a pixel sees the draws whose rectangles contain it, in
  order.
-/
import RemoteDisplay.Proofs.Raster.Locality

set_option relaxedAutoImplicit false
set_option autoImplicit false

namespace RemoteDisplay

namespace Image

/-- An image with several draws painted over it, one after another. -/
def drawAll (im : Image) (draws : List Draw) : Image :=
  draws.foldl (fun im d => im.draw d.image d.dest) im

theorem size_drawAll (im : Image) (draws : List Draw) :
    (im.drawAll draws).width = im.width ∧ (im.drawAll draws).height = im.height := by
  induction draws generalizing im with
  | nil => exact ⟨rfl, rfl⟩
  | cons d draws ih =>
    obtain ⟨hwidth, hheight⟩ := Canvas.size_draw im d.image d.dest
    obtain ⟨hwidth', hheight'⟩ := ih (im.draw d.image d.dest)
    exact ⟨hwidth'.trans hwidth, hheight'.trans hheight⟩

/-- A pixel sees the draws whose rectangles contain it, in order, and no others. -/
theorem pixel?_drawAll (im : Image) (draws : List Draw) (x y : Nat) :
    (im.drawAll draws).pixel? x y =
      (im.pixel? x y).map fun old =>
        (draws.filter fun d => d.dest.Contains x y).foldl
          (fun p d => p.under (d.image.drawn? d.dest im.width im.height x y)) old := by
  induction draws generalizing im with
  | nil => simp [drawAll]
  | cons d draws ih =>
    obtain ⟨hwidth, hheight⟩ := Canvas.size_draw im d.image d.dest
    have hcons : im.drawAll (d :: draws) = (im.draw d.image d.dest).drawAll draws := rfl
    rw [hcons, ih, pixel?_draw, hwidth, hheight, Option.map_map]
    congr
    funext old
    by_cases hcontains : d.dest.Contains x y
    · simp [hcontains]
    · simp [hcontains, drawn?_eq_none hcontains]

end Image

namespace Canvas

/-- The canvas after several draws, one after another. -/
def drawAll (c : Canvas) (draws : List Draw) : Canvas := draws.foldl draw c

theorem image?_drawAll (c : Canvas) (draws : List Draw) :
    (c.drawAll draws).image? = c.image?.map fun im => im.drawAll draws := by
  induction draws generalizing c with
  | nil => simp [drawAll, Image.drawAll]
  | cons d draws ih =>
    have hcons : c.drawAll (d :: draws) = (c.draw d).drawAll draws := rfl
    rw [hcons, ih, image?_draw, Option.map_map]
    rfl

theorem geometry_of_image? {c : Canvas} {im : Image} (h : c.image? = some im) :
    c.geometry.width = im.width ∧ c.geometry.height = im.height := by
  cases c with
  | blank g => cases h; exact ⟨rfl, rfl⟩
  | framebuffer im' bbox => cases h; exact ⟨rfl, rfl⟩
  | recorder g drawable records => cases h

end Canvas

end RemoteDisplay
