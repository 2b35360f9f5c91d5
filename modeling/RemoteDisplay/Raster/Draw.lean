/-
**Drawing an image into a rectangle.**

The image is scaled to the rectangle and painted over what is there; pixels outside the canvas are
left out.  Only the part of the image that lands on the canvas is scaled, so that what is painted is
never larger than the canvas.  On the way there the part is copied, and its columns are brought to
their height before there are any fewer of them.  If the part already has the size of the visible
rectangle, it is painted as it is.

A rectangle without pixels draws nothing, nor does an image without pixels.

Main definitions:

* `RemoteDisplay.Image.visiblePart` — the visible part of an image, scaled;
* `RemoteDisplay.Image.paintAt` — an image painted over another, from a corner on;
* `RemoteDisplay.Image.draw` — an image drawn into a rectangle of a canvas.

Main results:

* `RemoteDisplay.Image.pixel?_paintAt` — painting works pixel by pixel.
-/
import RemoteDisplay.Raster.Resample
import RemoteDisplay.Raster.Span

set_option relaxedAutoImplicit false
set_option autoImplicit false

namespace RemoteDisplay.Image

/-- The part of an image under the visible part of a rectangle. -/
def part (im : Image) (dest visible : Rect) : Image :=
  let columns := dest.sourceColumns visible im.width
  let rows := dest.sourceRows visible im.height
  im.crop columns.offset rows.offset columns.length rows.length

/-- The part of an image under the visible part of a rectangle, at the size of that part. -/
def visiblePart (im : Image) (dest visible : Rect) : Image :=
  (im.part dest visible).resize visible.width visible.height

/-- The image painted over a canvas, its corner at column `left` of row `top`. -/
def paintAt (canvas im : Image) (left top : UInt32) : Image :=
  canvas.mapPixels fun x y old =>
    if left.toNat ≤ x ∧ top.toNat ≤ y then
      match im.pixel? (x - left.toNat) (y - top.toNat) with
      | some p => p.onto old
      | none => old
    else old

/-- The image drawn into a rectangle of a canvas. -/
def draw (canvas im : Image) (dest : Rect) : Image :=
  if dest.isEmpty || im.width == 0 || im.height == 0 then canvas
  else
    match dest.clip canvas.width canvas.height with
    | none => canvas
    | some visible => canvas.paintAt (im.visiblePart dest visible) visible.left visible.top

theorem pixel?_paintAt (canvas im : Image) (left top : UInt32) (x y : Nat) :
    (canvas.paintAt im left top).pixel? x y =
      (canvas.pixel? x y).map fun old =>
        if left.toNat ≤ x ∧ top.toNat ≤ y then
          match im.pixel? (x - left.toNat) (y - top.toNat) with
          | some p => p.onto old
          | none => old
        else old :=
  pixel?_mapPixels canvas _ x y

end RemoteDisplay.Image
