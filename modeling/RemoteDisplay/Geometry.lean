/-
**From the screen to the canvas.**

A canvas has two sizes: its logical size, the grid of pixels that is drawn into, and the size at
which it is shown.  A pointer is reported where it is on the screen.  To find the pixel under it,
the corner of the shown canvas is subtracted and each axis is scaled by logical over shown size; a
canvas shown with no size, or with less than none, is not scaled.

The arithmetic is that of doubles, each operation rounded to nearest even; the scale is computed
first and then multiplied.  The result is cut off toward zero and held inside 32 bits; what is no
number counts as zero.

Main definitions:

* `RemoteDisplay.Point`, `RemoteDisplay.CanvasPoint` — a point on the screen, and one on the
  canvas;
* `RemoteDisplay.BoundingBox`, `RemoteDisplay.Geometry` — where a canvas is shown, and its two
  sizes;
* `RemoteDisplay.Geometry.toCanvas` — the point of the canvas under a point of the screen.
-/

set_option relaxedAutoImplicit false
set_option autoImplicit false

namespace RemoteDisplay

/-- A point on the screen. -/
structure Point where
  x : Float
  y : Float
deriving DecidableEq, Repr, Inhabited

/-- A point of the pixel grid of a canvas; it may lie outside the canvas. -/
structure CanvasPoint where
  x : Int32
  y : Int32
deriving DecidableEq, Repr, Inhabited

/-- Where a canvas is shown on the screen, and how large. -/
structure BoundingBox where
  left : Float
  top : Float
  width : Float
  height : Float
deriving DecidableEq, Repr, Inhabited

/-- The logical size of a canvas and where it is shown. -/
structure Geometry where
  width : UInt32
  height : UInt32
  bbox : BoundingBox
deriving DecidableEq, Repr, Inhabited

/-- The box of a canvas shown at its logical size in the corner of the screen. -/
def BoundingBox.unscaled (width height : UInt32) : BoundingBox :=
  ⟨0, 0, width.toFloat, height.toFloat⟩

/-! ### One axis -/

/-- How many logical pixels go into one shown pixel along an axis. -/
def axisScale (logical : UInt32) (displayed : Float) : Float :=
  if displayed > 0 then logical.toFloat / displayed else 1

/-- A double cut off toward zero and held inside 32 bits; what is no number becomes zero. -/
def truncate (x : Float) : Int32 := x.toModel.toInt32

/-! ### Both axes -/

namespace Geometry

/-- The geometry of a canvas shown at its logical size in the corner of the screen. -/
def unscaled (width height : UInt32) : Geometry := ⟨width, height, .unscaled width height⟩

/-- The horizontal scale. -/
def scaleX (g : Geometry) : Float := axisScale g.width g.bbox.width

/-- The vertical scale. -/
def scaleY (g : Geometry) : Float := axisScale g.height g.bbox.height

/-- The point of the canvas under a point of the screen. -/
def toCanvas (g : Geometry) (p : Point) : CanvasPoint :=
  ⟨truncate ((p.x - g.bbox.left) * g.scaleX), truncate ((p.y - g.bbox.top) * g.scaleY)⟩

end Geometry

end RemoteDisplay
