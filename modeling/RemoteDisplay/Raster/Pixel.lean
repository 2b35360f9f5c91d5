/-
**Pixels and how one covers another.**

A pixel has three colours and an opacity, a byte each; colours are not multiplied by the opacity.
Painting one pixel over another composes them: the lower one shows through as far as the upper one
is not opaque.

A fully transparent pixel leaves what is below it and a fully opaque one replaces it.  In between
the bytes become fractions of 255, and the arithmetic is that of single-precision numbers, each
operation rounded; a result is scaled back to a byte and cut off.

Main definitions:

* `RemoteDisplay.Pixel` — red, green, blue and alpha;
* `RemoteDisplay.Pixel.onto` — a pixel painted over another.

Main results:

* `RemoteDisplay.Pixel.onto_of_transparent`, `RemoteDisplay.Pixel.onto_of_opaque` — the two ends of
  the scale.
-/

set_option relaxedAutoImplicit false
set_option autoImplicit false

namespace RemoteDisplay

/-- A pixel: three colours and an opacity. -/
structure Pixel where
  r : UInt8
  g : UInt8
  b : UInt8
  a : UInt8
deriving DecidableEq, Repr, Inhabited

namespace Pixel

/-- Transparent black. -/
def clear : Pixel := ⟨0, 0, 0, 0⟩

/-- A byte as a fraction of 255. -/
def fraction (c : UInt8) : Float32 := c.toFloat32 / 255

/-- The byte for a fraction of 255, cut off. -/
def ofFraction (x : Float32) : UInt8 := (255 * x).toUInt8

/-- The opacity of `fg` over `bg`. -/
def alphaOver (fg bg : Float32) : Float32 := bg + fg - bg * fg

/-- One colour of a pixel over that of another, given both opacities and the one of the result. -/
def colourOver (fg fgAlpha bg bgAlpha alpha : Float32) : Float32 :=
  (fg * fgAlpha + bg * bgAlpha * (1 - fgAlpha)) / alpha

/-- A pixel that is neither transparent nor opaque over another. -/
def blend (fg bg : Pixel) : Pixel :=
  let fgAlpha := fraction fg.a
  let bgAlpha := fraction bg.a
  let alpha := alphaOver fgAlpha bgAlpha
  let colour (f b : UInt8) :=
    ofFraction (colourOver (fraction f) fgAlpha (fraction b) bgAlpha alpha)
  ⟨colour fg.r bg.r, colour fg.g bg.g, colour fg.b bg.b, ofFraction alpha⟩

/-- A pixel painted over another. -/
def onto (fg bg : Pixel) : Pixel :=
  if fg.a = 0 then bg else if fg.a = 255 then fg else blend fg bg

/-- A fully transparent pixel leaves what is below it. -/
theorem onto_of_transparent {fg : Pixel} (h : fg.a = 0) (bg : Pixel) : fg.onto bg = bg := by
  simp [onto, h]

/-- A fully opaque pixel replaces what is below it. -/
theorem onto_of_opaque {fg : Pixel} (h : fg.a = 255) (bg : Pixel) : fg.onto bg = fg := by
  simp [onto, h]

end Pixel

end RemoteDisplay
