/-
**Which part of an image is visible.**

An image is drawn into a rectangle that may reach beyond the canvas.  The visible part of the
rectangle is its intersection with the canvas; along each axis it is a span of the rectangle, and
the source pixels under that span are found by proportion, rounded outward to whole pixels.

The arithmetic is that of words: differences of 32-bit words, and products and quotients of 64-bit
words.

Main definitions:

* `RemoteDisplay.Rect.clip` — the visible part of a rectangle;
* `RemoteDisplay.sourceSpan` — the source pixels under a span of the rectangle;
* `RemoteDisplay.Rect.sourceColumns`, `RemoteDisplay.Rect.sourceRows` — those under the visible
  part.
-/
import RemoteDisplay.Frame.Rect

set_option relaxedAutoImplicit false
set_option autoImplicit false

namespace RemoteDisplay

/-- The part of a rectangle inside a canvas of the given size, if it covers any pixel. -/
def Rect.clip (r : Rect) (width height : UInt32) : Option Rect :=
  let visible : Rect := ⟨min r.left width, min r.top height, min r.right width, min r.bottom height⟩
  if visible.isEmpty then none else some visible

/-- The quotient of two words, rounded up. -/
def ceilDiv (a b : UInt64) : UInt64 := if a % b = 0 then a / b else a / b + 1

/-- A word held between two bounds. -/
def clampWord (lo hi x : UInt64) : UInt64 := if x < lo then lo else if hi < x then hi else x

/-- A run of pixels along an axis. -/
structure Span where
  offset : UInt32
  length : UInt32
deriving DecidableEq, Repr

/-- The pixels of an axis of `sourceLength` pixels under the part from `start` up to `stop` of a
rectangle that shows the axis at a length of `destLength`, rounded outward; at least one. -/
def sourceSpan (start stop destLength sourceLength : UInt32) : Span :=
  let dest := destLength.toUInt64
  let source := sourceLength.toUInt64
  let first := min (start.toUInt64 * source / dest) (source - 1)
  let last := clampWord (first + 1) source (ceilDiv (stop.toUInt64 * source) dest)
  ⟨first.toUInt32, (last - first).toUInt32⟩

/-- The columns of a source of the given width under the visible part of a rectangle. -/
def Rect.sourceColumns (r visible : Rect) (width : UInt32) : Span :=
  sourceSpan (visible.left - r.left) (visible.right - r.left) r.width width

/-- The rows of a source of the given height under the visible part of a rectangle. -/
def Rect.sourceRows (r visible : Rect) (height : UInt32) : Span :=
  sourceSpan (visible.top - r.top) (visible.bottom - r.top) r.height height

end RemoteDisplay
