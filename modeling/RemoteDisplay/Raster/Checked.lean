/-
**What can go wrong in a draw.**

The bounds of a rectangle come from the display host and can be any four words, and so can the size
of an image.  A draw computes with them, and words can fail to hold a result: a difference may be
less than zero, a product too large, a divisor zero.  Resizing may ask for more memory than there
can be, and it may arrive at samples that are no numbers.  Here every operation of a draw is
checked, and a draw stops at the first one that goes wrong.

Main definitions:

* `RemoteDisplay.Fault` — what can go wrong;
* `RemoteDisplay.Checked.sourceSpan`, `RemoteDisplay.Checked.crop`, `RemoteDisplay.Checked.resize` —
  the parts of a draw, checked;
* `RemoteDisplay.Checked.draw` — a draw with every operation checked.
-/
import RemoteDisplay.Raster.Draw

set_option relaxedAutoImplicit false
set_option autoImplicit false

namespace RemoteDisplay

/-- What can go wrong when an image is drawn. -/
inductive Fault where
  /-- A difference is less than zero. -/
  | underflow
  /-- A sum or a product is too large for its word. -/
  | overflow
  /-- A divisor is zero. -/
  | zeroDivisor
  /-- A word is to be held between two bounds of which the lower one is the larger. -/
  | crossedBounds
  /-- A word is too large for a shorter one. -/
  | cutOff
  /-- A part of an image is empty, or reaches beyond the image. -/
  | outside
  /-- Something is larger than what memory can hold in one piece. -/
  | tooLarge
  /-- What is to become a byte is no number, or not in its range. -/
  | notAByte
deriving DecidableEq, Repr

namespace Checked

/-! ### Words -/

/-- A difference of 32-bit words. -/
def sub32 (a b : UInt32) : Except Fault UInt32 := if b ≤ a then .ok (a - b) else .error .underflow

/-- A difference. -/
def sub (a b : UInt64) : Except Fault UInt64 := if b ≤ a then .ok (a - b) else .error .underflow

/-- A sum. -/
def add (a b : UInt64) : Except Fault UInt64 :=
  if a.toNat + b.toNat < UInt64.size then .ok (a + b) else .error .overflow

/-- A product. -/
def mul (a b : UInt64) : Except Fault UInt64 :=
  if a.toNat * b.toNat < UInt64.size then .ok (a * b) else .error .overflow

/-- A quotient, rounded down. -/
def div (a b : UInt64) : Except Fault UInt64 := if b = 0 then .error .zeroDivisor else .ok (a / b)

/-- A quotient, rounded up. -/
def divUp (a b : UInt64) : Except Fault UInt64 :=
  if b = 0 then .error .zeroDivisor else .ok (ceilDiv a b)

/-- A word held between two bounds. -/
def clamp (lo hi x : UInt64) : Except Fault UInt64 :=
  if lo ≤ hi then .ok (clampWord lo hi x) else .error .crossedBounds

/-- The 32-bit word of the same value. -/
def narrow (a : UInt64) : Except Fault UInt32 :=
  if a.toNat < UInt32.size then .ok a.toUInt32 else .error .cutOff

/-! ### Parts of a draw -/

/-- The source pixels under a span of a rectangle. -/
def sourceSpan (start stop destLength sourceLength : UInt32) : Except Fault Span := do
  let dest := destLength.toUInt64
  let source := sourceLength.toUInt64
  let first := min (← div (← mul start.toUInt64 source) dest) (← sub source 1)
  let last ← clamp (← add first 1) source (← divUp (← mul stop.toUInt64 source) dest)
  return ⟨← narrow first, ← narrow (← sub last first)⟩

/-- A part of an image. -/
def crop (im : Image) (x y width height : UInt32) : Except Fault Image :=
  if 0 < width ∧ x.toNat + width.toNat ≤ im.width.toNat ∧
      0 < height ∧ y.toNat + height.toNat ≤ im.height.toNat then
    .ok (im.crop x y width height)
  else .error .outside

/-- The bytes of an image that is being resized, 16 for each pixel: its columns are as high as they
are going to be, but there are still as many of them as before. -/
def columnBytes (im : Image) (height : UInt32) : Nat := 16 * (im.width.toNat * height.toNat)

/-- The image of the rounded samples. -/
def ofSamples (width height : UInt32) (samples : Array (Array Resample.Sample)) :
    Except Fault Image :=
  if samples.all (Array.all · Resample.Sample.isNumber) then .ok (.ofSamples width height samples)
  else .error .notAByte

/-- The image brought to another size. -/
def resize (im : Image) (width height : UInt32) : Except Fault Image :=
  if im.width = width ∧ im.height = height then .ok im
  else if Image.maxBytes < columnBytes im height then .error .tooLarge
  else ofSamples width height (Resample.samples im width height)

/-- The part of an image under the visible part of a rectangle, at the size of that part. -/
def visiblePart (im : Image) (dest visible : Rect) : Except Fault Image := do
  let columns ← sourceSpan (← sub32 visible.left dest.left) (← sub32 visible.right dest.left)
    dest.width im.width
  let rows ← sourceSpan (← sub32 visible.top dest.top) (← sub32 visible.bottom dest.top)
    dest.height im.height
  let part ← crop im columns.offset rows.offset columns.length rows.length
  resize part visible.width visible.height

/-! ### Pixels -/

/-- The byte for a fraction of 255, cut off. -/
def ofFraction (x : Float32) : Except Fault UInt8 :=
  if -1 < 255 * x ∧ 255 * x < 256 then .ok (Pixel.ofFraction x) else .error .notAByte

/-- A pixel that is neither transparent nor opaque over another. -/
def blend (fg bg : Pixel) : Except Fault Pixel := do
  let fgAlpha := Pixel.fraction fg.a
  let bgAlpha := Pixel.fraction bg.a
  let alpha := Pixel.alphaOver fgAlpha bgAlpha
  let colour (f b : UInt8) :=
    ofFraction (Pixel.colourOver (Pixel.fraction f) fgAlpha (Pixel.fraction b) bgAlpha alpha)
  return ⟨← colour fg.r bg.r, ← colour fg.g bg.g, ← colour fg.b bg.b, ← ofFraction alpha⟩

/-- A pixel painted over another. -/
def onto (fg bg : Pixel) : Except Fault Pixel :=
  if fg.a = 0 then .ok bg else if fg.a = 255 then .ok fg else blend fg bg

/-- The image with each pixel replaced. -/
def mapPixels (im : Image) (f : Nat → Nat → Pixel → Except Fault Pixel) : Except Fault Image := do
  let pixels ← Vector.ofFnM fun i : Fin im.pixels.size =>
    f (i.val % im.width.toNat) (i.val / im.width.toNat) im.pixels[i]
  return ⟨im.width, im.height, pixels.toArray, by rw [pixels.size_toArray, im.size_pixels]⟩

/-- The image painted over a canvas, its corner at column `left` of row `top`. -/
def paintAt (canvas im : Image) (left top : UInt32) : Except Fault Image :=
  mapPixels canvas fun x y old =>
    if left.toNat ≤ x ∧ top.toNat ≤ y then
      match im.pixel? (x - left.toNat) (y - top.toNat) with
      | some p => onto p old
      | none => .ok old
    else .ok old

/-! ### Draws -/

/-- The image drawn into a rectangle of a canvas. -/
def draw (canvas im : Image) (dest : Rect) : Except Fault Image :=
  if dest.isEmpty || im.width == 0 || im.height == 0 then return canvas
  else
    match dest.clip canvas.width canvas.height with
    | none => return canvas
    | some visible => do paintAt canvas (← visiblePart im dest visible) visible.left visible.top

end Checked

end RemoteDisplay
