/-
**Resizing images.**

An image is brought to another size one axis at a time, first its columns and then its rows.  Along
an axis each new sample is a weighted mean of old ones: the weight falls off in a straight line on
both sides of the place where the new sample lies on the old axis, over one old sample if the axis
grows and over as many old samples as go into a new one if it shrinks.

The arithmetic is that of single-precision numbers, each operation rounded, the samples taken in
order.  Between the two axes nothing is rounded to bytes; at the end a sample is held between 0 and
255 and rounded, a half upward.  If the weights of a sample add up to nothing it is no number, and
what is made of it has no meaning.

Main definitions:

* `RemoteDisplay.Resample.taps` — the old samples that a new one is made of, and their weights;
* `RemoteDisplay.Image.resize` — an image brought to another size.

Main results:

* `RemoteDisplay.Image.width_resize`, `RemoteDisplay.Image.height_resize` — the size asked for.
-/
import RemoteDisplay.Raster.Image

set_option relaxedAutoImplicit false
set_option autoImplicit false

namespace RemoteDisplay

namespace Resample

/-! ### Whole numbers near a sample position -/

/-- The largest whole number not above `x`, zero below zero. -/
def floorNat (x : Float32) : Nat := if 0 < x then x.toUInt64.toNat else 0

/-- The smallest whole number not below `x`, zero below zero. -/
def ceilNat (x : Float32) : Nat :=
  if 0 < x then
    let whole := x.toUInt64
    if whole.toFloat32 < x then whole.toNat + 1 else whole.toNat
  else 0

/-- A number held between 0 and 255 and rounded, a half upward. -/
def toByte (x : Float32) : UInt8 :=
  if 255 < x then 255
  else if x < 0 then 0
  else
    let whole := x.toUInt8
    if x - whole.toFloat32 < 0.5 then whole else whole + 1

/-! ### Weights -/

/-- The weight at a distance: one at none, zero from one on, a straight line in between. -/
def tent (x : Float32) : Float32 :=
  let distance := if x < 0 then -x else x
  if distance < 1 then 1 - distance else 0

/-- How many old samples go into a new one, when an axis of `n` samples is brought to `m`. -/
def ratio (n m : UInt32) : Float32 := n.toFloat32 / m.toFloat32

/-- How far from the place of a new sample an old one has a weight. -/
def reach (n m : UInt32) : Float32 := if ratio n m < 1 then 1 else ratio n m

/-- Where new sample `o` lies on the old axis. -/
def centre (n m : UInt32) (o : Nat) : Float32 := ((UInt32.ofNat o).toFloat32 + 0.5) * ratio n m

/-- The first old sample that new sample `o` is made of. -/
def first (n m : UInt32) (o : Nat) : Nat := min (floorNat (centre n m o - reach n m)) (n.toNat - 1)

/-- The end of the old samples that new sample `o` is made of. -/
def stop (n m : UInt32) (o : Nat) : Nat :=
  max (first n m o + 1) (min (ceilNat (centre n m o + reach n m)) n.toNat)

/-- The weight of old sample `i` for new sample `o`, before the weights are scaled to add up to
one. -/
def weight (n m : UInt32) (o i : Nat) : Float32 :=
  tent (((UInt32.ofNat i).toFloat32 - (centre n m o - 0.5)) / reach n m)

/-- These weights of all old samples that new sample `o` is made of. -/
def weights (n m : UInt32) (o : Nat) : List Float32 :=
  (List.range' (first n m o) (stop n m o - first n m o)).map (weight n m o)

/-- What some weights add up to, in order. -/
def sum (ws : List Float32) : Float32 := ws.foldl (· + ·) 0

/-- The old samples that a new one is made of: the first of them, and the weight of each. -/
structure Taps where
  first : Nat
  weights : List Float32

/-- The taps of new sample `o`, when an axis of `n` samples is brought to `m`. -/
def taps (n m : UInt32) (o : Nat) : Taps :=
  let ws := weights n m o
  let total := sum ws
  ⟨first n m o, ws.map (· / total)⟩

/-! ### Samples -/

/-- A pixel whose channels are not rounded to bytes. -/
structure Sample where
  r : Float32
  g : Float32
  b : Float32
  a : Float32
deriving Inhabited

namespace Sample

/-- Nothing added up yet. -/
def zero : Sample := ⟨0, 0, 0, 0⟩

/-- The channels of a pixel. -/
def ofPixel (p : Pixel) : Sample := ⟨p.r.toFloat32, p.g.toFloat32, p.b.toFloat32, p.a.toFloat32⟩

/-- All channels are numbers. -/
def isNumber (s : Sample) : Bool := !(s.r.isNaN || s.g.isNaN || s.b.isNaN || s.a.isNaN)

/-- The pixel of the rounded channels. -/
def toPixel (s : Sample) : Pixel := ⟨toByte s.r, toByte s.g, toByte s.b, toByte s.a⟩

/-- Adds a sample times its weight. -/
def addScaled (sum s : Sample) (w : Float32) : Sample :=
  ⟨sum.r + s.r * w, sum.g + s.g * w, sum.b + s.b * w, sum.a + s.a * w⟩

end Sample

/-- Adds the samples from `i` on, each times its weight, in order. -/
def addWeighted (sample : Nat → Sample) : List Float32 → Nat → Sample → Sample
  | [], _, sum => sum
  | w :: ws, i, sum => addWeighted sample ws (i + 1) (sum.addScaled (sample i) w)

/-- The weighted sum of the samples that some taps pick. -/
def Taps.mean (t : Taps) (sample : Nat → Sample) : Sample :=
  addWeighted sample t.weights t.first .zero

/-- The columns of an image brought to another height: the samples, row by row. -/
def columns (im : Image) (height : UInt32) : Array Sample :=
  let ts := Array.ofFn fun o : Fin height.toNat => taps im.height height o
  Array.ofFn fun i : Fin (im.width.toNat * height.toNat) =>
    match ts[i.val / im.width.toNat]? with
    | some t => t.mean fun y => .ofPixel (im.pixelD (i.val % im.width.toNat) y)
    | none => .zero

/-- The samples of an image brought to another size, column by column. -/
def samples (im : Image) (width height : UInt32) : Array (Array Sample) :=
  let columns := columns im height
  Array.ofFn fun x : Fin width.toNat =>
    let t := taps im.width width x
    Array.ofFn fun y : Fin height.toNat =>
      t.mean fun i => columns[y.val * im.width.toNat + i]?.getD .zero

end Resample

namespace Image

/-- The image of the rounded samples. -/
def ofSamples (width height : UInt32) (samples : Array (Array Resample.Sample)) : Image :=
  ofFn width height fun x y =>
    match samples[x]? with
    | some column => (column[y]?.getD .zero).toPixel
    | none => .clear

/-- The image brought to another size. -/
def resize (im : Image) (width height : UInt32) : Image :=
  if im.width = width ∧ im.height = height then im
  else ofSamples width height (Resample.samples im width height)

theorem width_resize (im : Image) (width height : UInt32) :
    (im.resize width height).width = width := by
  unfold resize
  split
  next h => exact h.1
  next => rfl

theorem height_resize (im : Image) (width height : UInt32) :
    (im.resize width height).height = height := by
  unfold resize
  split
  next h => exact h.2
  next => rfl

end Image

end RemoteDisplay
