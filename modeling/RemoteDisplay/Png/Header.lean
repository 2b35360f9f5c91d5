/-
**The form of an image.**

The first chunk of an image file gives its size, how many bits a sample has, what the samples of a
pixel mean, and the order of the pixels.  Not every number of bits goes with every meaning.

Main definitions:

* `RemoteDisplay.Png.Colouring` — what the samples of a pixel mean;
* `RemoteDisplay.Png.Header`, `RemoteDisplay.Png.Header.ofBytes?`, `RemoteDisplay.Png.Header.bytes`
  — the form of an image, read and written;
* `RemoteDisplay.Png.Header.rowSize` — how many bytes some pixels of a row take.
-/
import RemoteDisplay.Bytes

set_option relaxedAutoImplicit false
set_option autoImplicit false

namespace RemoteDisplay.Png

/-- What the samples of a pixel mean. -/
inductive Colouring where
  | grey
  | colour
  | palette
  | greyAlpha
  | colourAlpha
deriving DecidableEq, Repr

namespace Colouring

/-- The colouring with a number. -/
def ofCode? : UInt8 → Option Colouring
  | 0 => some grey
  | 2 => some colour
  | 3 => some palette
  | 4 => some greyAlpha
  | 6 => some colourAlpha
  | _ => none

/-- How many samples a pixel has. -/
def samples : Colouring → Nat
  | grey | palette => 1
  | greyAlpha => 2
  | colour => 3
  | colourAlpha => 4

/-- How many bits a sample may have. -/
def depths : Colouring → List Nat
  | grey => [1, 2, 4, 8, 16]
  | palette => [1, 2, 4, 8]
  | colour | greyAlpha | colourAlpha => [8, 16]

end Colouring

/-- The form of an image. -/
structure Header where
  width : UInt32
  height : UInt32
  /-- How many bits a sample has. -/
  depth : Nat
  colouring : Colouring
  /-- The pixels come in seven passes. -/
  interlaced : Bool
deriving DecidableEq, Repr

namespace Header

/-- A side of an image is neither empty nor longer than a signed word can say. -/
def sideOk (n : UInt32) : Bool := n != 0 && n < 0x80000000

/-- The form that some bytes give, of which there are exactly thirteen. -/
def ofBytes? : List UInt8 → Option Header
  | w₀ :: w₁ :: w₂ :: w₃ :: h₀ :: h₁ :: h₂ :: h₃ :: depth :: colouring :: compression :: filter
      :: interlace :: [] => do
    let width := Bytes.wordBig w₀ w₁ w₂ w₃
    let height := Bytes.wordBig h₀ h₁ h₂ h₃
    let colouring ← Colouring.ofCode? colouring
    guard (sideOk width && sideOk height)
    guard (colouring.depths.contains depth.toNat)
    guard (compression == 0 && filter == 0 && interlace ≤ 1)
    return ⟨width, height, depth.toNat, colouring, interlace == 1⟩
  | _ => none

/-- The bytes for an image of the given size with colours and opacity in bytes. -/
def bytes (width height : UInt32) : List UInt8 :=
  Bytes.ofWordBig width ++ Bytes.ofWordBig height ++ [8, 6, 0, 0, 0]

/-- How many bytes some pixels of a row take. -/
def rowSize (h : Header) (width : Nat) : Nat := (width * h.colouring.samples * h.depth + 7) / 8

/-- How many bytes back the byte stands that a filter compares with: a pixel, or one byte if a pixel
is smaller. -/
def stride (h : Header) : Nat := max 1 (h.colouring.samples * h.depth / 8)

end Header

end RemoteDisplay.Png
