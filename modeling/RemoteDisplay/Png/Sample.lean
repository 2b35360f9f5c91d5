/-
**From samples to pixels.**

A pixel is made of one to four samples.  Samples of fewer than eight bits are scaled up so that the
largest stands for 255; of sixteen bits, the nearest of 256 equal steps is taken.  A sample may
also be the number of an entry of a palette.  Without a sample for it the opacity is full, unless
the file names a value, or entries of the palette, that are transparent; the value is compared
before scaling.

Main definitions:

* `RemoteDisplay.Png.sample` — a sample of a row;
* `RemoteDisplay.Png.Preamble.pixel` — the pixel that some samples stand for.
-/
import RemoteDisplay.Png.Preamble
import RemoteDisplay.Raster.Pixel

set_option relaxedAutoImplicit false
set_option autoImplicit false

namespace RemoteDisplay.Png

/-! ### Samples -/

/-- Sample `i` of a row of samples of the given number of bits, the first at the highest bits. -/
def sample (depth : Nat) (row : Array UInt8) (i : Nat) : Nat :=
  if depth = 16 then 256 * (row.getD (2 * i) 0).toNat + (row.getD (2 * i + 1) 0).toNat
  else
    let place := i * depth
    let shift := 8 - depth - place % 8
    (row.getD (place / 8) 0).toNat >>> shift % (1 <<< depth)

/-- The byte that a sample of the given number of bits stands for. -/
def scale (depth v : Nat) : UInt8 :=
  if depth = 16 then ((v + 128) / 257).toUInt8 else (v * (255 / (1 <<< depth - 1))).toUInt8

/-! ### Pixels -/

namespace Preamble

/-- Entry `i` of the palette; what is beyond its end is opaque black. -/
def paletteEntry (p : Preamble) (i : Nat) : Pixel :=
  let alpha :=
    match p.transparency with
    | some (.entries alphas) => alphas.getD i 255
    | _ => 255
  match (p.palette.getD []).drop (3 * i) with
  | r :: g :: b :: _ => ⟨r, g, b, alpha⟩
  | _ => ⟨0, 0, 0, 255⟩

/-- The opacity of a pixel without a sample for it. -/
def keyAlpha (p : Preamble) (samples : List Nat) : UInt8 :=
  if p.transparency = some (.key samples) then 0 else 255

/-- The pixel that some samples stand for. -/
def pixel (p : Preamble) (samples : List Nat) : Pixel :=
  let scale := scale p.header.depth
  match p.header.colouring, samples with
  | .grey, [v] => ⟨scale v, scale v, scale v, p.keyAlpha samples⟩
  | .colour, [r, g, b] => ⟨scale r, scale g, scale b, p.keyAlpha samples⟩
  | .palette, [i] => p.paletteEntry i
  | .greyAlpha, [v, a] => ⟨scale v, scale v, scale v, scale a⟩
  | .colourAlpha, [r, g, b, a] => ⟨scale r, scale g, scale b, scale a⟩
  | _, _ => .clear

/-- Pixel `x` of a row. -/
def rowPixel (p : Preamble) (row : Array UInt8) (x : Nat) : Pixel :=
  let n := p.header.colouring.samples
  p.pixel ((List.range n).map fun k => sample p.header.depth row (x * n + k))

end Preamble

end RemoteDisplay.Png
