/-
**What is known before the image data.**

The chunks of a file up to the first with compressed data say how the image is made up.  A chunk
that must be understood has to be intact, in its place and of the right size.  Other chunks are
passed over if they are damaged, and most of them also if they make no sense.  Some kinds are not:
the description of a frame of an animation, which has to be of the right size, damaged or not, to
fit the image and to come in order; the data of a frame, which may only come after the image; a
coding of colours that a file cannot have; and a background that refers to a palette before there
is one.

Main definitions:

* `RemoteDisplay.Png.Transparency`, `RemoteDisplay.Png.Preamble` — what is transparent, and all
  that is known of an image before its samples come;
* `RemoteDisplay.Png.Preamble.accept` — what a chunk adds;
* `RemoteDisplay.Png.Preamble.acceptAll` — what the chunks before the compressed data add.
-/
import RemoteDisplay.Png.Chunk
import RemoteDisplay.Png.Header

set_option relaxedAutoImplicit false
set_option autoImplicit false

namespace RemoteDisplay.Png

/-- What is transparent in an image without samples for opacity. -/
inductive Transparency where
  /-- The pixels with exactly these samples are. -/
  | key (samples : List Nat)
  /-- The entries of the palette have these opacities, those after them are opaque. -/
  | entries (alphas : List UInt8)
deriving DecidableEq, Repr

/-- What is known of an image before its samples come. -/
structure Preamble where
  header : Header
  palette : Option (List UInt8)
  transparency : Option Transparency
  /-- A chunk has said what the numbers of colours stand for. -/
  coded : Bool
  /-- How many frames of an animation have been described. -/
  frames : Nat
deriving DecidableEq, Repr

namespace Preamble

/-- The preamble of an image of which only the form is known. -/
def ofHeader (header : Header) : Preamble := ⟨header, none, none, false, 0⟩

/-- The preamble that begins with a chunk. -/
def start? (c : Chunk) : Option Preamble :=
  if c.kind = headerKind ∧ c.intact then (Header.ofBytes? c.data).map ofHeader else none

/-! ### Transparency -/

/-- The samples of a transparent pixel.  Those of sixteen bits take two bytes each, and a key with a
byte too many fits no pixel; of smaller samples the low byte counts, and only as many as a pixel
has. -/
def keyOf (h : Header) (data : List UInt8) : List Nat :=
  let low (k : Nat) : Nat := (data.getD (2 * k + 1) 0).toNat
  let high (k : Nat) : Nat := (data.getD (2 * k) 0).toNat
  let samples := List.range h.colouring.samples
  if h.depth < 16 then samples.map low
  else if data.length = 2 * h.colouring.samples then samples.map fun k => 256 * high k + low k
  else []

/-- What a chunk says about transparency, if it can be understood.  More opacities than entries of
the palette leave all entries opaque. -/
def transparencyOf? (p : Preamble) (data : List UInt8) : Option Transparency :=
  match p.header.colouring with
  | .grey | .colour =>
    if 2 * p.header.colouring.samples ≤ data.length then some (.key (keyOf p.header data)) else none
  | .palette =>
    p.palette.map fun palette => .entries (if data.length ≤ palette.length / 3 then data else [])
  | .greyAlpha | .colourAlpha => none

/-! ### Animations -/

/-- A frame that is described before the image comes is the image itself: it has its size, and
stands at its corner; what is done with it before and after the next frame is one of a few things.
In front stands how many frames were described before it. -/
def fitsImage (p : Preamble) (data : List UInt8) : Bool :=
  data.take 20 == Bytes.ofWordBig p.frames.toUInt32 ++ Bytes.ofWordBig p.header.width
      ++ Bytes.ofWordBig p.header.height ++ List.replicate 8 0
    && data.getD 24 0 ≤ 2 && data.getD 25 0 ≤ 1

/-- The preamble after the description of a frame. -/
def acceptFrame (p : Preamble) (data : List UInt8) : Option Preamble :=
  if p.fitsImage data then some { p with frames := p.frames + 1 } else none

/-! ### Colours -/

/-- The preamble after a coding of colours.  Only the first counts, and none after the palette.  A
file holds colours and not differences of colours, and their range is narrow or full. -/
def acceptCoding (p : Preamble) (data : List UInt8) : Option Preamble :=
  if p.coded ∨ p.palette ≠ none then some p
  else if data.getD 2 0 = 0 ∧ data.getD 3 0 ≤ 1 then some { p with coded := true }
  else none

/-! ### Chunks -/

/-- The preamble after a chunk that a reader may pass over. -/
def acceptOptional (p : Preamble) (c : Chunk) : Option Preamble :=
  if c.kind = frameDataKind ∨ c.kind = frameKind ∧ !c.sizeOk then none
  else if !c.intact ∨ !c.sizeOk then some p
  else if c.kind = frameKind then p.acceptFrame c.data
  else if c.kind = transparencyKind then
    some { p with transparency := p.transparency <|> p.transparencyOf? c.data }
  else if c.kind = codingKind then p.acceptCoding c.data
  else if c.kind = backgroundKind then
    if p.header.colouring = .palette ∧ p.palette = none then none else some p
  else some p

/-- The preamble after one more chunk, none if the file cannot be read. -/
def accept (p : Preamble) (c : Chunk) : Option Preamble :=
  if c.isCritical then
    if c.intact ∧ c.kind = paletteKind ∧ c.sizeOk ∧ p.palette = none then
      some { p with palette := c.data }
    else none
  else p.acceptOptional c

/-- The preamble after the chunks before the compressed data, and the chunks from there on. -/
def acceptAll (p : Preamble) : List Chunk → Option (Preamble × List Chunk)
  | [] => none
  | c :: chunks =>
    if c.kind = imageKind then some (p, c :: chunks)
    else (p.accept c).bind fun p => p.acceptAll chunks

end Preamble

end RemoteDisplay.Png
