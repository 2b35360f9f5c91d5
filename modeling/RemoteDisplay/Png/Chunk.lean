/-
**Chunks of an image file.**

An image file is a signature and then chunks.  A chunk has a kind of four letters and some data; its
length stands before it and a checksum of kind and data after it.  A small first letter says that a
reader who does not know the kind may pass over the chunk.

Main definitions:

* `RemoteDisplay.Png.checksum` — the checksum of a chunk;
* `RemoteDisplay.Png.Chunk`, `RemoteDisplay.Png.Chunk.encode`, `RemoteDisplay.Png.Chunk.split?` — a
  chunk, written and read;
* `RemoteDisplay.Png.Chunk.sizeOk` — a chunk has as much data as its kind demands;
* `RemoteDisplay.Png.Chunk.all` — the chunks of a file, as far as they go.

Main results:

* `RemoteDisplay.Png.Chunk.length_of_split?` — reading a chunk takes something away.
-/
import RemoteDisplay.Bytes

set_option relaxedAutoImplicit false
set_option autoImplicit false

namespace RemoteDisplay.Png

/-- The bytes in front of every file. -/
def signature : List UInt8 := [0x89, 0x50, 0x4E, 0x47, 0x0D, 0x0A, 0x1A, 0x0A]

/-! ### The checksum -/

/-- The polynomial that is divided by, over two elements, the highest power at the lowest bit. -/
def divisor : UInt32 := 0xEDB88320

/-- One bit of the division. -/
def checksumBit (c : UInt32) : UInt32 :=
  if c &&& 1 = 1 then (c >>> 1) ^^^ divisor else c >>> 1

/-- One byte of the division. -/
def checksumByte (c : UInt32) (b : UInt8) : UInt32 :=
  Nat.repeat checksumBit 8 (c ^^^ b.toUInt32)

/-- The checksum of some bytes: the remainder of a division, all bits inverted before and after. -/
def checksum (bytes : List UInt8) : UInt32 := ~~~(bytes.foldl checksumByte 0xFFFFFFFF)

/-! ### Chunks -/

/-- A chunk of a file: its kind, its data, and whether its checksum holds. -/
structure Chunk where
  kind : List UInt8
  data : List UInt8
  intact : Bool
deriving DecidableEq, Repr

/-- The kind of the chunk with the size and form of the image. -/
def headerKind : List UInt8 := "IHDR".toUTF8.toList

/-- The kind of the chunk with the palette. -/
def paletteKind : List UInt8 := "PLTE".toUTF8.toList

/-- The kind of the chunk that says what is transparent. -/
def transparencyKind : List UInt8 := "tRNS".toUTF8.toList

/-- The kind of the chunk that says what the numbers of colours stand for. -/
def codingKind : List UInt8 := "cICP".toUTF8.toList

/-- The kind of the chunk with the colour behind the image. -/
def backgroundKind : List UInt8 := "bKGD".toUTF8.toList

/-- The kind of the chunks that describe a frame of an animation. -/
def frameKind : List UInt8 := "fcTL".toUTF8.toList

/-- The kind of the chunks with a compressed frame of an animation. -/
def frameDataKind : List UInt8 := "fdAT".toUTF8.toList

/-- The kind of the chunks with the compressed image. -/
def imageKind : List UInt8 := "IDAT".toUTF8.toList

/-- The kind of the last chunk. -/
def endKind : List UInt8 := "IEND".toUTF8.toList

namespace Chunk

/-- How many bytes stand before the data of a chunk: its length and its kind. -/
def headSize : Nat := 8

/-- The chunk has as much data as its kind demands. -/
def sizeOk (c : Chunk) : Bool :=
  let size := c.data.length
  if c.kind = paletteKind then 3 ≤ size && size ≤ 768
  else if c.kind = transparencyKind then 1 ≤ size && size ≤ 256
  else if c.kind = codingKind then size == 4
  else if c.kind = backgroundKind then 1 ≤ size && size ≤ 6
  else if c.kind = frameKind then size == 26
  else true

/-- A reader who does not know the kind must not pass over the chunk. -/
def isCritical (c : Chunk) : Bool := (c.kind.headD 0) &&& 0x20 == 0

/-- The bytes of a chunk. -/
def encode (kind data : List UInt8) : List UInt8 :=
  Bytes.ofWordBig data.length.toUInt32 ++ kind ++ data ++ Bytes.ofWordBig (checksum (kind ++ data))

/-- The first chunk of some bytes and what follows it. -/
def split? : List UInt8 → Option (Chunk × List UInt8)
  | l₀ :: l₁ :: l₂ :: l₃ :: k₀ :: k₁ :: k₂ :: k₃ :: bytes =>
    let size := (Bytes.wordBig l₀ l₁ l₂ l₃).toNat
    let kind := [k₀, k₁, k₂, k₃]
    let data := bytes.take size
    match bytes.drop size with
    | c₀ :: c₁ :: c₂ :: c₃ :: rest =>
      some (⟨kind, data, checksum (kind ++ data) == Bytes.wordBig c₀ c₁ c₂ c₃⟩, rest)
    | _ => none
  | _ => none

/-- Reading a chunk takes something away. -/
theorem length_of_split? {bytes rest : List UInt8} {c : Chunk}
    (h : split? bytes = some (c, rest)) : rest.length < bytes.length := by
  unfold split? at h
  split at h
  next l₀ l₁ l₂ l₃ _ _ _ _ tail =>
    dsimp only at h
    split at h
    next heq =>
      have hlen := congrArg List.length heq
      simp only [Option.some.injEq, Prod.mk.injEq] at h
      rw [← h.2]
      simp only [List.length_drop, List.length_cons] at hlen ⊢
      omega
    next => simp at h
  next => simp at h

/-- The kind of the chunk that some bytes begin, if its length and kind are there. -/
def kind? (bytes : List UInt8) : Option (List UInt8) :=
  if headSize ≤ bytes.length then some ((bytes.drop 4).take 4) else none

/-- The chunks of a file, as far as they go, and the bytes after them that are no whole chunk. -/
def all (bytes : List UInt8) : List Chunk × List UInt8 :=
  match h : split? bytes with
  | none => ([], bytes)
  | some (c, rest) =>
    have := length_of_split? h
    let (chunks, tail) := all rest
    (c :: chunks, tail)
termination_by bytes.length

end Chunk

end RemoteDisplay.Png
