/-
**Reading image files.**

The compressed data of an image is that of all image chunks in a row.  They have to be intact, and
after them the next chunk has to begin; the rest of the file is not looked at.

An image may be as large as its header can say.  A reader that bounds the memory it takes, commonly
to 512 MiB, refuses larger ones even if they are well-formed; that bound is left out here.

Main definitions:

* `RemoteDisplay.Png.pieces?` — the compressed data, a piece from each chunk;
* `RemoteDisplay.Png.Preamble.image?` — the image that decompressed bytes stand for;
* `RemoteDisplay.Png.decode` — the image in a file.
-/
import RemoteDisplay.Deflate.Zlib
import RemoteDisplay.Png.Pass
import RemoteDisplay.Png.Preamble
import RemoteDisplay.Png.Sample
import RemoteDisplay.Png.Scanline
import RemoteDisplay.Raster.Image

set_option relaxedAutoImplicit false
set_option autoImplicit false

namespace RemoteDisplay.Png

/-! ### The image -/

namespace Preamble

/-- The rows of the passes of an image, at the front of some bytes. -/
def passRows? (p : Preamble) :
    List Pass → List UInt8 → Option (List (Pass × Array (Array UInt8)))
  | [], _ => some []
  | pass :: passes, bytes => do
    let width := pass.width p.header.width.toNat
    let height := pass.height p.header.width.toNat p.header.height.toNat
    let (rows, bytes) ← rows? (p.header.rowSize width) p.header.stride height bytes
    return (pass, rows) :: (← p.passRows? passes bytes)

/-- The image that decompressed bytes stand for. -/
def image? (p : Preamble) (bytes : List UInt8) : Option Image := do
  guard (p.header.colouring = .palette → p.palette ≠ none)
  let passes ← p.passRows? p.header.passes bytes
  return .ofFn p.header.width p.header.height fun x y =>
    match passes.find? fun (pass, _) => pass.Holds x y with
    | some (pass, rows) =>
      p.rowPixel (rows.getD ((y - pass.y) / pass.dy) #[]) ((x - pass.x) / pass.dx)
    | none => .clear

end Preamble

/-! ### The compressed data -/

/-- The compressed data of the image chunks in front, if they are intact and a chunk of another kind
begins after them, at the latest in the bytes that are no whole chunk. -/
def pieces? (tail : List UInt8) (chunks : List Chunk) : Option (List (List UInt8)) :=
  match chunks.span fun c => c.kind = imageKind with
  | (run, rest) =>
    if run.all Chunk.intact ∧ (rest ≠ [] ∨ (Chunk.kind? tail).any (· ≠ imageKind)) then
      some (run.map Chunk.data)
    else none

/-! ### Files -/

/-- The image that some chunks and the bytes after them stand for. -/
def ofChunks? (tail : List UInt8) : List Chunk → Option Image
  | [] => none
  | c :: chunks => do
    let (p, chunks) ← (← Preamble.start? c).acceptAll chunks
    let bytes ← Deflate.decompress? p.header.wanted (← pieces? tail chunks)
    p.image? bytes.toList

/-- The image in a file, none if the file cannot be read. -/
def decode (bytes : List UInt8) : Option Image :=
  if bytes.take signature.length = signature then
    match Chunk.all (bytes.drop signature.length) with
    | (chunks, tail) => ofChunks? tail chunks
  else none

end RemoteDisplay.Png
