/-
**Writing image files.**

An image is written with a byte for each colour and for the opacity, row by row, neither filtered
nor compressed.  An image without pixels has no file.

Main definitions:

* `RemoteDisplay.Png.encode?` — the file of an image.
-/
import RemoteDisplay.Deflate.Zlib
import RemoteDisplay.Png.Chunk
import RemoteDisplay.Png.Header
import RemoteDisplay.Raster.Image

set_option relaxedAutoImplicit false
set_option autoImplicit false

namespace RemoteDisplay.Png

/-- The bytes of a pixel. -/
def pixelBytes (p : Pixel) : List UInt8 := [p.r, p.g, p.b, p.a]

/-- The bytes of an image before compression: each row after the number of its filter. -/
def rawBytes (im : Image) : List UInt8 := im.rows.flatMap fun row => 0 :: row.flatMap pixelBytes

/-- The file of an image, none if a side of it is empty. -/
def encode? (im : Image) : Option (List UInt8) :=
  if im.width = 0 ∨ im.height = 0 then none
  else some (signature
    ++ Chunk.encode headerKind (Header.bytes im.width im.height)
    ++ Chunk.encode imageKind (Deflate.store (rawBytes im))
    ++ Chunk.encode endKind [])

end RemoteDisplay.Png
