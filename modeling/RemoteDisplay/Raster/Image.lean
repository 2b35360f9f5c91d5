/-
**Images.**

An image is a grid of pixels, stored row by row from the top.  It is looked at through
`Image.pixel?`, which knows nothing of the storage: the pixel at a column and a row, if there is
one.

Main definitions:

* `RemoteDisplay.Image` — a width, a height and the pixels;
* `RemoteDisplay.Image.pixel?` — the pixel at a place;
* `RemoteDisplay.Image.ofFn`, `RemoteDisplay.Image.mapPixels`, `RemoteDisplay.Image.crop` — an image
  made pixel by pixel, changed pixel by pixel, and a part of it.

Main results:

* `RemoteDisplay.Image.pixel?_ofFn`, `RemoteDisplay.Image.pixel?_fill`,
  `RemoteDisplay.Image.pixel?_mapPixels` — their pixels;
* `RemoteDisplay.Image.pixel?_eq_none_iff` — there is a pixel exactly inside the image.
-/
import RemoteDisplay.Raster.Pixel

set_option relaxedAutoImplicit false
set_option autoImplicit false

namespace RemoteDisplay

/-- A grid of pixels, stored row by row from the top. -/
structure Image where
  width : UInt32
  height : UInt32
  pixels : Array Pixel
  size_pixels : pixels.size = width.toNat * height.toNat
deriving DecidableEq, Repr

namespace Image

/-- The largest number of bytes that a program can hold in one piece: the distance of two of them
has to be a signed word of 64 bits. -/
def maxBytes : Nat := 0x7fffffffffffffff

/-! ### Looking at pixels -/

/-- The place of column `x` of row `y` in the storage is inside it. -/
theorem index_lt {w h x y : Nat} (hx : x < w) (hy : y < h) : y * w + x < w * h := by
  have : (y + 1) * w ≤ h * w := Nat.mul_le_mul_right w hy
  rw [Nat.succ_mul, Nat.mul_comm h w] at this
  omega

/-- The pixel at column `x` of row `y`, if the image has one there. -/
def pixel? (im : Image) (x y : Nat) : Option Pixel :=
  if h : x < im.width.toNat ∧ y < im.height.toNat then
    have : y * im.width.toNat + x < im.pixels.size := by
      rw [im.size_pixels]
      exact index_lt h.1 h.2
    some im.pixels[y * im.width.toNat + x]
  else none

/-- The pixel at column `x` of row `y`, transparent black outside the image. -/
def pixelD (im : Image) (x y : Nat) : Pixel := (im.pixel? x y).getD .clear

/-- There is a pixel exactly inside the image. -/
theorem pixel?_eq_none_iff (im : Image) (x y : Nat) :
    im.pixel? x y = none ↔ ¬(x < im.width.toNat ∧ y < im.height.toNat) := by
  unfold pixel?
  split <;> simp_all

/-- The rows of an image, from the top. -/
def rows (im : Image) : List (List Pixel) :=
  (List.range im.height.toNat).map fun y => (List.range im.width.toNat).map fun x => im.pixelD x y

/-! ### Making images -/

/-- The image whose pixel at column `x` of row `y` is `f x y`. -/
def ofFn (width height : UInt32) (f : Nat → Nat → Pixel) : Image where
  width := width
  height := height
  pixels := Array.ofFn fun i : Fin (width.toNat * height.toNat) =>
    f (i.val % width.toNat) (i.val / width.toNat)
  size_pixels := Array.size_ofFn

/-- The image whose pixels are all the same. -/
def fill (width height : UInt32) (p : Pixel) : Image where
  width := width
  height := height
  pixels := Array.replicate (width.toNat * height.toNat) p
  size_pixels := Array.size_replicate

/-- The image with the given pixels, row by row, if there are as many as its size asks for. -/
def ofPixels? (width height : UInt32) (pixels : Array Pixel) : Option Image :=
  if h : pixels.size = width.toNat * height.toNat then some ⟨width, height, pixels, h⟩ else none

/-- The image with each pixel replaced, given its column, its row and its old value. -/
def mapPixels (im : Image) (f : Nat → Nat → Pixel → Pixel) : Image where
  width := im.width
  height := im.height
  pixels := im.pixels.mapIdx fun i p => f (i % im.width.toNat) (i / im.width.toNat) p
  size_pixels := by rw [Array.size_mapIdx, im.size_pixels]

/-- The part of an image of the given size, from column `x` of row `y` on. -/
def crop (im : Image) (x y width height : UInt32) : Image :=
  ofFn width height fun i j => im.pixelD (x.toNat + i) (y.toNat + j)

/-! ### Their pixels -/

theorem mod_of_index {w x y : Nat} (hx : x < w) : (y * w + x) % w = x := by
  rw [Nat.mul_comm, Nat.mul_add_mod, Nat.mod_eq_of_lt hx]

theorem div_of_index {w x y : Nat} (hx : x < w) : (y * w + x) / w = y := by
  rw [Nat.mul_comm, Nat.mul_add_div (by omega), Nat.div_eq_of_lt hx, Nat.add_zero]

theorem pixel?_ofFn (width height : UInt32) (f : Nat → Nat → Pixel) (x y : Nat) :
    (ofFn width height f).pixel? x y =
      if x < width.toNat ∧ y < height.toNat then some (f x y) else none := by
  by_cases h : x < width.toNat ∧ y < height.toNat
  · rw [if_pos h]
    refine (dif_pos h).trans (congrArg some ?_)
    simp only [ofFn, Array.getElem_ofFn, mod_of_index h.1, div_of_index h.1]
  · rw [if_neg h]
    exact dif_neg h

theorem pixel?_fill (width height : UInt32) (p : Pixel) (x y : Nat) :
    (fill width height p).pixel? x y =
      if x < width.toNat ∧ y < height.toNat then some p else none := by
  by_cases h : x < width.toNat ∧ y < height.toNat
  · rw [if_pos h]
    refine (dif_pos h).trans (congrArg some ?_)
    simp only [fill, Array.getElem_replicate]
  · rw [if_neg h]
    exact dif_neg h

theorem pixel?_mapPixels (im : Image) (f : Nat → Nat → Pixel → Pixel) (x y : Nat) :
    (im.mapPixels f).pixel? x y = (im.pixel? x y).map (f x y) := by
  by_cases h : x < im.width.toNat ∧ y < im.height.toNat
  · have h' : x < (im.mapPixels f).width.toNat ∧ y < (im.mapPixels f).height.toNat := h
    rw [pixel?, pixel?, dif_pos h, dif_pos h']
    simp only [mapPixels, Array.getElem_mapIdx, Option.map_some, mod_of_index h.1,
      div_of_index h.1]
  · have h' : ¬(x < (im.mapPixels f).width.toNat ∧ y < (im.mapPixels f).height.toNat) := h
    rw [pixel?, pixel?, dif_neg h, dif_neg h']
    rfl

end Image

end RemoteDisplay
