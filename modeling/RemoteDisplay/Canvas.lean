/-
**Canvases.**

A canvas either keeps pixels, or it only records what is drawn on it.  One that records may refuse
to be drawn on.  The canvases of a program are numbered, and a directory gives names to some of
them; if a name is given twice, the later one counts.

A canvas that keeps pixels is transparent at first.  Its pixels are made when something is drawn on
it, so that a large canvas on which nothing is drawn takes no memory.

Main definitions:

* `RemoteDisplay.Draw` — an image drawn into a rectangle;
* `RemoteDisplay.Canvas` — a canvas, with its geometry, its pixels and what has been recorded;
* `RemoteDisplay.Canvas.fits` — whether memory can hold the pixels of a canvas;
* `RemoteDisplay.Canvas.image?`, `RemoteDisplay.Canvas.pixel?` — all pixels of a canvas, and one;
* `RemoteDisplay.Canvas.draw`, `RemoteDisplay.Canvas.place` — drawing, and showing it elsewhere;
* `RemoteDisplay.Directory` — names of canvases.

Main results:

* `RemoteDisplay.Canvas.pixel?_eq` — a pixel can be asked for without making them all;
* `RemoteDisplay.Canvas.image?_draw` — a canvas that keeps pixels is painted;
* `RemoteDisplay.Canvas.image?_place` — showing a canvas elsewhere changes none of its pixels;
* `RemoteDisplay.Canvas.geometry_draw` — drawing changes no geometry.
-/
import RemoteDisplay.Geometry
import RemoteDisplay.Png.Encode
import RemoteDisplay.Raster.Draw

set_option relaxedAutoImplicit false
set_option autoImplicit false

namespace RemoteDisplay

/-- An image drawn into a rectangle. -/
structure Draw where
  dest : Rect
  image : Image
deriving DecidableEq, Repr

/-- What is recorded of an image drawn into a rectangle: the rectangle and the size of the image. -/
structure DrawRecord where
  dest : Rect
  width : UInt32
  height : UInt32
deriving DecidableEq, Repr

/-- What is recorded of a draw. -/
def Draw.record (d : Draw) : DrawRecord := ⟨d.dest, d.image.width, d.image.height⟩

/-- Something that is drawn on. -/
inductive Canvas where
  /-- A canvas that keeps its pixels, before anything is drawn on it: they are transparent. -/
  | blank (geometry : Geometry)
  /-- A canvas that keeps its pixels. -/
  | framebuffer (image : Image) (bbox : BoundingBox)
  /-- A canvas that records what is drawn on it, unless it refuses to be drawn on. -/
  | recorder (geometry : Geometry) (drawable : Bool) (records : List DrawRecord)
deriving DecidableEq, Repr

namespace Canvas

/-- Memory can hold the pixels of a canvas, four bytes for each. -/
def fits (g : Geometry) : Bool := 4 * (g.width.toNat * g.height.toNat) ≤ Image.maxBytes

/-- The two sizes of a canvas. -/
def geometry : Canvas → Geometry
  | blank g => g
  | framebuffer im bbox => ⟨im.width, im.height, bbox⟩
  | recorder g _ _ => g

/-- The canvas can be drawn on. -/
def isDrawable : Canvas → Bool
  | blank _ => true
  | framebuffer _ _ => true
  | recorder _ drawable _ => drawable

/-- The pixels of a canvas that keeps them. -/
def image? : Canvas → Option Image
  | blank g => some (.fill g.width g.height .clear)
  | framebuffer im _ => some im
  | recorder _ _ _ => none

/-- The pixel at column `x` of row `y`, if the canvas keeps pixels and has one there. -/
def pixel? : Canvas → Nat → Nat → Option Pixel
  | blank g, x, y => if x < g.width.toNat ∧ y < g.height.toNat then some .clear else none
  | framebuffer im _, x, y => im.pixel? x y
  | recorder _ _ _, _, _ => none

/-- What a canvas has recorded. -/
def records : Canvas → List DrawRecord
  | blank _ => []
  | framebuffer _ _ => []
  | recorder _ _ records => records

/-- The canvas after a draw. -/
def draw (c : Canvas) (d : Draw) : Canvas :=
  match c with
  | blank g => framebuffer ((Image.fill g.width g.height .clear).draw d.image d.dest) g.bbox
  | framebuffer im bbox => framebuffer (im.draw d.image d.dest) bbox
  | recorder g drawable records => recorder g drawable (records ++ [d.record])

/-- The canvas shown elsewhere.  The logical size of a canvas that keeps pixels never changes. -/
def place (c : Canvas) (g : Geometry) : Canvas :=
  match c with
  | blank old => blank { old with bbox := g.bbox }
  | framebuffer im _ => framebuffer im g.bbox
  | recorder _ drawable records => recorder g drawable records

/-- The image file of a canvas, if it keeps pixels and has any. -/
def file? (c : Canvas) : Option (List UInt8) := c.image?.bind Png.encode?

/-- The wording for a canvas that could not be saved. -/
def saveFailure (path : String) : String := "failed to save framebuffer to " ++ path

/-- A pixel can be asked for without making them all. -/
theorem pixel?_eq (c : Canvas) (x y : Nat) :
    c.pixel? x y = c.image?.bind fun im => im.pixel? x y := by
  cases c with
  | blank g => exact (Image.pixel?_fill g.width g.height .clear x y).symm
  | framebuffer im bbox => rfl
  | recorder g drawable records => rfl

/-- A canvas that keeps pixels is painted. -/
theorem image?_draw (c : Canvas) (d : Draw) :
    (c.draw d).image? = c.image?.map fun im => im.draw d.image d.dest := by
  cases c <;> rfl

/-- Showing a canvas elsewhere changes none of its pixels. -/
theorem image?_place (c : Canvas) (g : Geometry) : (c.place g).image? = c.image? := by
  cases c <;> rfl

theorem size_draw (canvas im : Image) (dest : Rect) :
    (canvas.draw im dest).width = canvas.width ∧ (canvas.draw im dest).height = canvas.height := by
  unfold Image.draw
  split
  · exact ⟨rfl, rfl⟩
  · split <;> exact ⟨rfl, rfl⟩

/-- Drawing changes no geometry. -/
theorem geometry_draw (c : Canvas) (d : Draw) : (c.draw d).geometry = c.geometry := by
  cases c with
  | blank g => simp [draw, geometry, size_draw, Image.fill]
  | framebuffer im bbox => simp [draw, geometry, size_draw]
  | recorder g drawable records => rfl

end Canvas

/-! ### Names of canvases -/

/-- The number of a canvas. -/
abbrev CanvasRef : Type := Nat

/-- The canvases of a program, by their numbers. -/
abbrev Canvases : Type := List Canvas

/-- Names of canvases, the later ones last. -/
abbrev Directory : Type := List (String × CanvasRef)

/-- The canvas with a name: the last one that was given it. -/
def Directory.find? (d : Directory) (name : String) : Option CanvasRef :=
  (d.reverse.find? fun entry => entry.1 == name).map Prod.snd

end RemoteDisplay
