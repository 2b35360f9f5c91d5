/-
**Passes.**

An image comes row by row, or in seven passes, each with every so many columns of every so many
rows.  Each pixel belongs to one pass, and the pixels of a pass form an image of their own.  Each
row has the number of its prediction in front.

In a narrow image some passes go through rows without having a pixel of them.  Such rows take no
bytes, but when the size of the image is reckoned each of them counts as one byte, as if it had the
number of a prediction too.

Main definitions:

* `RemoteDisplay.Png.Pass` — the columns and rows of a pass;
* `RemoteDisplay.Png.Pass.single`, `RemoteDisplay.Png.Pass.seven` — the passes of an image;
* `RemoteDisplay.Png.Pass.Holds` — a pixel belongs to a pass;
* `RemoteDisplay.Png.Header.wanted` — how many bytes of a stream are wanted for an image.
-/
import RemoteDisplay.Png.Header

set_option relaxedAutoImplicit false
set_option autoImplicit false

namespace RemoteDisplay.Png

/-- Every `dx`-th column from `x` on of every `dy`-th row from `y` on. -/
structure Pass where
  x : Nat
  y : Nat
  dx : Nat
  dy : Nat
deriving DecidableEq, Repr

namespace Pass

/-- The one pass of an image that comes row by row. -/
def single : List Pass := [⟨0, 0, 1, 1⟩]

/-- The passes of an interlaced image. -/
def seven : List Pass :=
  [⟨0, 0, 8, 8⟩, ⟨4, 0, 8, 8⟩, ⟨0, 4, 4, 8⟩, ⟨2, 0, 4, 4⟩, ⟨0, 2, 2, 4⟩, ⟨1, 0, 2, 2⟩, ⟨0, 1, 1, 2⟩]

/-- How many of the columns or rows up to `n` a pass has, from `start` on. -/
def count (n start step : Nat) : Nat := (n - start + (step - 1)) / step

/-- How many columns of an image of width `n` are in a pass. -/
def width (p : Pass) (n : Nat) : Nat := count n p.x p.dx

/-- How many rows of an image of height `n` a pass goes through. -/
def rows (p : Pass) (n : Nat) : Nat := count n p.y p.dy

/-- How many rows of an image are in a pass; one without a column has none. -/
def height (p : Pass) (width height : Nat) : Nat := if p.width width = 0 then 0 else p.rows height

/-- Column `x` of row `y` belongs to the pass. -/
def Holds (p : Pass) (x y : Nat) : Prop :=
  p.x ≤ x ∧ p.y ≤ y ∧ (x - p.x) % p.dx = 0 ∧ (y - p.y) % p.dy = 0

instance (p : Pass) (x y : Nat) : Decidable (p.Holds x y) :=
  inferInstanceAs (Decidable (_ ∧ _ ∧ _ ∧ _))

end Pass

/-- The passes of an image. -/
def Header.passes (h : Header) : List Pass := if h.interlaced then Pass.seven else Pass.single

/-- How many bytes of a compressed stream are wanted for an image: those of its rows, and one for
each row that a pass goes through without having a pixel of it. -/
def Header.wanted (h : Header) : Nat :=
  h.passes.foldr (fun p n => p.rows h.height.toNat * (1 + h.rowSize (p.width h.width.toNat)) + n) 0

end RemoteDisplay.Png
