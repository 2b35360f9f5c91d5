/-
**Rectangles of the remote screen.**

A rectangle is given by its four bounds.  It is half-open: `right` and `bottom` are not part of it,
so it covers `right - left` columns and `bottom - top` rows.  Nothing keeps a header from holding
bounds in the wrong order; such a rectangle is inverted, and its width or height counts as zero.

Main definitions:

* `RemoteDisplay.Rect` — four bounds;
* `RemoteDisplay.Rect.width`, `RemoteDisplay.Rect.height` — the sides, zero where inverted;
* `RemoteDisplay.Rect.isInverted`, `RemoteDisplay.Rect.isEmpty` — bounds in the wrong order, and no
  pixel at all;
* `RemoteDisplay.Rect.Contains` — the pixels of a rectangle.

Main results:

* `RemoteDisplay.Rect.toNat_width`, `RemoteDisplay.Rect.toNat_height` — the sides as truncated
  differences of natural numbers.
-/

set_option relaxedAutoImplicit false
set_option autoImplicit false

namespace RemoteDisplay

/-- A half-open rectangle of pixels: columns `left` up to `right`, rows `top` up to `bottom`. -/
structure Rect where
  left : UInt32
  top : UInt32
  right : UInt32
  bottom : UInt32
deriving DecidableEq, Repr, Inhabited

namespace Rect

/-! ### Sides -/

/-- The number of columns, zero if the bounds are in the wrong order. -/
def width (r : Rect) : UInt32 := if r.left ≤ r.right then r.right - r.left else 0

/-- The number of rows, zero if the bounds are in the wrong order. -/
def height (r : Rect) : UInt32 := if r.top ≤ r.bottom then r.bottom - r.top else 0

/-- Some bound lies before its opposite bound. -/
def isInverted (r : Rect) : Bool := r.right < r.left || r.bottom < r.top

/-- The rectangle covers no pixel. -/
def isEmpty (r : Rect) : Bool := r.width == 0 || r.height == 0

/-- Pixel `(x, y)` lies in the rectangle. -/
def Contains (r : Rect) (x y : Nat) : Prop :=
  r.left.toNat ≤ x ∧ x < r.right.toNat ∧ r.top.toNat ≤ y ∧ y < r.bottom.toNat

instance (r : Rect) (x y : Nat) : Decidable (r.Contains x y) :=
  inferInstanceAs (Decidable (_ ∧ _ ∧ _ ∧ _))

theorem toNat_width (r : Rect) : r.width.toNat = r.right.toNat - r.left.toNat := by
  unfold width
  split
  next h => exact UInt32.toNat_sub_of_le _ _ h
  next h =>
    rw [UInt32.le_iff_toNat_le] at h
    simp
    omega

theorem toNat_height (r : Rect) : r.height.toNat = r.bottom.toNat - r.top.toNat := by
  unfold height
  split
  next h => exact UInt32.toNat_sub_of_le _ _ h
  next h =>
    rw [UInt32.le_iff_toNat_le] at h
    simp
    omega

/-! ### Text -/

/-- The rectangle as its two corners. -/
def text (r : Rect) : String :=
  "(" ++ toString r.left ++ "," ++ toString r.top ++ ")-(" ++ toString r.right ++ ","
    ++ toString r.bottom ++ ")"

end Rect

end RemoteDisplay
