/-
**Rows of samples.**

Before compression each row of an image is filtered: its bytes are differences to a prediction made
from the byte one pixel to the left, the byte above, and the byte above the left one.  The number of
the prediction stands in front of the row.  Outside the image bytes count as zero.

Main definitions:

* `RemoteDisplay.Png.Filter`, `RemoteDisplay.Png.Filter.predict` — the five predictions;
* `RemoteDisplay.Png.unfilter` — a row from its differences and the row above it;
* `RemoteDisplay.Png.rows?` — the rows at the front of some bytes.
-/

set_option relaxedAutoImplicit false
set_option autoImplicit false

namespace RemoteDisplay.Png

/-! ### Predictions -/

/-- How a byte is predicted. -/
inductive Filter where
  | zero
  | left
  | up
  | average
  | nearest
deriving DecidableEq, Repr

namespace Filter

/-- The prediction with a number. -/
def ofCode? : UInt8 → Option Filter
  | 0 => some zero
  | 1 => some left
  | 2 => some up
  | 3 => some average
  | 4 => some nearest
  | _ => none

/-- Of three bytes, the one nearest to `a + b - c`; of equally near ones, the first. -/
def nearestOf (a b c : UInt8) : UInt8 :=
  let p : Int := (a.toNat : Int) + b.toNat - c.toNat
  let distance (x : UInt8) : Nat := (p - x.toNat).natAbs
  if distance a ≤ distance b ∧ distance a ≤ distance c then a
  else if distance b ≤ distance c then b
  else c

/-- The prediction from the byte to the left, the byte above, and the byte above the left one. -/
def predict (f : Filter) (a b c : UInt8) : UInt8 :=
  match f with
  | zero => 0
  | left => a
  | up => b
  | average => ((a.toNat + b.toNat) / 2).toUInt8
  | nearest => nearestOf a b c

end Filter

/-! ### Rows -/

/-- The byte some places to the left of the end. -/
def back (row : Array UInt8) (i stride : Nat) : UInt8 :=
  if stride ≤ i then row.getD (i - stride) 0 else 0

/-- A row from its differences and the row above it. -/
def unfilter (f : Filter) (stride : Nat) (above : Array UInt8) (differences : List UInt8) :
    Array UInt8 :=
  differences.foldl (fun row d =>
    let i := row.size
    row.push (d + f.predict (back row i stride) (above.getD i 0) (back above i stride))) #[]

/-- A number of rows of the given size at the front of some bytes, below a row, and the bytes after
them. -/
def rowsBelow? (size stride : Nat) :
    Nat → Array UInt8 → List UInt8 → Option (List (Array UInt8) × List UInt8)
  | 0, _, bytes => some ([], bytes)
  | n + 1, above, bytes =>
    match bytes with
    | [] => none
    | code :: bytes => do
      let filter ← Filter.ofCode? code
      let row := unfilter filter stride above (bytes.take size)
      guard (row.size = size)
      let (rows, rest) ← rowsBelow? size stride n row (bytes.drop size)
      return (row :: rows, rest)

/-- A number of rows of the given size at the front of some bytes, and the bytes after them. -/
def rows? (size stride count : Nat) (bytes : List UInt8) :
    Option (Array (Array UInt8) × List UInt8) :=
  (rowsBelow? size stride count #[] bytes).map fun (rows, rest) => (rows.toArray, rest)

end RemoteDisplay.Png
