/-
**Real numbers in decimal.**

A decimal is a whole number times a power of ten.  Its double is the nearest one, the even one of
two that are equally near, so that a numeral has one meaning however it is spelled.  Beyond the
range of doubles it is an infinity, and a minus is kept in front of zero.

Main definitions:

* `RemoteDisplay.Number.Decimal` — digits, an exponent of ten and a sign;
* `RemoteDisplay.Number.Decimal.toFloat` — the nearest double;
* `RemoteDisplay.Number.readReal?` — reads a numeral: an optional sign, digits with an optional
  point, an optional exponent; or the name of an infinity or of the value that is no number.
-/
import RemoteDisplay.Number.Decimal

set_option relaxedAutoImplicit false
set_option autoImplicit false

namespace RemoteDisplay.Number

/-! ### Decimals -/

/-- The number `digits * 10 ^ exponent`, below zero if `negative`. -/
structure Decimal where
  negative : Bool
  digits : Nat
  exponent : Int
deriving DecidableEq, Repr, Inhabited

namespace Decimal

/-- The double nearest to a decimal, ties to even. -/
def toFloat (d : Decimal) : Float :=
  let size := Float.ofScientific d.digits (d.exponent < 0) d.exponent.natAbs
  if d.negative then -size else size

/-- The decimal of a whole number. -/
def ofInt (n : Int) : Decimal := ⟨n < 0, n.natAbs, 0⟩

/-- The decimal with the given digits before and after the point. -/
def ofDigits (negative : Bool) (whole fraction : List Char) (exponent : Int) : Decimal :=
  ⟨negative, value (whole ++ fraction), exponent - fraction.length⟩

end Decimal

/-! ### Reading -/

/-- Splits off the digits in front. -/
def takeDigits (s : List Char) : List Char × List Char := s.span isDigit

/-- The digits after a point, if there is one. -/
def takeFraction : List Char → List Char × List Char
  | '.' :: s => takeDigits s
  | s => ([], s)

/-- The exponent of ten after the letter e, zero if nothing is left. -/
def readExponent? : List Char → Option Int
  | [] => some 0
  | c :: s => if c = 'e' ∨ c = 'E' then readInt? s else none

/-- Reads digits with an optional point, at least one digit in all, and an optional exponent. -/
def readUnsigned? (negative : Bool) (s : List Char) : Option Decimal :=
  let (whole, s) := takeDigits s
  let (fraction, s) := takeFraction s
  if whole.isEmpty && fraction.isEmpty then none
  else (readExponent? s).map (Decimal.ofDigits negative whole fraction)

/-- The value that a name in any case stands for. -/
def named? (s : List Char) : Option Float :=
  let name := s.map Char.toLower
  if name = "inf".toList ∨ name = "infinity".toList then some (1 / 0)
  else if name = "nan".toList then some (0 / 0)
  else none

/-- Reads a number without its sign. -/
def readMagnitude? (negative : Bool) (s : List Char) : Option Float :=
  match named? s with
  | some x => some (if negative then -x else x)
  | none => (readUnsigned? negative s).map Decimal.toFloat

/-- Reads a real number. -/
def readReal? : List Char → Option Float
  | '-' :: s => readMagnitude? true s
  | '+' :: s => readMagnitude? false s
  | s => readMagnitude? false s

end RemoteDisplay.Number
