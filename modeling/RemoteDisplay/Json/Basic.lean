/-
**JSON values.**

A value is read from a text and written to one.  Two kinds of numbers are told apart: integers,
which are spelled with neither a point nor an exponent, and the other decimals.  Minus zero is no
integer.

An escape in a string may name half of a surrogate pair, and then the string stands for no text.
Such a string is harmless where nobody asks for its text.

Main definitions:

* `RemoteDisplay.Json` — values;
* `RemoteDisplay.Json.ofText` — the value of a text.
-/
import RemoteDisplay.Number.Real

set_option relaxedAutoImplicit false
set_option autoImplicit false

namespace RemoteDisplay

/-- A JSON value.  A string without a text holds half of a surrogate pair. -/
inductive Json where
  | null
  | bool (b : Bool)
  | integer (n : Int)
  | decimal (d : Number.Decimal)
  | string (text : Option String)
  | array (items : List Json)
  | object (members : List (Option String × Json))
deriving Inhabited

namespace Json

/-- The value of a text. -/
def ofText (s : String) : Json := string (some s)

/-- An object with the given members. -/
def ofMembers (members : List (String × Json)) : Json :=
  object (members.map fun m => (some m.1, m.2))

end Json

end RemoteDisplay
