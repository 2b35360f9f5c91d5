/-
**Reading JSON.**

The tokens of a text are read from left to right.  What has been read is remembered as the
containers that are still open, the innermost first, each with what is complete in it; so there is
no limit to how deep containers may nest.

Main definitions:

* `RemoteDisplay.Json.Outer` — a container that is still open;
* `RemoteDisplay.Json.Reading`, `RemoteDisplay.Json.Reading.next?` — what must come next, and a
  step;
* `RemoteDisplay.Json.parse?` — the value of a text.
-/
import RemoteDisplay.Json.Token

set_option relaxedAutoImplicit false
set_option autoImplicit false

namespace RemoteDisplay.Json

/-- A container that is still open, with what is complete in it, last first. -/
inductive Outer where
  | array (items : List Json)
  | object (members : List (Option String × Json)) (key : Option String)

/-- What must come next, and the containers still open, innermost first. -/
inductive Reading where
  /-- A value. -/
  | value (outer : List Outer)
  /-- A value, or the end of the array that has just begun. -/
  | firstItem (outer : List Outer)
  /-- A key, or the end of the object that has just begun. -/
  | firstKey (outer : List Outer)
  /-- The next key of an object. -/
  | key (members : List (Option String × Json)) (outer : List Outer)
  /-- The colon after a key. -/
  | colon (members : List (Option String × Json)) (key : Option String) (outer : List Outer)
  /-- What follows a complete value. -/
  | after (v : Json) (outer : List Outer)

namespace Reading

/-- Begins a value. -/
def begin? (outer : List Outer) : Token → Option Reading
  | .scalar v => some (after v outer)
  | .string s => some (after (.string s) outer)
  | .openBracket => some (firstItem outer)
  | .openBrace => some (firstKey outer)
  | _ => none

/-- Reads one token. -/
def next? : Reading → Token → Option Reading
  | value outer, t => begin? outer t
  | firstItem outer, .closeBracket => some (after (.array []) outer)
  | firstItem outer, t => begin? (.array [] :: outer) t
  | firstKey outer, .closeBrace => some (after (.object []) outer)
  | firstKey outer, .string k => some (colon [] k outer)
  | key members outer, .string k => some (colon members k outer)
  | colon members k outer, .colon => some (value (.object members k :: outer))
  | after v (.array items :: outer), .comma => some (value (.array (v :: items) :: outer))
  | after v (.array items :: outer), .closeBracket =>
    some (after (.array (v :: items).reverse) outer)
  | after v (.object members k :: outer), .comma => some (key ((k, v) :: members) outer)
  | after v (.object members k :: outer), .closeBrace =>
    some (after (.object ((k, v) :: members).reverse) outer)
  | _, _ => none

/-- The value that has been read, if it is complete and nothing is open. -/
def result? : Reading → Option Json
  | after v [] => some v
  | _ => none

end Reading

/-- The value that some tokens spell. -/
def ofTokens? (ts : List Token) : Option Json :=
  (ts.foldlM Reading.next? (.value [])).bind Reading.result?

/-- The value that a text spells. -/
def parse? (s : String) : Option Json := (tokens? s.toList).bind ofTokens?

end RemoteDisplay.Json
