/-
**Writing JSON.**

A value is written either in one line without blanks, or spread over lines, each level of nesting
two columns deeper and a blank after each colon.

In a string a quotation mark, a backslash and the five control characters with short names are
escaped by a letter, the other control characters by their unit of UTF-16; nothing else is.

Main definitions:

* `RemoteDisplay.Json.compact` — a value in one line;
* `RemoteDisplay.Json.pretty` — a value spread over lines.
-/
import RemoteDisplay.Json.Basic
import RemoteDisplay.Text.Hex

set_option relaxedAutoImplicit false
set_option autoImplicit false

namespace RemoteDisplay.Json

/-! ### Scalars -/

/-- How a character is written in a string. -/
def escapeChar (c : Char) : List Char :=
  if c = '"' then ['\\', '"']
  else if c = '\\' then ['\\', '\\']
  else if c = '\x08' then ['\\', 'b']
  else if c = '\x0c' then ['\\', 'f']
  else if c = '\n' then ['\\', 'n']
  else if c = '\r' then ['\\', 'r']
  else if c = '\t' then ['\\', 't']
  else if c < ' ' then
    ['\\', 'u', '0', '0', Text.hexDigit (Text.nibble (c.toNat / 16)),
      Text.hexDigit (Text.nibble c.toNat)]
  else [c]

/-- A string between quotation marks; one that stands for no text is half of a surrogate pair. -/
def writeString : Option String → List Char
  | some s => ['"'] ++ s.toList.flatMap escapeChar ++ ['"']
  | none => "\"\\ud800\"".toList

/-- A decimal: its sign, its digits and its exponent. -/
def writeDecimal (d : Number.Decimal) : List Char :=
  (if d.negative then ['-'] else []) ++ Number.numeral d.digits ++ ['e'] ++ Number.signed d.exponent

/-! ### One line -/

/-- A list of texts between a pair of brackets, commas between them. -/
def enclose (first last : Char) (separator : List Char) (texts : List (List Char)) : List Char :=
  [first] ++ List.intercalate separator texts ++ [last]

mutual

/-- A value in one line, without blanks. -/
def compact : Json → List Char
  | null => "null".toList
  | bool true => "true".toList
  | bool false => "false".toList
  | integer n => Number.signed n
  | decimal d => writeDecimal d
  | string s => writeString s
  | array items => enclose '[' ']' [','] (compactItems items)
  | object members => enclose '{' '}' [','] (compactMembers members)

/-- The items of an array. -/
def compactItems : List Json → List (List Char)
  | [] => []
  | v :: rest => compact v :: compactItems rest

/-- The members of an object. -/
def compactMembers : List (Option String × Json) → List (List Char)
  | [] => []
  | (k, v) :: rest => (writeString k ++ [':'] ++ compact v) :: compactMembers rest

end

/-! ### Spread over lines -/

/-- A new line at a level of nesting. -/
def newLine (level : Nat) : List Char := '\n' :: List.replicate (2 * level) ' '

/-- A list of texts between a pair of brackets, each on a line of its own. -/
def encloseLines (first last : Char) (level : Nat) (texts : List (List Char)) : List Char :=
  if texts.isEmpty then [first, last]
  else
    [first] ++ newLine (level + 1) ++ List.intercalate (',' :: newLine (level + 1)) texts
      ++ newLine level ++ [last]

mutual

/-- A value spread over lines, at a level of nesting. -/
def prettyAt (level : Nat) : Json → List Char
  | array items => encloseLines '[' ']' level (prettyItems (level + 1) items)
  | object members => encloseLines '{' '}' level (prettyMembers (level + 1) members)
  | v => compact v

/-- The items of an array, at a level of nesting. -/
def prettyItems (level : Nat) : List Json → List (List Char)
  | [] => []
  | v :: rest => prettyAt level v :: prettyItems level rest

/-- The members of an object, at a level of nesting. -/
def prettyMembers (level : Nat) : List (Option String × Json) → List (List Char)
  | [] => []
  | (k, v) :: rest => (writeString k ++ [':', ' '] ++ prettyAt level v) :: prettyMembers level rest

end

/-- A value spread over lines. -/
def pretty (v : Json) : List Char := prettyAt 0 v

/-! ### Texts -/

/-- The text of a value in one line. -/
def compactText (v : Json) : String := String.ofList v.compact

/-- The text of a value spread over lines. -/
def prettyText (v : Json) : String := String.ofList v.pretty

end RemoteDisplay.Json
