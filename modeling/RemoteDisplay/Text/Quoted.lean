/-
**Quoted text in messages.**

A message that repeats a text it was given puts it between double quotes, so that its ends and all
that is hard to see in it show.  A double quote and a backslash get a backslash in front; NUL, tab,
line feed and carriage return have short names; any other character that has no visible form of its
own, or that would change the character before it, is written as its code point.  All else stands
for itself.

Main definitions:

* `RemoteDisplay.Text.escape` — how one character is written between quotes;
* `RemoteDisplay.Text.quoted` — a text between quotes.
-/
import RemoteDisplay.Text.Combining
import RemoteDisplay.Text.Hex
import RemoteDisplay.Text.Unprintable

set_option relaxedAutoImplicit false
set_option autoImplicit false

namespace RemoteDisplay.Text

/-- The code point of a character between braces, after a backslash and the letter u. -/
def codePoint (c : Char) : List Char := ['\\', 'u', '{'] ++ hex c.toNat ++ ['}']

/-- How a character is written between quotes. -/
def escape (c : Char) : List Char :=
  if c = '"' then ['\\', '"']
  else if c = '\\' then ['\\', '\\']
  else if c = '\x00' then ['\\', '0']
  else if c = '\t' then ['\\', 't']
  else if c = '\n' then ['\\', 'n']
  else if c = '\r' then ['\\', 'r']
  else if ' ' ≤ c && c ≤ '~' then [c]
  else if isUnprintable c || isCombining c then codePoint c
  else [c]

/-- A text between double quotes. -/
def quoted (s : String) : String :=
  String.ofList (['"'] ++ s.toList.flatMap escape ++ ['"'])

end RemoteDisplay.Text
