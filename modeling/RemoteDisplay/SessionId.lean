/-
**Identifiers of sessions.**

A session is identified by 32 hexadecimal digits.  They are written in lower case in five groups
with hyphens between them.  They are read in any case, with these hyphens or with none; with
hyphens they may also stand between braces or after the name of their kind.

Main definitions:

* `RemoteDisplay.SessionId` — 32 digits;
* `RemoteDisplay.SessionId.ofRandom?` — an identifier picked at random;
* `RemoteDisplay.SessionId.text`, `RemoteDisplay.SessionId.ofText?` — writing and reading.
-/
import RemoteDisplay.Text.Hex

set_option relaxedAutoImplicit false
set_option autoImplicit false

namespace RemoteDisplay

/-- The identifier of a session. -/
structure SessionId where
  digits : List (Fin 16)
  length_digits : digits.length = 32
deriving DecidableEq, Repr

namespace SessionId

/-- The identifier whose digits are all zero. -/
def zero : SessionId := ⟨List.replicate 32 (Text.nibble 0), List.length_replicate⟩

/-- The identifier with some digits, if there are 32. -/
def ofDigits? (digits : List (Fin 16)) : Option SessionId :=
  if h : digits.length = 32 then some ⟨digits, h⟩ else none

/-- The identifier with some digits picked at random, if there are 32: the first digit of the third
group says that they are random, and the first of the fourth how they are laid out. -/
def ofRandom? (digits : List (Fin 16)) : Option SessionId :=
  ofDigits? ((digits.set 12 (Text.nibble 4)).modify 16 fun d => Text.nibble (8 + d.val % 4))

/-- The identifier that some characters spell without hyphens. -/
def ofPlain? (s : List Char) : Option SessionId := (s.mapM Text.hexValue?).bind ofDigits?

/-- Puts hyphens between groups of 8, 4, 4, 4 and 12 characters. -/
def hyphenate (s : List Char) : List Char :=
  s.take 8 ++ ['-'] ++ (s.drop 8).take 4 ++ ['-'] ++ (s.drop 12).take 4 ++ ['-']
    ++ (s.drop 16).take 4 ++ ['-'] ++ s.drop 20

/-- Takes away the hyphens between groups of 8, 4, 4, 4 and 12 characters. -/
def unhyphenate (s : List Char) : List Char :=
  s.take 8 ++ (s.drop 9).take 4 ++ (s.drop 14).take 4 ++ (s.drop 19).take 4 ++ s.drop 24

/-- The identifier that some characters spell with hyphens. -/
def ofHyphenated? (s : List Char) : Option SessionId :=
  if hyphenate (unhyphenate s) = s then ofPlain? (unhyphenate s) else none

/-- The name that may stand in front of an identifier, in any case. -/
def kind : List Char := "urn:uuid:".toList

/-- What an identifier with hyphens is written in: braces, the name of its kind, or nothing. -/
def unwrap (s : List Char) : List Char :=
  if s.length = 38 ∧ s.head? = some '{' ∧ s.getLast? = some '}' then (s.drop 1).take 36
  else if s.length = 45 ∧ (s.take 9).map Char.toLower = kind then s.drop 9
  else s

/-- The identifier that a text spells. -/
def ofText? (s : String) : Option SessionId :=
  if s.length = 32 then ofPlain? s.toList else ofHyphenated? (unwrap s.toList)

/-- The text of an identifier. -/
def text (id : SessionId) : String := String.ofList (hyphenate (id.digits.map Text.hexDigit))

end SessionId

end RemoteDisplay
