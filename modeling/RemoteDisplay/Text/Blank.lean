/-
**Blanks and tokens.**

A blank is a character with the Unicode property `White_Space`; core's class of white space knows
only the ASCII ones, so the property is written out here.  A text is cut into tokens, its maximal
runs of characters that are no blanks.

Main definitions:

* `RemoteDisplay.Text.isBlank` — the property `White_Space`;
* `RemoteDisplay.Text.tokens` — the tokens of a text, in order.
-/
import RemoteDisplay.Text.Ranges

set_option relaxedAutoImplicit false
set_option autoImplicit false

namespace RemoteDisplay.Text

/-! ### Blanks -/

/-- The code points with the property `White_Space`. -/
def blanks : Ranges :=
  [(0x9, 0xd), (0x20, 0x20), (0x85, 0x85), (0xa0, 0xa0), (0x1680, 0x1680), (0x2000, 0x200a),
   (0x2028, 0x2029), (0x202f, 0x202f), (0x205f, 0x205f), (0x3000, 0x3000)]

/-- The character separates tokens. -/
def isBlank (c : Char) : Bool := blanks.has c

/-! ### Tokens -/

/-- Puts a character in front of the first of some pieces of text. -/
def extendFirst (c : Char) : List (List Char) → List (List Char)
  | [] => [[c]]
  | piece :: pieces => (c :: piece) :: pieces

/-- The text cut at every blank; the pieces may be empty. -/
def cut (s : List Char) : List (List Char) :=
  s.foldr (fun c pieces => if isBlank c then [] :: pieces else extendFirst c pieces) [[]]

/-- The maximal runs of characters that are no blanks. -/
def tokens (s : List Char) : List (List Char) := (cut s).filter fun piece => !piece.isEmpty

theorem cut_cons (c : Char) (s : List Char) :
    cut (c :: s) = if isBlank c then [] :: cut s else extendFirst c (cut s) := rfl

end RemoteDisplay.Text
