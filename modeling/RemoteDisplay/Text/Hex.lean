/-
**Hexadecimal digits.**

Main definitions:

* `RemoteDisplay.Text.hexDigit`, `RemoteDisplay.Text.hexValue?` — a digit and its value;
* `RemoteDisplay.Text.nibble` — the value of the last digit of a number;
* `RemoteDisplay.Text.hex` — the shortest numeral of a number, in lower case.

Main results:

* `RemoteDisplay.Text.hexValue?_hexDigit` — a digit has its value.
-/

set_option relaxedAutoImplicit false
set_option autoImplicit false

namespace RemoteDisplay.Text

/-- The digit, in lower case, of a value below sixteen. -/
def hexDigit (n : Fin 16) : Char :=
  if n.val < 10 then Char.ofNat (48 + n.val) else Char.ofNat (87 + n.val)

/-- The value of the last digit of a number. -/
def nibble (n : Nat) : Fin 16 := Fin.ofNat 16 n

/-- The value of a digit in either case. -/
def hexValue? (c : Char) : Option (Fin 16) :=
  if 48 ≤ c.toNat && c.toNat ≤ 57 then some (nibble (c.toNat - 48))
  else if 97 ≤ c.toNat && c.toNat ≤ 102 then some (nibble (c.toNat - 87))
  else if 65 ≤ c.toNat && c.toNat ≤ 70 then some (nibble (c.toNat - 55))
  else none

/-- A digit has its value. -/
@[simp] theorem hexValue?_hexDigit (n : Fin 16) : hexValue? (hexDigit n) = some n := by
  revert n
  decide

/-- The hexadecimal numeral of a number, without leading zeros. -/
def hex (n : Nat) : List Char :=
  if n < 16 then [hexDigit (nibble n)] else hex (n / 16) ++ [hexDigit (nibble n)]

end RemoteDisplay.Text
