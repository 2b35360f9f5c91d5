/-
**Words as bytes.**

A 32-bit word travels as four bytes: least significant first in a frame header, most significant
first in an image file.  Both orders are a bijection between words and quadruples of bytes.

Main definitions:

* `RemoteDisplay.Bytes.ofWord`, `RemoteDisplay.Bytes.word` — a word and its four bytes, least
  significant first;
* `RemoteDisplay.Bytes.ofWordBig`, `RemoteDisplay.Bytes.wordBig` — the same, most significant first.

Main results:

* `RemoteDisplay.Bytes.length_ofWord` — a word takes four bytes.
-/

set_option relaxedAutoImplicit false
set_option autoImplicit false

namespace RemoteDisplay.Bytes

/-! ### Least significant byte first -/

/-- The four bytes of a word, least significant first. -/
def ofWord (w : UInt32) : List UInt8 :=
  [w.toUInt8, (w >>> 8).toUInt8, (w >>> 16).toUInt8, (w >>> 24).toUInt8]

/-- The word whose bytes are `a`, `b`, `c`, `d`, least significant first. -/
def word (a b c d : UInt8) : UInt32 :=
  a.toUInt32 ||| (b.toUInt32 <<< 8) ||| (c.toUInt32 <<< 16) ||| (d.toUInt32 <<< 24)

@[simp] theorem length_ofWord (w : UInt32) : (ofWord w).length = 4 := rfl

/-! ### Most significant byte first -/

/-- The four bytes of a word, most significant first. -/
def ofWordBig (w : UInt32) : List UInt8 := (ofWord w).reverse

/-- The word whose bytes are `a`, `b`, `c`, `d`, most significant first. -/
def wordBig (a b c d : UInt8) : UInt32 := word d c b a

end RemoteDisplay.Bytes
