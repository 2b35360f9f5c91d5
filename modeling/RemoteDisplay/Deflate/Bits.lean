/-
**Bits of a stream of bytes.**

A compressed stream is read bit by bit, each byte from its least significant bit on.  A number of
several bits starts with its least significant one.  From time to time the stream goes on at the
next whole byte, and what is left of the current byte is passed over.

A stream may arrive in pieces, so that a reader that finds too few bits has not failed for good:
with the next piece it may get further.  That is kept apart from bits that make no sense.

Main definitions:

* `RemoteDisplay.Deflate.Bits` — a stream of bits;
* `RemoteDisplay.Deflate.Stop` — why reading stops;
* `RemoteDisplay.Deflate.Reader` — something that is read from the front of a stream;
* `RemoteDisplay.Deflate.bit`, `RemoteDisplay.Deflate.number`, `RemoteDisplay.Deflate.align`,
  `RemoteDisplay.Deflate.byte`, `RemoteDisplay.Deflate.need` — the readers that all others are made
  of.
-/

set_option relaxedAutoImplicit false
set_option autoImplicit false

namespace RemoteDisplay.Deflate

/-- The bits of a byte, least significant first. -/
def byteBits (b : UInt8) : List Bool := (List.range 8).map b.toNat.testBit

/-- What is left of the current byte, and the bytes after it. -/
structure Bits where
  pending : List Bool
  bytes : List UInt8
deriving Repr

namespace Bits

/-- A stream that has not been read from. -/
def ofBytes (bytes : List UInt8) : Bits := ⟨[], bytes⟩

/-- How many bits are left. -/
def length (s : Bits) : Nat := s.pending.length + 8 * s.bytes.length

/-- At least `n` bits are left; no more bytes than that are looked at. -/
def has (s : Bits) (n : Nat) : Bool := n ≤ s.pending.length + 8 * (s.bytes.take n).length

end Bits

/-- Why reading stops. -/
inductive Stop where
  /-- There are too few bits. -/
  | short
  /-- The bits make no sense. -/
  | corrupt
deriving DecidableEq, Repr

/-- Something that is read from the front of a stream of bits. -/
abbrev Reader (α : Type) : Type := StateT Bits (Except Stop) α

/-- One bit. -/
def bit : Reader Bool := fun s =>
  match s.pending with
  | b :: pending => .ok (b, ⟨pending, s.bytes⟩)
  | [] =>
    match s.bytes with
    | [] => .error .short
    | b :: bytes =>
      match byteBits b with
      | [] => .error .short
      | b :: pending => .ok (b, ⟨pending, bytes⟩)

/-- A number of some bits, least significant first. -/
def number : Nat → Reader Nat
  | 0 => pure 0
  | n + 1 => do
    let low ← bit
    let high ← number n
    return low.toNat + 2 * high

/-- Goes on at the next whole byte. -/
def align : Reader Unit := fun s => .ok ((), ⟨[], s.bytes⟩)

/-- One whole byte, where a byte begins. -/
def byte : Reader UInt8 := fun s =>
  match s.bytes with
  | [] => .error .short
  | b :: bytes => .ok (b, ⟨s.pending, bytes⟩)

/-- Reads nothing, and goes on only if there are so many bits. -/
def need (n : Nat) : Reader Unit := fun s => if s.has n then .ok ((), s) else .error .short

end RemoteDisplay.Deflate
