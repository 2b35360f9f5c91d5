/-
**Compressed streams with a header.**

A compressed stream is written after a header of two bytes and before a checksum.  The header names
the method and the size of the window; together its bytes are a multiple of 31.  The checksum has to
be there, unless there are as many bytes as are wanted, but it is not compared.

A stream comes in pieces.  A further piece is looked at only where the pieces before it do not give
the bytes that are wanted.

Main definitions:

* `RemoteDisplay.Deflate.inflate` — the bytes of the front of a stream with a header;
* `RemoteDisplay.Deflate.decompress?` — the bytes of a stream in pieces;
* `RemoteDisplay.Deflate.store` — a stream that holds some bytes as they are.
-/
import RemoteDisplay.Bytes
import RemoteDisplay.Deflate.Inflate

set_option relaxedAutoImplicit false
set_option autoImplicit false

namespace RemoteDisplay.Deflate

/-! ### Reading -/

/-- The header of a stream can be read: the method is the only one there is, the window is not
larger than 32 KiB, there is no dictionary, and the check holds. -/
def headerOk (method flags : UInt8) : Bool :=
  method &&& 0x0F == 8 && method >>> 4 ≤ 7 && flags &&& 0x20 == 0
    && (256 * method.toNat + flags.toNat) % 31 == 0

/-- Reads a header, some blocks, and a checksum. -/
def stream (wanted limit : Nat) : Reader Progress := do
  let method ← byte
  let flags ← byte
  if !headerOk method flags then throw .corrupt
  let progress ← blocks wanted limit limit #[]
  if progress.ended then
    goOn wanted progress.out do
      align
      let _ ← halfWord
      let _ ← halfWord
      return progress
  else return progress

/-- The bytes of a stream with a header, as many as are wanted or all of them. -/
def inflate (wanted : Nat) (bytes : List UInt8) : Except Stop (Array UInt8) :=
  let s := Bits.ofBytes bytes
  ((stream wanted (s.length + 1)).run s).map fun (progress, _) => progress.out

/-- The bytes of a stream whose front has been seen without giving them, and the pieces after it. -/
def decompressAfter? (wanted : Nat) (seen : List UInt8) : List (List UInt8) → Option (Array UInt8)
  | [] => none
  | piece :: pieces =>
    match inflate wanted (seen ++ piece) with
    | .ok out => some out
    | .error .corrupt => none
    | .error .short => decompressAfter? wanted (seen ++ piece) pieces

/-- The bytes of a stream in pieces. -/
def decompress? (wanted : Nat) (pieces : List (List UInt8)) : Option (Array UInt8) :=
  decompressAfter? wanted [] pieces

/-! ### Writing -/

/-- The checksum after a stream: two sums modulo the largest prime below `2 ^ 16`. -/
def adler (bytes : List UInt8) : UInt32 :=
  let (a, b) := bytes.foldl (fun (a, b) byte =>
    let a := (a + byte.toNat) % 65521
    (a, (b + a) % 65521)) (1, 0)
  (65536 * b + a).toUInt32

/-- The longest block of bytes that are held as they are. -/
def maxStored : Nat := 65535

/-- A block that holds some bytes as they are. -/
def storedBlock (last : Bool) (bytes : List UInt8) : List UInt8 :=
  let n := bytes.length
  let inverted := maxStored - n
  [if last then 1 else 0, (n % 256).toUInt8, (n / 256).toUInt8, (inverted % 256).toUInt8,
    (inverted / 256).toUInt8] ++ bytes

/-- A number of full blocks and a last one. -/
def storedBlocks : Nat → List UInt8 → List UInt8
  | 0, bytes => storedBlock true bytes
  | n + 1, bytes =>
    storedBlock false (bytes.take maxStored) ++ storedBlocks n (bytes.drop maxStored)

/-- A stream that holds some bytes as they are. -/
def store (bytes : List UInt8) : List UInt8 :=
  [0x78, 0x01] ++ storedBlocks (bytes.length / maxStored) bytes ++ Bytes.ofWordBig (adler bytes)

end RemoteDisplay.Deflate
