/-
**Compressed blocks.**

A compressed stream is a sequence of blocks, the last one marked as such.  A block either holds
bytes as they are, or it is a sequence of symbols of a code.  A symbol stands for a byte, for the
end of the block, or, with a symbol of a second code, for a copy of bytes that came earlier.  Both
codes are either fixed or described at the head of the block, by the lengths of their words; these
lengths are compressed in turn, by a third code.

It is known how many bytes are wanted at most.  Reading stops once there are so many: the rest of
the stream need not be there, nor make any sense.  Only what stands between the last of these bytes
and the next one is still looked at, as far as it is there: the end of the block, and the heads of
the blocks after it.

Each symbol takes at least one bit and each block at least three, so the number of bits bounds all
loops.

Main definitions:

* `RemoteDisplay.Deflate.Codes`, `RemoteDisplay.Deflate.fixedCodes`,
  `RemoteDisplay.Deflate.describedCodes` — the two codes of a block;
* `RemoteDisplay.Deflate.copyBack` — a copy of bytes that came earlier;
* `RemoteDisplay.Deflate.Progress` — how far a block or a stream has been read;
* `RemoteDisplay.Deflate.Found`, `RemoteDisplay.Deflate.Codes.find` — what comes next in a block;
* `RemoteDisplay.Deflate.block`, `RemoteDisplay.Deflate.blocks` — the bytes of a block, and of all
  blocks.
-/
import RemoteDisplay.Deflate.Code

set_option relaxedAutoImplicit false
set_option autoImplicit false

namespace RemoteDisplay.Deflate

/-! ### The codes of a block -/

/-- The codes of a block: one for bytes, the end and the lengths of copies, one for distances. -/
structure Codes where
  literals : Code
  distances : Code

/-- The symbol for the end of a block. -/
def endOfBlock : Nat := 256

/-- The codes with the given lengths of words, none if they are no codes or the end has no word. -/
def Codes.ofLengths? (literals distances : List Nat) : Option Codes := do
  guard (literals.getD endOfBlock 0 ≠ 0)
  return ⟨← Code.complete? literals, ← Code.sparse? distances⟩

/-- The codes that need no description. -/
def fixedCodes : Option Codes :=
  Codes.ofLengths?
    (List.replicate 144 8 ++ List.replicate 112 9 ++ List.replicate 24 7 ++ List.replicate 8 8)
    (List.replicate 32 5)

/-- What there is, or the bits make no sense. -/
def orCorrupt {α : Type} : Option α → Reader α
  | some a => pure a
  | none => throw .corrupt

/-- The order in which the lengths of the words of the third code are given. -/
def lengthOrder : List Nat := [16, 17, 18, 0, 8, 7, 9, 6, 10, 5, 11, 4, 12, 3, 13, 2, 14, 1, 15]

/-- Reads some code lengths after those that are known: a symbol of the third code stands for
itself, for the last length once more or for zero, several times.  Each is read where as many bits
are left as its longest word may have. -/
def codeLengths (code : Code) (count : Nat) : Nat → Array Nat → Reader (Array Nat)
  | 0, known => if known.size = count then pure known else throw .corrupt
  | fuel + 1, known => do
    if known.size = count then return known
    if count < known.size then throw .corrupt
    need 7
    match ← code.symbol with
    | 16 =>
      let times := 3 + (← number 2)
      let last ← orCorrupt known.back?
      codeLengths code count fuel (known ++ Array.replicate times last)
    | 17 => codeLengths code count fuel (known ++ Array.replicate (3 + (← number 3)) 0)
    | 18 => codeLengths code count fuel (known ++ Array.replicate (11 + (← number 7)) 0)
    | n => codeLengths code count fuel (known.push n)

/-- Reads the codes described at the head of a block. -/
def describedCodes : Reader Codes := do
  let literals := 257 + (← number 5)
  let distances := 1 + (← number 5)
  let count := 4 + (← number 4)
  if 286 < literals ∨ 30 < distances then throw .corrupt
  let given ← (lengthOrder.take count).mapM fun symbol => return (symbol, ← number 3)
  let lengthOf (symbol : Nat) : Nat := (given.lookup symbol).getD 0
  let code ← orCorrupt (Code.complete? ((List.range lengthOrder.length).map lengthOf))
  let lengths ← codeLengths code (literals + distances) (literals + distances) #[]
  orCorrupt (Codes.ofLengths? (lengths.toList.take literals) (lengths.toList.drop literals))

/-! ### Copies -/

/-- Lengths of copies: the shortest for each symbol, and how many bits are added to it. -/
def copyLengths : List (Nat × Nat) :=
  [(3, 0), (4, 0), (5, 0), (6, 0), (7, 0), (8, 0), (9, 0), (10, 0), (11, 1), (13, 1), (15, 1),
    (17, 1), (19, 2), (23, 2), (27, 2), (31, 2), (35, 3), (43, 3), (51, 3), (59, 3), (67, 4),
    (83, 4), (99, 4), (115, 4), (131, 5), (163, 5), (195, 5), (227, 5), (258, 0)]

/-- Distances of copies: the least for each symbol, and how many bits are added to it. -/
def copyDistances : List (Nat × Nat) :=
  [(1, 0), (2, 0), (3, 0), (4, 0), (5, 1), (7, 1), (9, 2), (13, 2), (17, 3), (25, 3), (33, 4),
    (49, 4), (65, 5), (97, 5), (129, 6), (193, 6), (257, 7), (385, 7), (513, 8), (769, 8),
    (1025, 9), (1537, 9), (2049, 10), (3073, 10), (4097, 11), (6145, 11), (8193, 12), (12289, 12),
    (16385, 13), (24577, 13)]

/-- Reads the bits that are added to an entry of a table. -/
def entry : Nat × Nat → Reader Nat
  | (base, extra) => do return base + (← number extra)

/-- Copies bytes from some distance back, those that the copy itself adds included. -/
def copyBack (distance : Nat) : Nat → Array UInt8 → Array UInt8
  | 0, out => out
  | n + 1, out => copyBack distance n (out.push (out.getD (out.size - distance) 0))

/-! ### How much is wanted -/

/-- How far a block or a stream has been read. -/
structure Progress where
  /-- The bytes so far. -/
  out : Array UInt8
  /-- The end has been read; otherwise there are as many bytes as are wanted. -/
  ended : Bool

/-- Goes on from some bytes; if they are all that is wanted, too few bits do no harm. -/
def goOn (wanted : Nat) (out : Array UInt8) (rest : Reader Progress) : Reader Progress := fun s =>
  match rest s with
  | .error .short => if wanted ≤ out.size then .ok (⟨out, false⟩, s) else .error .short
  | result => result

/-! ### Symbols -/

/-- What is found next in a block: a byte, two bytes at once, or another symbol. -/
inductive Found where
  | byte (b : UInt8)
  | pair (first second : UInt8)
  | other (symbol : Nat)
deriving Repr

/-- How many bits are looked at to find bytes. -/
def window : Nat := 12

/-- The byte that is found together with one whose word has `used` bits: its word follows, has two
bits or more, and ends within the window.  Bits beyond the end of the stream count as zero here. -/
def Codes.partner? (codes : Codes) (used : Nat) (s : Bits) : Option (UInt8 × Nat) :=
  let padded : Bits := if s.has window then s else ⟨s.pending, s.bytes ++ [0, 0]⟩
  match codes.literals.word padded with
  | .ok ((symbol, size), _) =>
    if symbol < endOfBlock ∧ 2 ≤ size ∧ used + size ≤ window then some (symbol.toUInt8, size)
    else none
  | .error _ => none

/-- Reads what is found next.  Of two bytes that are found at once neither is read without the
other, so at the end of a stream a byte may wait for bits that are not there. -/
def Codes.find (codes : Codes) : Reader Found := do
  let (symbol, used) ← codes.literals.word
  if endOfBlock ≤ symbol then return .other symbol
  match codes.partner? used (← get) with
  | none => return .byte symbol.toUInt8
  | some (second, size) =>
    let _ ← number size
    return .pair symbol.toUInt8 second

/-- Reads the end of a block if it comes next and as many bits are left as its longest word may
have. -/
def Codes.closes (codes : Codes) : Reader Bool := fun s =>
  match codes.literals.symbol s with
  | .ok (symbol, rest) =>
    if symbol = endOfBlock && s.has Code.maxLength then .ok (true, rest) else .ok (false, s)
  | .error _ => .ok (false, s)

/-- Reads the symbols of a block and adds what they stand for.  A symbol that stands for nothing
ends the block too. -/
def symbols (codes : Codes) (wanted : Nat) : Nat → Array UInt8 → Reader Progress
  | 0, _ => throw .corrupt
  | fuel + 1, out => do
    if wanted ≤ out.size then return ⟨out, ← codes.closes⟩
    match ← codes.find with
    | .byte b => symbols codes wanted fuel (out.push b)
    | .pair first second =>
      let out := out.push first
      if wanted ≤ out.size then return ⟨out, false⟩
      else symbols codes wanted fuel (out.push second)
    | .other symbol =>
      if symbol = endOfBlock then return ⟨out, true⟩
      match copyLengths[symbol - (endOfBlock + 1)]? with
      | none => return ⟨out, true⟩
      | some given =>
        let length ← entry given
        let distance ← entry (← orCorrupt copyDistances[← codes.distances.symbol]?)
        if out.size < distance then throw .corrupt
        let taken := min length (wanted - out.size)
        let out := copyBack distance taken out
        if taken < length then return ⟨out, false⟩ else symbols codes wanted fuel out

/-! ### Blocks -/

/-- Reads some whole bytes and adds those that are wanted. -/
def storedBytes (wanted : Nat) : Nat → Array UInt8 → Reader Progress
  | 0, out => return ⟨out, true⟩
  | n + 1, out => do
    if wanted ≤ out.size then return ⟨out, false⟩
    storedBytes wanted n (out.push (← byte))

/-- A word of two bytes, least significant first. -/
def halfWord : Reader Nat := do return (← byte).toNat + 256 * (← byte).toNat

/-- Reads a block that holds its bytes as they are: their number, the same with all bits inverted,
and the bytes. -/
def stored (wanted : Nat) (out : Array UInt8) : Reader Progress := do
  align
  let length ← halfWord
  let inverted ← halfWord
  if length + inverted ≠ 0xFFFF then throw .corrupt
  storedBytes wanted length out

/-- Reads a block after its mark. -/
def block (wanted limit : Nat) (out : Array UInt8) : Reader Progress := do
  match ← number 2 with
  | 0 => stored wanted out
  | 1 => symbols (← orCorrupt fixedCodes) wanted limit out
  | 2 => symbols (← describedCodes) wanted limit out
  | _ => throw .corrupt

/-- The least number of bits that a block is begun with: a mark, and the shortest fixed word of its
end. -/
def minBlock : Nat := 10

/-- Reads blocks up to the one that is marked as the last, or until there is enough. -/
def blocks (wanted limit : Nat) : Nat → Array UInt8 → Reader Progress
  | 0, _ => throw .corrupt
  | fuel + 1, out => do
    need minBlock
    let last ← bit
    let progress ← block wanted limit out
    if progress.ended && !last then
      goOn wanted progress.out (blocks wanted limit fuel progress.out)
    else return progress

end RemoteDisplay.Deflate
