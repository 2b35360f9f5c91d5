/-
**Prefix codes from code lengths.**

A code gives each symbol a word of bits, and no word begins another; it is a binary tree with the
symbols at its leaves.  In a canonical code the lengths of the words say everything: at each depth
of the tree the leaves come first, in the order of their symbols, and the inner nodes after them.

So the tree is put together from the bottom.  The nodes of a depth, two by two, are the inner nodes
of the depth above.  The code is complete if nothing is ever left over and two nodes remain below
the root.

Main definitions:

* `RemoteDisplay.Deflate.Code` — the tree of a code;
* `RemoteDisplay.Deflate.Code.complete?` — the complete code with the given lengths;
* `RemoteDisplay.Deflate.Code.sparse?` — the same, with two exceptions for codes that are hardly
  used;
* `RemoteDisplay.Deflate.Code.word`, `RemoteDisplay.Deflate.Code.symbol` — read a symbol.
-/
import RemoteDisplay.Deflate.Bits

set_option relaxedAutoImplicit false
set_option autoImplicit false

namespace RemoteDisplay.Deflate

/-- The tree of a code.  A word that leads to `unused` is the word of no symbol. -/
inductive Code where
  | unused
  | leaf (symbol : Nat)
  | node (zero one : Code)
deriving Repr

namespace Code

/-- The longest word of a code. -/
def maxLength : Nat := 15

/-- The leaves of a depth: the symbols whose words have that length, in order. -/
def leaves (lengths : List Nat) (depth : Nat) : List Code :=
  (lengths.zipIdx.filter fun p => p.1 = depth).map fun p => .leaf p.2

/-- The nodes above some nodes that are taken two by two, if none is left over. -/
def parents? : List Code → Option (List Code)
  | [] => some []
  | [_] => none
  | zero :: one :: rest => (parents? rest).map (.node zero one :: ·)

/-- The nodes of a depth, given those below it. -/
def level? (lengths : List Nat) (below : List Code) (depth : Nat) : Option (List Code) :=
  (parents? below).map (leaves lengths depth ++ ·)

/-- The complete code with the given lengths; length zero says that a symbol has no word. -/
def complete? (lengths : List Nat) : Option Code :=
  match (List.range' 1 maxLength).reverse.foldlM (level? lengths) [] with
  | some [zero, one] => some (.node zero one)
  | _ => none

/-- The code with the given lengths, which also may have no word at all, or one word of one bit. -/
def sparse? (lengths : List Nat) : Option Code :=
  match lengths.zipIdx.filter fun p => p.1 ≠ 0 with
  | [] => some .unused
  | [(1, symbol)] => some (.node (.leaf symbol) .unused)
  | _ => complete? lengths

/-- Reads the word of a symbol; gives the symbol and how many bits the word has. -/
def word : Code → Reader (Nat × Nat)
  | unused => throw .corrupt
  | leaf s => pure (s, 0)
  | node zero one => do
    let (s, size) ← if ← bit then word one else word zero
    return (s, size + 1)

/-- Reads the word of a symbol. -/
def symbol (code : Code) : Reader Nat := do return (← code.word).1

end Code

end RemoteDisplay.Deflate
