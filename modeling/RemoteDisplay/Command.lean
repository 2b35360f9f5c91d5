/-
**Commands of a viewer.**

A viewer reports what its user does as commands.  A command is one line of text: a verb, then its
arguments as decimal numbers, one space between each.

Main definitions:

* `RemoteDisplay.Verb` — the five verbs and their spelling;
* `RemoteDisplay.Command` — a verb with its arguments;
* `RemoteDisplay.Command.text` — the text of a command on the wire.

Main results:

* `RemoteDisplay.Command.length_args` — a command has as many arguments as its verb takes;
* `RemoteDisplay.Verb.command?_args` — a command is put together from its verb and its arguments.
-/
import RemoteDisplay.Number.Decimal

set_option relaxedAutoImplicit false
set_option autoImplicit false

namespace RemoteDisplay

/-! ### Verbs -/

/-- What a command reports. -/
inductive Verb where
  | mouseDown
  | mouseUp
  | mouseMove
  | keyDown
  | keyUp
deriving DecidableEq, Repr, Inhabited

namespace Verb

/-- All verbs. -/
def all : List Verb := [mouseDown, mouseUp, mouseMove, keyDown, keyUp]

/-- The spelling of a verb on the wire. -/
def text : Verb → String
  | mouseDown => "MOUSEDOWN"
  | mouseUp => "MOUSEUP"
  | mouseMove => "MOUSEMOVE"
  | keyDown => "KEYDOWN"
  | keyUp => "KEYUP"

/-- How many arguments a verb takes: a point has two coordinates, a key has one code. -/
def arity : Verb → Nat
  | mouseDown | mouseUp | mouseMove => 2
  | keyDown | keyUp => 1

/-- The verb reports what the pointer does. -/
def isPointer : Verb → Bool
  | mouseDown | mouseUp | mouseMove => true
  | keyDown | keyUp => false

end Verb

/-! ### Commands -/

/-- A command that a viewer can send. -/
inductive Command where
  /-- The pointer button went down at a point. -/
  | press (x y : Int32)
  /-- The pointer button went up at a point. -/
  | release (x y : Int32)
  /-- The pointer was dragged to a point. -/
  | move (x y : Int32)
  /-- A key went down. -/
  | keyDown (code : Int32)
  /-- A key went up. -/
  | keyUp (code : Int32)
deriving DecidableEq, Repr

namespace Command

/-- The verb of a command. -/
def verb : Command → Verb
  | press _ _ => .mouseDown
  | release _ _ => .mouseUp
  | move _ _ => .mouseMove
  | keyDown _ => .keyDown
  | keyUp _ => .keyUp

/-- The arguments of a command, in the order they are written. -/
def args : Command → List Int32
  | press x y | release x y | move x y => [x, y]
  | keyDown code | keyUp code => [code]

/-- The command reports what the pointer does. -/
def isPointer (c : Command) : Bool := c.verb.isPointer

/-- A command has as many arguments as its verb takes. -/
theorem length_args (c : Command) : c.args.length = c.verb.arity := by
  cases c <;> rfl

/-- The text of a command: the verb, and each argument after a space. -/
def text (c : Command) : String :=
  String.ofList (c.verb.text.toList ++ c.args.flatMap fun n => ' ' :: Number.signed n.toInt)

end Command

/-- The command with a verb and its arguments, if there are as many as the verb takes. -/
def Verb.command? : Verb → List Int32 → Option Command
  | mouseDown, [x, y] => some (.press x y)
  | mouseUp, [x, y] => some (.release x y)
  | mouseMove, [x, y] => some (.move x y)
  | keyDown, [code] => some (.keyDown code)
  | keyUp, [code] => some (.keyUp code)
  | _, _ => none

/-- A command is put together from its verb and its arguments. -/
@[simp] theorem Verb.command?_args (c : Command) : c.verb.command? c.args = some c := by
  cases c <;> rfl

end RemoteDisplay
