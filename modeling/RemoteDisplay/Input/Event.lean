/-
**What a user does.**

Two things reach a viewer from its user: the pointer button goes down, goes up or the pointer moves,
each at a point of the screen; and a key goes down or up.  Key events are reported as they are.

Main definitions:

* `RemoteDisplay.PointerEvent`, `RemoteDisplay.KeyEvent` — the two kinds of events;
* `RemoteDisplay.Input` — either of them;
* `RemoteDisplay.KeyEvent.command` — the command that reports a key event.
-/
import RemoteDisplay.Command
import RemoteDisplay.Geometry

set_option relaxedAutoImplicit false
set_option autoImplicit false

namespace RemoteDisplay

/-- What a pointer does. -/
inductive PointerEvent.Kind where
  | down
  | up
  | move
deriving DecidableEq, Repr, Inhabited

/-- Something the pointer does at a point of the screen. -/
structure PointerEvent where
  kind : PointerEvent.Kind
  position : Point
deriving DecidableEq, Repr, Inhabited

/-- What a key does. -/
inductive KeyEvent.Kind where
  | down
  | up
deriving DecidableEq, Repr, Inhabited

/-- A key goes down or up. -/
structure KeyEvent where
  kind : KeyEvent.Kind
  code : Int32
deriving DecidableEq, Repr, Inhabited

/-- The command that reports a key event. -/
def KeyEvent.command (e : KeyEvent) : Command :=
  match e.kind with
  | .down => .keyDown e.code
  | .up => .keyUp e.code

/-- An event from the user. -/
inductive Input where
  | pointer (event : PointerEvent)
  | key (event : KeyEvent)
deriving DecidableEq, Repr

end RemoteDisplay
