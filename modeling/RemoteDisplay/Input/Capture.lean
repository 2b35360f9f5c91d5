/-
**Following the pointer.**

The pointer is either idle or pressed.  Going down presses it and going up releases it, whatever it
was before, and both are always reported.  A move is reported only while the pointer is pressed, and
every move then is.  Nothing but going up makes the pointer idle again.

Main definitions:

* `RemoteDisplay.Pointer` — idle or pressed;
* `RemoteDisplay.PointerEvent.command` — the command that reports an event;
* `RemoteDisplay.Pointer.handle` — the pointer after an event, and the command to send.
-/
import RemoteDisplay.Input.Event

set_option relaxedAutoImplicit false
set_option autoImplicit false

namespace RemoteDisplay

/-- Whether the pointer button is held. -/
inductive Pointer where
  | idle
  | pressed
deriving DecidableEq, Repr, Inhabited

/-- The command that reports a pointer event, at the point of the canvas under it. -/
def PointerEvent.command (g : Geometry) (e : PointerEvent) : Command :=
  let p := g.toCanvas e.position
  match e.kind with
  | .down => .press p.x p.y
  | .up => .release p.x p.y
  | .move => .move p.x p.y

namespace Pointer

/-- The pointer after an event. -/
def after (p : Pointer) (e : PointerEvent) : Pointer :=
  match e.kind with
  | .down => pressed
  | .up => idle
  | .move => p

/-- An event is reported unless it is a move of an idle pointer. -/
def reports (p : Pointer) (e : PointerEvent) : Bool := e.kind != .move || p == pressed

/-- The pointer after an event, and the command to send. -/
def handle (p : Pointer) (g : Geometry) (e : PointerEvent) : Pointer × Option Command :=
  (p.after e, if p.reports e then some (e.command g) else none)

end Pointer

end RemoteDisplay
