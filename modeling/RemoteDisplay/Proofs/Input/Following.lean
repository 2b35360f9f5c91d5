/-
**Following a user.**

Whatever a user does goes to one machine: the pointer is followed, and key events are reported as
they are.  The machine is fed with events one after another, each together with the geometry that
the canvas has at that moment.

Main definitions:

* `RemoteDisplay.Pointer.take` — the pointer after one event, and the command that reports it;
* `RemoteDisplay.Pointer.follow` — the pointer after several events, and the commands, in order.

Main results:

* `RemoteDisplay.Pointer.follow_append` — what happens later starts where the earlier has led.
-/
import RemoteDisplay.Input.Capture

set_option relaxedAutoImplicit false
set_option autoImplicit false

namespace RemoteDisplay.Pointer

/-- The pointer after an event from the user, and the command that reports the event, if it is to be
reported. -/
def take (p : Pointer) (g : Geometry) : Input → Pointer × Option Command
  | .pointer event => p.handle g event
  | .key event => (p, some event.command)

/-- The pointer after some events from the user, each under its own geometry, and the commands that
report them, in order. -/
def follow (p : Pointer) : List (Geometry × Input) → Pointer × List Command
  | [] => (p, [])
  | (g, i) :: rest =>
    match p.take g i with
    | (p, command) =>
      match p.follow rest with
      | (p, commands) => (p, command.toList ++ commands)

/-- What happens later starts where the earlier has led. -/
theorem follow_append (p : Pointer) (earlier later : List (Geometry × Input)) :
    p.follow (earlier ++ later) =
      (((p.follow earlier).1.follow later).1,
        (p.follow earlier).2 ++ ((p.follow earlier).1.follow later).2) := by
  induction earlier generalizing p with
  | nil => rfl
  | cons gi rest ih =>
    obtain ⟨g, i⟩ := gi
    simp [follow, ih]

theorem follow_concat (p : Pointer) (past : List (Geometry × Input)) (g : Geometry) (i : Input) :
    p.follow (past ++ [(g, i)]) =
      (((p.follow past).1.take g i).1,
        (p.follow past).2 ++ ((p.follow past).1.take g i).2.toList) := by
  simp [follow_append, follow]

end RemoteDisplay.Pointer
