/-
**A session and its canvases.**

A session says which canvas is to be painted, and the canvases change accordingly.  Together they
form a stage; on a stage one thing happens after another, and each has an answer.

Main definitions:

* `RemoteDisplay.Stage` — a session and the canvases around it;
* `RemoteDisplay.Action`, `RemoteDisplay.Reply` — what can happen, and the answers;
* `RemoteDisplay.Stage.step`, `RemoteDisplay.Stage.run` — one thing, and several.

Main results:

* `RemoteDisplay.Stage.run_append` — what happens later starts where the earlier has led.
-/
import RemoteDisplay.Session.State

set_option relaxedAutoImplicit false
set_option autoImplicit false

namespace RemoteDisplay

/-- A session and the canvases around it. -/
structure Stage where
  session : Session
  canvases : Canvases
deriving DecidableEq, Repr

/-- Something that happens on a stage. -/
inductive Action where
  /-- The session is to be attached to one of the canvases named in a directory. -/
  | attach (directory : Directory)
  /-- The socket has been opened. -/
  | opened
  /-- The socket has been closed. -/
  | closed
  /-- A message has arrived. -/
  | receive (message : Message)
  /-- A picture is ready. -/
  | paint (draw : Draw)
  /-- A frame has no picture. -/
  | decodeFailed (error : DecodeError)
  /-- The user has done something. -/
  | input (input : Input)
  /-- A command has been written to the socket. -/
  | commandSent
  /-- A canvas is shown elsewhere. -/
  | place (ref : CanvasRef) (geometry : Geometry)
deriving Repr

/-- The answer to something that has happened. -/
inductive Reply where
  /-- There is nothing to say. -/
  | done
  /-- The session has been attached, or has not. -/
  | attached (result : Except AttachError Unit)
  /-- The frame to be decoded. -/
  | frame (frame : Option Frame)
  /-- The canvas that has been painted. -/
  | painted (ref : Option CanvasRef)
  /-- The command to be sent. -/
  | command (result : Except InputError (Option Command))
deriving Repr

namespace Stage

/-- The stage after a draw on one of the canvases. -/
def drawOn (s : Stage) (ref : CanvasRef) (d : Draw) : Stage :=
  { s with canvases := s.canvases.modify ref fun c => c.draw d }

/-- One thing happens. -/
def step (s : Stage) : Action → Stage × Reply
  | .attach directory =>
    match s.session.attach s.canvases directory with
    | .ok session => ({ s with session }, .attached (.ok ()))
    | .error e => (s, .attached (.error e))
  | .opened => ({ s with session := s.session.opened }, .done)
  | .closed => ({ s with session := s.session.closed }, .done)
  | .receive message =>
    match s.session.receive message with
    | (session, frame) => ({ s with session }, .frame frame)
  | .paint d =>
    match s.session.paint with
    | (session, some ref) => ({ s with session }.drawOn ref d, .painted (some ref))
    | (session, none) => ({ s with session }, .painted none)
  | .decodeFailed _ => ({ s with session := s.session.decodeFailed }, .done)
  | .input i =>
    match s.session.input s.canvases i with
    | (session, result) => ({ s with session }, .command result)
  | .commandSent => ({ s with session := s.session.commandSent }, .done)
  | .place ref g => ({ s with canvases := s.canvases.modify ref fun c => c.place g }, .done)

/-- One thing happens after another. -/
def run (s : Stage) : List Action → Stage × List Reply
  | [] => (s, [])
  | a :: rest =>
    match s.step a with
    | (s, reply) =>
      match s.run rest with
      | (s, replies) => (s, reply :: replies)

/-- What happens later starts where the earlier has led. -/
theorem run_append (s : Stage) (earlier later : List Action) :
    s.run (earlier ++ later) =
      (((s.run earlier).1.run later).1, (s.run earlier).2 ++ ((s.run earlier).1.run later).2) := by
  induction earlier generalizing s with
  | nil => rfl
  | cons a rest ih => simp [run, ih]

end Stage

end RemoteDisplay
