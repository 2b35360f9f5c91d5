/-
**A session.**

A session is one connection of a viewer to a display host.  It takes note of what happens — a
canvas is found, the socket opens or closes, a message arrives, a picture is ready, the user does
something — and says what is to be done about it: which frame to decode, which canvas to paint,
which command to send.

Commands are only sent while the socket is open; a command that cannot be sent is refused and not
kept for later.  Whether the socket is open makes no difference to anything else.

Main definitions:

* `RemoteDisplay.Session` — the state of a session;
* `RemoteDisplay.Session.attach`, `RemoteDisplay.Session.opened`, `RemoteDisplay.Session.closed`,
  `RemoteDisplay.Session.receive`, `RemoteDisplay.Session.paint`,
  `RemoteDisplay.Session.decodeFailed`, `RemoteDisplay.Session.input`,
  `RemoteDisplay.Session.commandSent` — what can happen to it;
* `RemoteDisplay.Session.snapshot` — its report.

Main results:

* `RemoteDisplay.Session.input_of_not_connected` — a session that is not connected sends nothing.
-/
import RemoteDisplay.Canvas
import RemoteDisplay.Frame.Picture
import RemoteDisplay.Session.Config
import RemoteDisplay.Session.Snapshot
import RemoteDisplay.Text.Quoted

set_option relaxedAutoImplicit false
set_option autoImplicit false

namespace RemoteDisplay

/-! ### What goes in and what goes wrong -/

/-- A message from the display host. -/
inductive Message where
  | binary (bytes : List UInt8)
  | text (s : String)
deriving DecidableEq, Repr

/-- Why a session could not be attached to a canvas. -/
inductive AttachError where
  /-- No canvas has the name. -/
  | canvasNotFound (name : String)
  /-- The canvas cannot be drawn on. -/
  | noDrawingContext (name : String)
deriving DecidableEq, Repr

/-- The wording of a failure. -/
def AttachError.message : AttachError → String
  | canvasNotFound name => "canvas " ++ Text.quoted name ++ " not found"
  | noDrawingContext name => "canvas " ++ Text.quoted name ++ " has no 2D drawing context"

/-- Why nothing could be done about an event from the user. -/
inductive InputError where
  /-- The session has no canvas, so a point of the screen means nothing. -/
  | notAttached
  /-- The socket is not open, so the command is not sent. -/
  | notConnected (command : Command)
deriving DecidableEq, Repr

/-- The wording of a failure. -/
def InputError.message : InputError → String
  | notAttached => "session is not attached to a canvas"
  | notConnected command => "session is not connected; refused to send " ++ command.text

/-! ### The state -/

/-- One connection of a viewer to a display host. -/
structure Session where
  id : SessionId
  config : Config
  status : Status
  /-- The canvas that points of the screen are looked up on. -/
  canvas : Option CanvasRef
  /-- The canvas that is painted on. -/
  context : Option CanvasRef
  pointer : Pointer
  counters : Counters
deriving DecidableEq, Repr

namespace Session

/-- A session to which nothing has happened. -/
def new (id : SessionId) (config : Config) : Session :=
  ⟨id, config, .detached, none, none, .idle, .zero⟩

/-- The socket is open. -/
def isConnected (s : Session) : Bool := s.status == .connected

/-! ### Counting -/

/-- One more message was a frame. -/
def countReceived (s : Session) : Session :=
  { s with counters := { s.counters with framesReceived := s.counters.framesReceived + 1 } }

/-- One more frame was painted. -/
def countPainted (s : Session) : Session :=
  { s with counters := { s.counters with framesPainted := s.counters.framesPainted + 1 } }

/-- One more message or frame was dropped. -/
def countDropped (s : Session) : Session :=
  { s with counters := { s.counters with framesDropped := s.counters.framesDropped + 1 } }

/-- One more command was sent. -/
def countSent (s : Session) : Session :=
  { s with counters := { s.counters with commandsSent := s.counters.commandsSent + 1 } }

/-- One more command was refused. -/
def countRejected (s : Session) : Session :=
  { s with counters := { s.counters with commandsRejected := s.counters.commandsRejected + 1 } }

/-! ### The canvas and the socket -/

/-- Attaches the session to the canvas that its configuration names. -/
def attach (s : Session) (canvases : Canvases) (directory : Directory) :
    Except AttachError Session :=
  let name := s.config.canvasId
  match directory.find? name with
  | none => .error (.canvasNotFound name)
  | some ref =>
    match canvases[ref]? with
    | none => .error (.canvasNotFound name)
    | some canvas =>
      if canvas.isDrawable then
        .ok { s with canvas := some ref, context := some ref, status := .attached }
      else .error (.noDrawingContext name)

/-- The socket has been opened. -/
def opened (s : Session) : Session := { s with status := .connected }

/-- The socket has been closed.  A pressed pointer stays pressed. -/
def closed (s : Session) : Session := { s with status := .disconnected }

/-! ### Frames -/

/-- A message has arrived; if it is a frame, it is to be decoded. -/
def receive (s : Session) : Message → Session × Option Frame
  | .binary bytes =>
    match Frame.decode bytes with
    | .ok frame => (s.countReceived, some frame)
    | .error _ => (s.countDropped, none)
  | .text _ => (s.countDropped, none)

/-- A picture is ready; it is to be painted on the canvas that the session has, if it has one. -/
def paint (s : Session) : Session × Option CanvasRef :=
  match s.context with
  | some ref => (s.countPainted, some ref)
  | none => (s.countDropped, none)

/-- A frame has no picture. -/
def decodeFailed (s : Session) : Session := s.countDropped

/-! ### Commands -/

/-- The geometry of the canvas that the session has, at this moment. -/
def geometry? (s : Session) (canvases : Canvases) : Option Geometry :=
  (s.canvas.bind fun ref => canvases[ref]?).map Canvas.geometry

/-- The pointer after an event from the user, and the command that reports the event, if it is to be
reported. -/
def report (s : Session) (geometry : Option Geometry) :
    Input → Except InputError (Pointer × Option Command)
  | .key event => .ok (s.pointer, some event.command)
  | .pointer event =>
    match geometry with
    | none => .error .notAttached
    | some g => .ok (s.pointer.handle g event)

/-- The user has done something; the command that reports it is to be sent. -/
def input (s : Session) (canvases : Canvases) (i : Input) :
    Session × Except InputError (Option Command) :=
  match s.report (s.geometry? canvases) i with
  | .error e => (s, .error e)
  | .ok (pointer, none) => ({ s with pointer }, .ok none)
  | .ok (pointer, some command) =>
    if s.isConnected then ({ s with pointer }, .ok (some command))
    else (countRejected { s with pointer }, .error (.notConnected command))

/-- A command has been written to the socket. -/
def commandSent (s : Session) : Session := s.countSent

/-- A session that is not connected sends nothing. -/
theorem input_of_not_connected {s : Session} (h : s.isConnected = false) (canvases : Canvases)
    (i : Input) (c : Command) : (s.input canvases i).2 ≠ .ok (some c) := by
  unfold input
  split
  · simp
  · simp
  · simp [h]

/-! ### The report -/

/-- The session as it is reported. -/
def snapshot (s : Session) : Snapshot where
  sessionId := s.id
  url := s.config.url
  status := s.status
  pointer := s.pointer
  framesReceived := s.counters.framesReceived.toUInt64
  framesPainted := s.counters.framesPainted.toUInt64
  framesDropped := s.counters.framesDropped.toUInt64
  commandsSent := s.counters.commandsSent.toUInt64
  commandsRejected := s.counters.commandsRejected.toUInt64

end Session

end RemoteDisplay
