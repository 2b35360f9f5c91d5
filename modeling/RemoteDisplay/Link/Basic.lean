/-
**The life of a socket.**

A session that is attached to a canvas tries to open a socket.  While the socket is open, messages
arrive, frames are decoded beside each other, the user does things, and the session may be told to
shut down; all this is handled one event after another, in whatever order it happens.

Pictures are painted in the order in which they become ready.  Neither a message that is no frame
nor a frame without a picture ends anything; only the end of the socket, a command that cannot be
written and an order to shut down do.  After that nothing is started any more, but what is being
decoded is still waited for and painted.

Main definitions:

* `RemoteDisplay.Link` — a session with its socket and the frames that are being decoded;
* `RemoteDisplay.Event`, `RemoteDisplay.Link.step`, `RemoteDisplay.Link.run` — what can happen, one
  event, and several;
* `RemoteDisplay.Link.start`, `RemoteDisplay.Link.result?` — how it begins, and its report once it
  is over.

Main results:

* `RemoteDisplay.Link.run_append` — what happens later starts where the earlier has led.
-/
import RemoteDisplay.Link.Network
import RemoteDisplay.Session.Stage

set_option relaxedAutoImplicit false
set_option autoImplicit false

namespace RemoteDisplay

/-! ### What happens -/

/-- A frame that is being decoded. -/
structure Job where
  number : Nat
  frame : Frame
deriving DecidableEq, Repr

/-- How the decoding of a frame comes to its end. -/
inductive Completion where
  /-- The decoder has come to a result. -/
  | decided
  /-- The frame has no picture. -/
  | failed (reason : String)
  /-- The work broke down. -/
  | brokeDown (reason : String)
deriving DecidableEq, Repr

/-- The picture of a frame whose decoding has come to its end, or why there is none. -/
def Completion.picture (decoder : Decoder) (f : Frame) : Completion → Except DecodeError Image
  | decided => decoder f
  | failed reason => .error (.image f.rect reason)
  | brokeDown reason => .error (.taskFailed reason)

/-- Something that happens during the life of a socket. -/
inductive Event where
  /-- A message has arrived. -/
  | received (message : Message)
  /-- The host asks for a sign of life. -/
  | pinged (bytes : List UInt8)
  /-- The host wants to close the socket. -/
  | closeReceived
  /-- The socket is at its end. -/
  | lost
  /-- The decoding of a frame has come to its end. -/
  | finished (job : Nat) (how : Completion)
  /-- The user has done something; what is now written to the socket arrives, or it does not. -/
  | input (input : Input) (written : Bool)
  /-- The user will do nothing more. -/
  | inputsDropped
  /-- The session is told to shut down, or not to. -/
  | shutdown (now : Bool)
  /-- The session will not be told anything more. -/
  | shutdownDropped
  /-- A canvas is shown elsewhere. -/
  | placed (ref : CanvasRef) (geometry : Geometry)
deriving Repr

/-- Something that is written to the socket. -/
inductive Outgoing where
  /-- A command. -/
  | text (s : String)
  /-- A sign of life. -/
  | pong (bytes : List UInt8)
  /-- The wish to close the socket, or the answer to it. -/
  | close
deriving DecidableEq, Repr

/-! ### The state -/

/-- A session with its socket and the frames that are being decoded. -/
structure Link where
  stage : Stage
  /-- The socket is open. -/
  live : Bool
  /-- The frames that are being decoded, in order of their arrival. -/
  jobs : List Job
  /-- How many frames have ever been decoded. -/
  started : Nat
  /-- The user may still do something. -/
  hasInputs : Bool
  /-- The session may still be told to shut down. -/
  hasShutdown : Bool
  /-- What has been written to the socket, in order. -/
  sent : List Outgoing
  /-- What has been painted, in order. -/
  draws : List Draw
deriving DecidableEq, Repr

namespace Link

/-- A session whose socket has just been opened, or could not be. -/
def begin (stage : Stage) (live : Bool) : Link := ⟨stage, live, [], 0, true, true, [], []⟩

/-- Something happens to the session or a canvas, and no answer is needed. -/
def act (l : Link) (a : Action) : Link := { l with stage := (l.stage.step a).1 }

/-- Writes to the socket. -/
def write (l : Link) (o : Outgoing) : Link := { l with sent := l.sent ++ [o] }

/-- The end of the socket. -/
def hangUp (l : Link) : Link := { l.act .closed with live := false }

/-! ### One event -/

/-- A message arrives; a frame is decoded from now on. -/
def receive (l : Link) (m : Message) : Link :=
  match l.stage.step (.receive m) with
  | (stage, .frame (some frame)) =>
    { l with stage, jobs := l.jobs ++ [⟨l.started, frame⟩], started := l.started + 1 }
  | (stage, _) => { l with stage }

/-- A picture is painted. -/
def paint (l : Link) (d : Draw) : Link :=
  match l.stage.step (.paint d) with
  | (stage, .painted (some _)) => { l with stage, draws := l.draws ++ [d] }
  | (stage, _) => { l with stage }

/-- The decoding of a frame comes to its end. -/
def finish (decoder : Decoder) (l : Link) (number : Nat) (how : Completion) : Link :=
  match l.jobs.find? fun job => job.number == number with
  | none => l
  | some job =>
    let l := { l with jobs := l.jobs.erase job }
    match how.picture decoder job.frame with
    | .ok image => l.paint ⟨job.frame.rect, image⟩
    | .error e => l.act (.decodeFailed e)

/-- The user does something; the command that reports it, if there is one, is sent.  If it cannot be
written, this is the end of the socket. -/
def handle (l : Link) (i : Input) (written : Bool) : Link :=
  match l.stage.step (.input i) with
  | (stage, .command (.ok (some command))) =>
    if written then ({ l with stage }.write (.text command.text)).act .commandSent
    else { l with stage }.hangUp
  | (stage, _) => { l with stage }

/-- What happens while the socket is open. -/
def stepLive (decoder : Decoder) (l : Link) : Event → Link
  | .received m => l.receive m
  | .pinged bytes => l.write (.pong bytes)
  | .closeReceived => l.write .close
  | .lost => l.hangUp
  | .finished number how => l.finish decoder number how
  | .input i written => if l.hasInputs then l.handle i written else l
  | .inputsDropped => { l with hasInputs := false }
  | .shutdown now => if l.hasShutdown && now then (l.write .close).hangUp else l
  | .shutdownDropped => { l with hasShutdown := false }
  | .placed ref g => l.act (.place ref g)

/-- What happens after the end of the socket. -/
def stepEnded (decoder : Decoder) (l : Link) : Event → Link
  | .finished number how => l.finish decoder number how
  | .placed ref g => l.act (.place ref g)
  | _ => l

/-- One event. -/
def step (decoder : Decoder) (l : Link) (e : Event) : Link :=
  if l.live then l.stepLive decoder e else l.stepEnded decoder e

/-- One event after another. -/
def run (decoder : Decoder) (l : Link) (events : List Event) : Link := events.foldl (step decoder) l

/-- What happens later starts where the earlier has led. -/
theorem run_append (decoder : Decoder) (l : Link) (earlier later : List Event) :
    l.run decoder (earlier ++ later) = (l.run decoder earlier).run decoder later :=
  List.foldl_append

/-! ### Beginning and end -/

/-- Why a session could not even try to open a socket. -/
inductive StartError where
  /-- It is not attached to a canvas, or no longer. -/
  | notAttached
deriving DecidableEq, Repr

/-- The wording of a failure. -/
def StartError.message : StartError → String
  | notAttached => InputError.notAttached.message

/-- A session tries to open its socket.  An attempt that fails is like a socket that closes at
once. -/
def start (network : Network) (stage : Stage) : Except StartError Link :=
  if stage.session.status = .attached then
    if network.opens stage.session.config then .ok (begin (stage.step .opened).1 true)
    else .ok (begin (stage.step .closed).1 false)
  else .error .notAttached

/-- The report of the session, once its socket is at its end and nothing is being decoded. -/
def result? (l : Link) : Option Snapshot :=
  if !l.live && l.jobs.isEmpty then some l.stage.session.snapshot else none

end Link

end RemoteDisplay
