/-
**Rehearsing with a scripted host.**

A script is a list of steps that a display host, the user and the decoder take one after another,
each waiting until the one before has had its effect.  What is seen of a step is its answer.

Frames to decode are held until they are released, and numbered in order of arrival.  When the
script is over, the host closes a socket that is still open, and what is still held is released in
order.

Main definitions:

* `RemoteDisplay.Rehearsal.Step`, `RemoteDisplay.Rehearsal.Answer` — the steps and their answers;
* `RemoteDisplay.Rehearsal.play` — one step;
* `RemoteDisplay.Rehearsal.perform` — a whole script, and its report.
-/
import RemoteDisplay.Input.Line
import RemoteDisplay.Link.Basic

set_option relaxedAutoImplicit false
set_option autoImplicit false

namespace RemoteDisplay.Rehearsal

/-- A step of a script. -/
inductive Step where
  /-- The host sends bytes. -/
  | binary (bytes : List UInt8)
  /-- The host sends a text. -/
  | text (s : String)
  /-- The host asks for a sign of life. -/
  | ping (bytes : List UInt8)
  /-- The host closes the socket. -/
  | hostClose
  /-- The host is gone, or speaks nonsense. -/
  | hostLost
  /-- The decoding of a frame comes to its end. -/
  | release (frame : Nat) (how : Completion)
  /-- The user types a line. -/
  | input (line : String)
  /-- The user will type no more lines. -/
  | endInput
  /-- The session is told to shut down, or not to. -/
  | shutdown (now : Bool)
  /-- The session will not be told anything more. -/
  | dropShutdown
deriving Repr

/-- What is seen of a step. -/
inductive Answer where
  /-- A frame is held under a number. -/
  | held (number : Nat)
  /-- A message was dropped. -/
  | dropped
  /-- A picture was painted. -/
  | painted
  /-- A frame was dropped. -/
  | failed
  /-- No frame is held under the number. -/
  | noSuchFrame
  /-- The texts that the host has received. -/
  | texts (texts : List String)
  /-- The sign of life that the host has received. -/
  | pong (bytes : List UInt8)
  /-- A line says nothing. -/
  | skipped
  /-- A line is refused. -/
  | refused (e : LineError)
  /-- Nobody listens to the user any more. -/
  | noInput
  /-- The host was asked to close the socket. -/
  | closeReceived
  /-- The host was answered when it closed the socket. -/
  | closeAnswered
  /-- Nobody can be told to shut down any more. -/
  | noShutdown
  /-- Nothing is to be seen. -/
  | nothing
  /-- The socket is not open. -/
  | ended
deriving DecidableEq, Repr

/-! ### One step -/

/-- The texts among what is written to a socket. -/
def textsOf (sent : List Outgoing) : List String :=
  sent.filterMap fun
    | .text s => some s
    | _ => none

/-- The link after some events, and what was written to the socket on the way. -/
def advance (decoder : Decoder) (l : Link) (events : List Event) : Link × List Outgoing :=
  let after := l.run decoder events
  (after, after.sent.drop l.sent.length)

/-- The events of a socket that the host closes. -/
def closing : List Event := [.closeReceived, .lost]

/-- A frame is released, if it is held. -/
def release (decoder : Decoder) (l : Link) (frame : Nat) (how : Completion) : Link × Answer :=
  if l.jobs.any fun job => job.number == frame then
    let after := l.step decoder (.finished frame how)
    (after, if l.draws.length < after.draws.length then .painted else .failed)
  else (l, .noSuchFrame)

/-- The user types a line, to which somebody listens or not. -/
def typeLine (decoder : Decoder) (l : Link) (line : String) : Link × Answer :=
  match Input.ofLine line with
  | .error e => (l, .refused e)
  | .ok none => (l, .skipped)
  | .ok (some i) =>
    if l.hasInputs then
      let (after, sent) := advance decoder l [.input i true]
      (after, .texts (textsOf sent))
    else (l, .noInput)

/-- One step while the socket is open. -/
def playLive (decoder : Decoder) (l : Link) : Step → Link × Answer
  | .binary bytes =>
    let after := l.step decoder (.received (.binary bytes))
    (after, if l.started < after.started then .held l.started else .dropped)
  | .text s =>
    let (after, sent) := advance decoder l [.received (.text s)]
    (after, .texts (textsOf sent))
  | .ping bytes =>
    match advance decoder l [.pinged bytes] with
    | (after, [.pong bytes]) => (after, .pong bytes)
    | (after, _) => (after, .nothing)
  | .hostClose => (l.run decoder closing, .closeAnswered)
  | .hostLost => (l.step decoder .lost, .nothing)
  | .release frame how => release decoder l frame how
  | .input line => typeLine decoder l line
  | .endInput => (l.step decoder .inputsDropped, .texts [])
  | .shutdown now =>
    if l.hasShutdown then
      let after := l.step decoder (.shutdown now)
      (after, if after.live then .texts [] else .closeReceived)
    else (l, .noShutdown)
  | .dropShutdown => (l.step decoder .shutdownDropped, .texts [])

/-- One step. -/
def play (decoder : Decoder) (l : Link) (s : Step) : Link × Answer :=
  if l.live then playLive decoder l s
  else
    match s with
    | .release frame how => release decoder l frame how
    | _ => (l, .ended)

/-- One step after another. -/
def playAll (decoder : Decoder) (l : Link) : List Step → Link × List Answer
  | [] => (l, [])
  | s :: rest =>
    match play decoder l s with
    | (l, answer) =>
      match playAll decoder l rest with
      | (l, answers) => (l, answer :: answers)

/-! ### A whole script -/

/-- What is seen of a script. -/
structure Report where
  /-- What the host was asked for, if the socket was ever open. -/
  path : Option String
  /-- The answers to the steps. -/
  answers : List Answer
  /-- The frames that were held at the end, and the answers to their release. -/
  rest : List (Nat × Answer)
  /-- What was painted, in order. -/
  draws : List Draw
  /-- The canvases at the end. -/
  canvases : Canvases
  /-- The report of the session. -/
  result : Except Link.StartError (Option Snapshot)

/-- Releases the frames that are held, in order. -/
def releaseAll (decoder : Decoder) (l : Link) : List Nat → Link × List (Nat × Answer)
  | [] => (l, [])
  | frame :: rest =>
    match release decoder l frame .decided with
    | (l, answer) =>
      match releaseAll decoder l rest with
      | (l, answers) => (l, (frame, answer) :: answers)

/-- What is seen of a script from some state on. -/
def performFrom (decoder : Decoder) (l : Link) (steps : List Step) : Report :=
  let path := if l.live then some l.stage.session.config.target else none
  let (l, answers) := playAll decoder l steps
  let l := l.run decoder closing
  let (l, rest) := releaseAll decoder l (l.jobs.map Job.number)
  ⟨path, answers, rest, l.draws, l.stage.canvases, .ok l.result?⟩

/-- What is seen of a script. -/
def perform (decoder : Decoder) (network : Network) (stage : Stage) (steps : List Step) : Report :=
  match Link.start network stage with
  | .ok l => performFrom decoder l steps
  | .error e => { performFrom decoder (.begin stage false) steps with result := .error e }

end RemoteDisplay.Rehearsal
