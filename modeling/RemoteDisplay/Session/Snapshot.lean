/-
**A session at one moment.**

A session begins detached.  It is attached once it has a canvas, connected while its socket is open,
and disconnected after that.  Along the way it counts frames and commands.

Main definitions:

* `RemoteDisplay.Status` — the stage of a session's life;
* `RemoteDisplay.Counters` — what has been counted;
* `RemoteDisplay.Snapshot` — a session as it is reported, its counters in words of 64 bits.
-/
import RemoteDisplay.Input.Capture
import RemoteDisplay.SessionId

set_option relaxedAutoImplicit false
set_option autoImplicit false

namespace RemoteDisplay

/-- The stage of a session's life. -/
inductive Status where
  /-- There is no canvas yet. -/
  | detached
  /-- There is a canvas, and no open socket yet. -/
  | attached
  /-- The socket is open. -/
  | connected
  /-- The socket is closed. -/
  | disconnected
deriving DecidableEq, Repr, Inhabited

/-- What a session has counted. -/
structure Counters where
  /-- Messages that were frames. -/
  framesReceived : Nat
  /-- Frames that were painted. -/
  framesPainted : Nat
  /-- Messages that were no frames, and frames that were not painted. -/
  framesDropped : Nat
  /-- Commands that were written to the socket. -/
  commandsSent : Nat
  /-- Commands that were refused since the socket was not open. -/
  commandsRejected : Nat
deriving DecidableEq, Repr

namespace Counters

/-- Nothing has been counted. -/
def zero : Counters := ⟨0, 0, 0, 0, 0⟩

end Counters

/-- A session as it is reported. -/
structure Snapshot where
  sessionId : SessionId
  url : String
  status : Status
  pointer : Pointer
  framesReceived : UInt64
  framesPainted : UInt64
  framesDropped : UInt64
  commandsSent : UInt64
  commandsRejected : UInt64
deriving DecidableEq, Repr

end RemoteDisplay
