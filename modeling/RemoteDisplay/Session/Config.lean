/-
**What a session is opened with.**

Main definitions:

* `RemoteDisplay.Config` — the address of a display host, the application to show, and the canvas to
  show it on;
* `RemoteDisplay.Config.url` — the address of the socket.
-/

set_option relaxedAutoImplicit false
set_option autoImplicit false

namespace RemoteDisplay

/-- The display host, the application on it, and the canvas to paint on. -/
structure Config where
  host : String
  port : UInt16
  appName : String
  canvasId : String
deriving DecidableEq, Repr

namespace Config

/-- The configuration that is used where nothing else is said. -/
def standard : Config := ⟨"127.0.0.1", 7788, "mguxdemo", "webdisplay"⟩

instance : Inhabited Config := ⟨standard⟩

/-- What the host is asked for when the socket is opened. -/
def target (c : Config) : String := "/" ++ c.appName

/-- The address of the socket. -/
def url (c : Config) : String := "ws://" ++ c.host ++ ":" ++ toString c.port ++ c.target

end Config

end RemoteDisplay
