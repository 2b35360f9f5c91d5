/-
**A run of the viewer.**

The viewer makes a canvas, attaches a session to it, and lets the session live until its socket is
at its end and nothing is being decoded.  Then it saves the canvas if it is told to, and after that
it reports the session if it is told to.  If the canvas cannot be saved, nothing is reported.  A
canvas that no memory can hold is not made, and that ends the program.

Main definitions:

* `RemoteDisplay.Cli.Outcome` — what the program says and how it ends;
* `RemoteDisplay.Cli.Viewing`, `RemoteDisplay.Cli.view` — what is left after a run;
* `RemoteDisplay.Cli.Viewing.outcome` — how the program ends after a run;
* `RemoteDisplay.Cli.respond` — what the program does when it is started.
-/
import RemoteDisplay.Cli.Arguments
import RemoteDisplay.Json.Values
import RemoteDisplay.Json.Writer
import RemoteDisplay.Link.Basic

set_option relaxedAutoImplicit false
set_option autoImplicit false

namespace RemoteDisplay.Cli

/-- What the program says and the number it ends with. -/
structure Outcome where
  exit : UInt8
  stdout : String
deriving DecidableEq, Repr

namespace Outcome

/-- The name of the program and its version. -/
def version : Outcome := ⟨0, "webdisplay-client 0.1.0\n"⟩

/-- How the program is used. -/
def help : Outcome :=
  ⟨0, "Viewer for the web display remote framebuffer protocol\n\n" ++
    "Usage: webdisplay-client [OPTIONS]\n"⟩

/-- The arguments make no sense. -/
def misuse : Outcome := ⟨2, ""⟩

/-- The canvas is too large to be made. -/
def tooLarge : Outcome := ⟨101, ""⟩

/-- The canvas could not be saved. -/
def notSaved : Outcome := ⟨1, ""⟩

end Outcome

/-! ### A run -/

/-- What is left after a run. -/
structure Viewing where
  options : Options
  link : Link

/-- The only canvas, and its name. -/
def stage (options : Options) (id : SessionId) : Stage :=
  ((⟨.new id options.config, [.blank options.geometry]⟩ : Stage).step
    (.attach [(options.config.canvasId, 0)])).1

/-- The events that end all decoding. -/
def completions (l : Link) : List Event := l.jobs.map fun job => .finished job.number .decided

/-- What is left after a run in which some events happen until the socket is lost.  A session that
could not begin is left as it was. -/
def view (network : Network) (options : Options) (id : SessionId) (events : List Event) : Viewing :=
  match Link.start network (stage options id) with
  | .ok l =>
    let l := l.run Frame.picture (events ++ [.lost])
    ⟨options, l.run Frame.picture (completions l)⟩
  | .error _ => ⟨options, .begin (stage options id) false⟩

namespace Viewing

/-- The path that the canvas is to be saved to, and its file if it has one. -/
def save? (v : Viewing) : Option (String × Option (List UInt8)) :=
  v.options.savePng.map fun path => (path, v.link.stage.canvases.head?.bind Canvas.file?)

/-- The report of the session. -/
def report (v : Viewing) : String :=
  if v.options.json then (Json.toJson v.link.stage.session.snapshot).prettyText ++ "\n" else ""

/-- How the program ends after a run, given whether all that was to be saved has been. -/
def outcome (v : Viewing) (saved : Bool) : Outcome :=
  if saved then ⟨0, v.report⟩ else .notSaved

end Viewing

/-- What the program does when it is started: it ends at once, or there is a run. -/
def respond (args : List String) (env : Environment) : Outcome ⊕ Options :=
  match read args with
  | .version => .inl .version
  | .help => .inl .help
  | .misuse => .inl .misuse
  | .view given =>
    match given.options? env with
    | some options => if Canvas.fits options.geometry then .inr options else .inl .tooLarge
    | none => .inl .misuse

end RemoteDisplay.Cli
