/-
**Settings of the viewer.**

The viewer is told where to connect to, how large its canvas is and where it is shown, and what to
do in the end.  Each setting has a name and can be given once; four of them can also come from the
environment, and what is given nowhere has a default.

Main definitions:

* `RemoteDisplay.Cli.Key`, `RemoteDisplay.Cli.Switch` — the settings with and without a value;
* `RemoteDisplay.Cli.Given`, `RemoteDisplay.Cli.Given.set?` — the settings that have been given;
* `RemoteDisplay.Cli.Options`, `RemoteDisplay.Cli.Given.options?` — all settings.
-/
import RemoteDisplay.Geometry
import RemoteDisplay.Number.Real
import RemoteDisplay.Session.Config

set_option relaxedAutoImplicit false
set_option autoImplicit false

namespace RemoteDisplay.Cli

/-! ### Names -/

/-- A setting with a value. -/
inductive Key where
  | host
  | port
  | app
  | canvasId
  | width
  | height
  | displayLeft
  | displayTop
  | displayWidth
  | displayHeight
  | savePng
deriving DecidableEq, Repr

/-- A setting that is on or off. -/
inductive Switch where
  | noInput
  | json
deriving DecidableEq, Repr

/-- The setting with a name. -/
def Key.ofName? : String → Option Key
  | "host" => some host
  | "port" => some port
  | "app" => some app
  | "canvas-id" => some canvasId
  | "width" => some width
  | "height" => some height
  | "display-left" => some displayLeft
  | "display-top" => some displayTop
  | "display-width" => some displayWidth
  | "display-height" => some displayHeight
  | "save-png" => some savePng
  | _ => none

/-- The value may be a negative number. -/
def Key.isSigned : Key → Bool
  | displayLeft | displayTop => true
  | _ => false

/-- The switch with a name. -/
def Switch.ofName? : String → Option Switch
  | "no-input" => some noInput
  | "json" => some json
  | _ => none

/-! ### Settings that have been given -/

/-- The settings that have been given. -/
structure Given where
  host : Option String
  port : Option UInt16
  app : Option String
  canvasId : Option String
  width : Option UInt32
  height : Option UInt32
  displayLeft : Option Float
  displayTop : Option Float
  displayWidth : Option Float
  displayHeight : Option Float
  savePng : Option String
  noInput : Bool
  json : Bool

namespace Given

/-- Nothing has been given. -/
def nothing : Given :=
  ⟨none, none, none, none, none, none, none, none, none, none, none, false, false⟩

/-- The integer below a bound that a text spells. -/
def below? (bound : Nat) (s : String) : Option Nat :=
  (Number.readInt? s.toList).bind fun n => if 0 ≤ n ∧ n < bound then some n.toNat else none

/-- The port that a text spells. -/
def port? (s : String) : Option UInt16 := (below? UInt16.size s).map UInt16.ofNat

/-- The length in pixels that a text spells. -/
def length? (s : String) : Option UInt32 := (below? UInt32.size s).map UInt32.ofNat

/-- The path that a text spells. -/
def path? (s : String) : Option String := if s.isEmpty then none else some s

/-- Gives a value for the first time, if there is one. -/
def once {α : Type} (old new : Option α) : Option (Option α) :=
  if old.isNone && new.isSome then some new else none

/-- One setting more, if it has not been given and the text spells a value for it. -/
def set? (g : Given) (k : Key) (s : String) : Option Given :=
  match k with
  | .host => (once g.host (some s)).map fun host => { g with host }
  | .port => (once g.port (port? s)).map fun port => { g with port }
  | .app => (once g.app (some s)).map fun app => { g with app }
  | .canvasId => (once g.canvasId (some s)).map fun canvasId => { g with canvasId }
  | .width => (once g.width (length? s)).map fun width => { g with width }
  | .height => (once g.height (length? s)).map fun height => { g with height }
  | .displayLeft =>
    (once g.displayLeft (Number.readReal? s.toList)).map fun displayLeft => { g with displayLeft }
  | .displayTop =>
    (once g.displayTop (Number.readReal? s.toList)).map fun displayTop => { g with displayTop }
  | .displayWidth =>
    (once g.displayWidth (Number.readReal? s.toList)).map fun displayWidth =>
      { g with displayWidth }
  | .displayHeight =>
    (once g.displayHeight (Number.readReal? s.toList)).map fun displayHeight =>
      { g with displayHeight }
  | .savePng => (once g.savePng (path? s)).map fun savePng => { g with savePng }

/-- One switch more, if it has not been given. -/
def switch? (g : Given) : Switch → Option Given
  | .noInput => if g.noInput then none else some { g with noInput := true }
  | .json => if g.json then none else some { g with json := true }

end Given

/-! ### All settings -/

/-- What the viewer is told. -/
structure Options where
  config : Config
  /-- The logical size of the canvas and where it is shown. -/
  geometry : Geometry
  /-- What the user does is not read. -/
  noInput : Bool
  /-- Where the canvas is saved in the end. -/
  savePng : Option String
  /-- The session is reported in the end. -/
  json : Bool

/-- The variables of the environment that are set. -/
abbrev Environment : Type := String → Option String

namespace Given

/-- A text that is given, or set in the environment, or a default. -/
def textOr (given : Option String) (env : Environment) (name standard : String) : String :=
  (given.orElse fun _ => env name).getD standard

/-- The port that is given, or set in the environment, or the standard one; none if the environment
sets it to something else than a port. -/
def portOr? (given : Option UInt16) (env : Environment) : Option UInt16 :=
  match given with
  | some port => some port
  | none =>
    match env "WD_PORT" with
    | some s => port? s
    | none => some Config.standard.port

/-- All settings, given those that have been given and the environment.  A canvas is shown at its
logical size, in the corner of the screen. -/
def options? (g : Given) (env : Environment) : Option Options := do
  let port ← portOr? g.port env
  let width := g.width.getD 800
  let height := g.height.getD 600
  return {
    config :=
      { host := textOr g.host env "WD_HOST" Config.standard.host
        port
        appName := textOr g.app env "WD_APP" Config.standard.appName
        canvasId := textOr g.canvasId env "WD_CANVAS_ID" Config.standard.canvasId }
    geometry :=
      { width
        height
        bbox :=
          { left := g.displayLeft.getD 0
            top := g.displayTop.getD 0
            width := g.displayWidth.getD width.toFloat
            height := g.displayHeight.getD height.toFloat } }
    noInput := g.noInput
    savePng := g.savePng
    json := g.json }

end Given

end RemoteDisplay.Cli
