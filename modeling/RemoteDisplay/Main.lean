/-
**The viewer as a program.**

The program reads its arguments and the environment, runs a session, saves the canvas and prints
the report.  It has no network of its own, so each attempt to open a socket fails and the session
is over at once; what the user does is then not waited for.

Main definitions:

* `main` — the program.
-/
import RemoteDisplay.Cli.Viewing

set_option relaxedAutoImplicit false
set_option autoImplicit false

namespace RemoteDisplay

/-- A new identifier, picked at random. -/
def SessionId.random : IO SessionId := do
  let digits ← (List.range 32).mapM fun _ => IO.rand 0 15
  return (SessionId.ofRandom? (digits.map Text.nibble)).getD .zero

namespace Cli

/-- The variables of the environment that can set something. -/
def readEnvironment : IO Environment := do
  let names := ["WD_HOST", "WD_PORT", "WD_APP", "WD_CANVAS_ID"]
  let values ← names.mapM fun name => return (name, ← IO.getEnv name)
  return fun name => (values.lookup name).join

/-- Saves what is to be saved, and tells whether that was possible. -/
def save : Option (String × Option (List UInt8)) → IO Bool
  | none => return true
  | some (_, none) => return false
  | some (path, some bytes) => do
    try
      IO.FS.writeBinFile path ⟨bytes.toArray⟩
      return true
    catch _ => return false

/-- Prints what the program says, and gives the number it ends with. -/
def finish (o : Outcome) : IO UInt32 := do
  IO.print o.stdout
  return o.exit.toUInt32

end Cli

end RemoteDisplay

/-- The program: one session without a network. -/
def main (args : List String) : IO UInt32 := do
  match RemoteDisplay.Cli.respond args (← RemoteDisplay.Cli.readEnvironment) with
  | .inl outcome => RemoteDisplay.Cli.finish outcome
  | .inr options =>
    let id ← RemoteDisplay.SessionId.random
    let viewing := RemoteDisplay.Cli.view .missing options id []
    let saved ← RemoteDisplay.Cli.save viewing.save?
    RemoteDisplay.Cli.finish (viewing.outcome saved)
