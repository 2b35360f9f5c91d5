/-
**One line of input.**

Without a window, what the user does is read as text, one event a line: a verb and its arguments,
between blanks of any kind.  A line without tokens says nothing, nor does one that starts with a
number sign.  The verb counts in any case of its ASCII letters.

A line with an unknown verb is refused for that alone; then the number of arguments is looked at,
and then the arguments, from the left.

Main definitions:

* `RemoteDisplay.InputVerb` — the five verbs of an input line;
* `RemoteDisplay.LineError` — why a line is no event;
* `RemoteDisplay.Input.ofLine` — the event of a line, if it is not blank or a comment.
-/
import RemoteDisplay.Input.Event
import RemoteDisplay.Number.Real
import RemoteDisplay.Text.Blank
import RemoteDisplay.Text.Quoted

set_option relaxedAutoImplicit false
set_option autoImplicit false

namespace RemoteDisplay

/-! ### Verbs -/

/-- The verb of an input line. -/
inductive InputVerb where
  | pointer (kind : PointerEvent.Kind)
  | key (kind : KeyEvent.Kind)
deriving DecidableEq, Repr

namespace InputVerb

/-- The verb with a spelling, in lower case. -/
def ofText? (s : String) : Option InputVerb :=
  match s with
  | "down" => some (pointer .down)
  | "up" => some (pointer .up)
  | "move" => some (pointer .move)
  | "keydown" => some (key .down)
  | "keyup" => some (key .up)
  | _ => none

/-- How many arguments a verb takes: a point has two coordinates, a key has one code. -/
def arity : InputVerb → Nat
  | pointer _ => 2
  | key _ => 1

end InputVerb

/-! ### Errors -/

/-- Why a line is no event. -/
inductive LineError where
  /-- The first token is no verb. -/
  | unknownVerb (verb : String)
  /-- There are more or fewer arguments than the verb takes. -/
  | wrongArity (verb : String) (expected got : Nat)
  /-- An argument is no number of the kind that the verb takes. -/
  | invalidArgument (verb value : String)
deriving DecidableEq, Repr

/-- The wording of a refusal. -/
def LineError.message : LineError → String
  | unknownVerb verb => "unknown input verb " ++ Text.quoted verb
  | wrongArity verb expected got =>
      verb ++ ": expected " ++ toString expected ++ " argument(s), got " ++ toString got
  | invalidArgument verb value => verb ++ ": invalid argument " ++ Text.quoted value

/-! ### Reading -/

namespace Input

/-- Reads an argument, or says which argument of which verb is wrong. -/
def readArg {α : Type} (read? : List Char → Option α) (verb : String) (arg : List Char) :
    Except LineError α :=
  match read? arg with
  | some a => .ok a
  | none => .error (.invalidArgument verb (String.ofList arg))

/-- Reads the arguments of a verb. -/
def readArgs (verb : String) (v : InputVerb) (args : List (List Char)) : Except LineError Input :=
  match v, args with
  | .pointer kind, [x, y] => do
    let x ← readArg Number.readReal? verb x
    let y ← readArg Number.readReal? verb y
    return .pointer ⟨kind, ⟨x, y⟩⟩
  | .key kind, [code] => do
    let code ← readArg Number.readInt32? verb code
    return .key ⟨kind, code⟩
  | v, args => .error (.wrongArity verb v.arity args.length)

/-- The event that the tokens of a line stand for, none for a blank line or a comment. -/
def ofTokens : List (List Char) → Except LineError (Option Input)
  | [] => .ok none
  | ('#' :: _) :: _ => .ok none
  | verb :: args =>
    let verb := String.ofList (verb.map Char.toLower)
    match InputVerb.ofText? verb with
    | none => .error (.unknownVerb verb)
    | some v => (readArgs verb v args).map some

/-- The event of a line, none for a blank line or a comment. -/
def ofLine (line : String) : Except LineError (Option Input) := ofTokens (Text.tokens line.toList)

end Input

end RemoteDisplay
