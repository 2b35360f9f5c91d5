/-
**Reading commands.**

A display host reads a command from a line of text.  The verb ends at the first space and counts in
any case of its ASCII letters.  After it come the arguments, between blanks of any kind; what
follows the last argument is not looked at.

A text without a space names no verb at all; one with an unknown verb is told apart from one whose
arguments are missing or are no numbers of 32 bits.

Main definitions:

* `RemoteDisplay.Verb.ofText?` — the verb that a text spells, in any case;
* `RemoteDisplay.CommandError` — why a text is no command;
* `RemoteDisplay.Command.read` — reads a command.
-/
import RemoteDisplay.Command
import RemoteDisplay.Text.Blank
import RemoteDisplay.Text.Quoted

set_option relaxedAutoImplicit false
set_option autoImplicit false

namespace RemoteDisplay

/-! ### Verbs -/

/-- The two texts differ at most in the case of their ASCII letters. -/
def Text.sameLetters (s t : List Char) : Bool := s.map Char.toLower == t.map Char.toLower

/-- The verb that a text spells, in any case of its letters. -/
def Verb.ofText? (s : List Char) : Option Verb :=
  Verb.all.find? fun v => Text.sameLetters s v.text.toList

/-! ### Errors -/

/-- Why a text is no command. -/
inductive CommandError where
  /-- The text before the first space is no verb. -/
  | unknownCommand (verb : String)
  /-- The arguments are missing or are no numbers of 32 bits. -/
  | malformedCommand (text : String)
deriving DecidableEq, Repr

/-- The wording of a refusal. -/
def CommandError.message : CommandError → String
  | unknownCommand verb => "unknown command verb: " ++ Text.quoted verb
  | malformedCommand text => "malformed command: " ++ Text.quoted text

/-! ### Reading -/

namespace Command

/-- Reads as many arguments as a verb takes from the tokens in front. -/
def readArgs? (verb : Verb) (tokens : List (List Char)) : Option Command :=
  ((tokens.take verb.arity).mapM Number.readInt32?).bind verb.command?

/-- Reads a command. -/
def read (s : String) : Except CommandError Command :=
  match s.toList.span (· ≠ ' ') with
  | (_, []) => .error (.unknownCommand s)
  | (verb, _ :: args) =>
    match Verb.ofText? verb with
    | none => .error (.unknownCommand (String.ofList verb))
    | some v =>
      match readArgs? v (Text.tokens args) with
      | none => .error (.malformedCommand s)
      | some c => .ok c

end Command

end RemoteDisplay
