/-
**Arguments of the viewer.**

Arguments are read from left to right.  A setting is named after two hyphens, and its value follows
after an equals sign or as an argument of its own; such an argument does not begin with a hyphen,
except for a negative number where one makes sense, or a hyphen alone.  Reading ends at the first
argument that asks for the version or for help, or makes no sense.

Main definitions:

* `RemoteDisplay.Cli.Argument` — the form of an argument;
* `RemoteDisplay.Cli.Request`, `RemoteDisplay.Cli.read` — what is asked for.
-/
import RemoteDisplay.Cli.Setting

set_option relaxedAutoImplicit false
set_option autoImplicit false

namespace RemoteDisplay.Cli

/-! ### One argument -/

/-- The form of an argument. -/
inductive Argument where
  /-- Two hyphens alone: no settings follow. -/
  | stop
  /-- A name after two hyphens, and what stands after an equals sign. -/
  | long (name : String) (value : Option String)
  /-- Letters after one hyphen. -/
  | short (letters : List Char)
  /-- Anything else. -/
  | plain
deriving DecidableEq, Repr

/-- The name and the value in an argument after its hyphens. -/
def Argument.ofNamed (s : List Char) : Argument :=
  match s.span (· ≠ '=') with
  | (name, []) => long (String.ofList name) none
  | (name, _ :: value) => long (String.ofList name) (some (String.ofList value))

/-- The form of an argument. -/
def Argument.of (s : String) : Argument :=
  match s.toList with
  | ['-', '-'] => stop
  | '-' :: '-' :: rest => ofNamed rest
  | '-' :: c :: rest => short (c :: rest)
  | _ => plain

/-! ### Values -/

/-- The characters are digits, and there is one. -/
def isWhole (s : List Char) : Bool := !s.isEmpty && s.all Number.isDigit

/-- The characters look like a number without a sign: digits, then perhaps a point and digits, then
perhaps an exponent without a sign. -/
def looksUnsigned (s : List Char) : Bool :=
  match s.span fun c => c ≠ 'e' ∧ c ≠ 'E' with
  | (mantissa, exponent) =>
    let (whole, fraction) := mantissa.span Number.isDigit
    !whole.isEmpty
      && (match fraction with
        | [] => true
        | c :: digits => c == '.' && digits.all Number.isDigit)
      && (match exponent with
        | [] => true
        | _ :: digits => isWhole digits)

/-- An argument can be the value of a setting. -/
def isValue (k : Key) (s : String) : Bool :=
  match s.toList with
  | '-' :: c :: rest => k.isSigned && looksUnsigned (c :: rest)
  | _ => true

/-! ### All arguments -/

/-- What the arguments ask for. -/
inductive Request where
  /-- To run with some settings. -/
  | view (given : Given)
  /-- To tell the version. -/
  | version
  /-- To tell how the program is used. -/
  | help
  /-- Nothing that makes sense. -/
  | misuse

/-- What an argument of one hyphen asks for. -/
def readShort : List Char → Request
  | 'V' :: _ => .version
  | 'h' :: _ => .help
  | _ => .misuse

/-- What some arguments ask for, after some settings have been given. -/
def readFrom (given : Given) : List String → Request
  | [] => .view given
  | arg :: rest =>
    match Argument.of arg with
    | .stop => if rest.isEmpty then .view given else .misuse
    | .plain => .misuse
    | .short letters => readShort letters
    | .long name value =>
      match Key.ofName? name, value with
      | some key, some value =>
        match given.set? key value with
        | some given => readFrom given rest
        | none => .misuse
      | some key, none =>
        match rest with
        | [] => .misuse
        | value :: rest =>
          if isValue key value then
            match given.set? key value with
            | some given => readFrom given rest
            | none => .misuse
          else .misuse
      | none, some _ => .misuse
      | none, none =>
        match Switch.ofName? name with
        | some s =>
          match given.switch? s with
          | some given => readFrom given rest
          | none => .misuse
        | none => if name = "version" then .version else if name = "help" then .help else .misuse

/-- What some arguments ask for. -/
def read (args : List String) : Request := readFrom .nothing args

end RemoteDisplay.Cli
