/-
**Input as a stream of bytes.**

The lines of a stream of bytes are read one after another, each up to and with the next line feed;
the last one needs none.  One carriage return before the line feed is not part of the line.  The
event of each line goes to a receiver; lines that say nothing or are refused are passed over.

Reading stops at a line that is not UTF-8, which is an error, and at the first event for which there
is no receiver any more, which is none.  Either line has been read by then; what comes after it has
not.

Main definitions:

* `RemoteDisplay.Input.lines` — the lines of a stream, each with its line feed;
* `RemoteDisplay.Input.lineText?` — the text of a line;
* `RemoteDisplay.Input.Forwarded`, `RemoteDisplay.Input.forward` — what became of a stream.

Main results:

* `RemoteDisplay.Input.flatten_lines` — the lines of a stream are the stream, cut up.
-/
import RemoteDisplay.Input.Line

set_option relaxedAutoImplicit false
set_option autoImplicit false

namespace RemoteDisplay.Input

/-! ### Lines -/

/-- The byte that ends a line. -/
def lineFeed : UInt8 := 10

/-- The byte that is dropped in front of a line feed. -/
def carriageReturn : UInt8 := 13

/-- Puts a byte in front of the lines that follow it. -/
def consByte (b : UInt8) : List (List UInt8) → List (List UInt8)
  | [] => [[b]]
  | line :: rest => if b = lineFeed then [b] :: line :: rest else (b :: line) :: rest

/-- The lines of a stream, each with its line feed. -/
def lines (bytes : List UInt8) : List (List UInt8) := bytes.foldr consByte []

/-- The lines of a stream are the stream, cut up. -/
theorem flatten_lines (bytes : List UInt8) : (lines bytes).flatten = bytes := by
  induction bytes with
  | nil => rfl
  | cons b bytes ih =>
    change (consByte b (lines bytes)).flatten = b :: bytes
    revert ih
    cases lines bytes with
    | nil => simp [consByte]
    | cons line rest =>
      intro ih
      simp only [consByte]
      split <;> simp [← ih]

/-- A line without its end: the line feed, and one carriage return before it. -/
def trimEnd (line : List UInt8) : List UInt8 :=
  match line.reverse with
  | b :: rest =>
    if b = lineFeed then
      match rest with
      | c :: front => if c = carriageReturn then front.reverse else rest.reverse
      | [] => []
    else line
  | [] => []

/-- The text of a line, if its bytes are UTF-8. -/
def lineText? (line : List UInt8) : Option String := String.fromUTF8? ⟨(trimEnd line).toArray⟩

/-! ### Forwarding -/

/-- What became of a stream: the events that went to the receiver, how many bytes were not read, and
whether a line that is not UTF-8 ended it. -/
structure Forwarded where
  inputs : List Input
  unread : Nat
  failed : Bool
deriving Repr

/-- The wording for a line that is not UTF-8. -/
def readFailure : String := "failed to read input line"

/-- Forwards the events of some lines, as long as there is a receiver. -/
def forwardLines (receiver : Bool) : List (List UInt8) → Forwarded
  | [] => ⟨[], 0, false⟩
  | line :: rest =>
    match lineText? line with
    | none => ⟨[], rest.flatten.length, true⟩
    | some text =>
      match ofLine text with
      | .ok (some input) =>
        if receiver then
          let after := forwardLines receiver rest
          { after with inputs := input :: after.inputs }
        else ⟨[], rest.flatten.length, false⟩
      | _ => forwardLines receiver rest

/-- Forwards the events of a stream, as long as there is a receiver. -/
def forward (receiver : Bool) (bytes : List UInt8) : Forwarded :=
  forwardLines receiver (lines bytes)

end RemoteDisplay.Input
