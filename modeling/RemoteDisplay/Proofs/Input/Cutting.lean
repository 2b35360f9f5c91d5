/-
**Cutting a stream into lines.**

The lines of a stream are cut off behind its line feeds.  Read as a relation between streams and
lists of lines, this says what the lines are: each ends with a line feed and holds no other, and
what is left behind the last line feed is a line, too, if there is anything.  Together the lines are
the stream, so no other lists of lines belong to it.

Main definitions:

* `RemoteDisplay.Input.Cut` — a stream and its lines;
* `RemoteDisplay.Input.dropByte`, `RemoteDisplay.Input.content` — a line without its end;
* `RemoteDisplay.Input.Plainer` — a stream with fewer carriage returns in front of line feeds.

Main results:

* `RemoteDisplay.Input.cut_iff` — the lines of a stream are what it is cut into;
* `RemoteDisplay.Input.trimEnd_concat_feed`, `RemoteDisplay.Input.trimEnd_of_no_feed` — what is cut
  off at the end of a line;
* `RemoteDisplay.Input.Plainer.lines` — how the lines of such a stream differ.
-/
import Mathlib.Data.List.Forall2
import RemoteDisplay.Input.Lines

set_option relaxedAutoImplicit false
set_option autoImplicit false

namespace RemoteDisplay.Input

variable {bytes line rest : List UInt8} {ls : List (List UInt8)}

/-! ### Lines -/

/-- A stream and its lines. -/
inductive Cut : List UInt8 → List (List UInt8) → Prop
  /-- An empty stream has none. -/
  | nil : Cut [] []
  /-- What no line feed ends is a line if it is not empty. -/
  | last {line : List UInt8} (hne : line ≠ []) (hline : lineFeed ∉ line) : Cut line [line]
  /-- A line feed ends a line. -/
  | feed {line rest : List UInt8} {ls : List (List UInt8)} (hline : lineFeed ∉ line)
      (h : Cut rest ls) : Cut (line ++ lineFeed :: rest) ((line ++ [lineFeed]) :: ls)

theorem lines_cons (b : UInt8) (bytes : List UInt8) :
    lines (b :: bytes) = consByte b (lines bytes) := rfl

/-- A line feed in front is a line. -/
theorem consByte_feed (ls : List (List UInt8)) : consByte lineFeed ls = [lineFeed] :: ls := by
  cases ls <;> rfl

theorem consByte_cons {b : UInt8} (hb : b ≠ lineFeed) (line : List UInt8)
    (ls : List (List UInt8)) : consByte b (line :: ls) = (b :: line) :: ls := if_neg hb

/-- A byte in front belongs to the first line, or is one. -/
theorem Cut.consByte (h : Cut bytes ls) (b : UInt8) : Cut (b :: bytes) (consByte b ls) := by
  by_cases hb : b = lineFeed
  · subst hb
    rw [consByte_feed]
    exact @Cut.feed [] _ _ List.not_mem_nil h
  · cases h with
    | nil => exact .last (List.cons_ne_nil _ _) (by simpa using Ne.symm hb)
    | last hne hline =>
      rw [consByte_cons hb]
      refine .last (List.cons_ne_nil _ _) ?_
      simpa using ⟨Ne.symm hb, hline⟩
    | feed hline h =>
      rw [consByte_cons hb]
      refine @Cut.feed (b :: _) _ _ ?_ h
      simpa using ⟨Ne.symm hb, hline⟩

theorem cut_lines (bytes : List UInt8) : Cut bytes (lines bytes) := by
  induction bytes with
  | nil => exact .nil
  | cons b bytes ih => exact ih.consByte b

/-- A line in front is cut off behind its line feed. -/
theorem lines_append_feed (hline : lineFeed ∉ line) (rest : List UInt8) :
    lines (line ++ lineFeed :: rest) = (line ++ [lineFeed]) :: lines rest := by
  induction line with
  | nil => exact consByte_feed _
  | cons b line ih =>
    obtain ⟨hb, hline⟩ := not_or.1 (mt List.mem_cons.2 hline)
    rw [List.cons_append, lines_cons, ih hline, consByte_cons (Ne.symm hb)]
    rfl

/-- What no line feed ends is one line. -/
theorem lines_of_no_feed (hne : line ≠ []) (hline : lineFeed ∉ line) : lines line = [line] := by
  induction line with
  | nil => exact absurd rfl hne
  | cons b line ih =>
    obtain ⟨hb, hline⟩ := not_or.1 (mt List.mem_cons.2 hline)
    cases line with
    | nil => rfl
    | cons c line =>
      rw [lines_cons, ih (List.cons_ne_nil _ _) hline, consByte_cons (Ne.symm hb)]

/-- The lines of a stream are what it is cut into. -/
theorem cut_iff : Cut bytes ls ↔ ls = lines bytes := by
  constructor
  · intro h
    induction h with
    | nil => rfl
    | last hne hline => exact (lines_of_no_feed hne hline).symm
    | feed hline _ ih => rw [lines_append_feed hline, ih]
  · rintro rfl
    exact cut_lines bytes

/-- Behind a line feed the lines are those of what stands there. -/
theorem Cut.lines_append (h : Cut bytes ls) (rest : List UInt8) :
    lines (bytes ++ lineFeed :: rest) = lines (bytes ++ [lineFeed]) ++ lines rest := by
  induction h with
  | nil => exact lines_append_feed List.not_mem_nil rest
  | last _ hline =>
    rw [lines_append_feed hline, lines_append_feed hline]
    rfl
  | feed hline _ ih =>
    rw [List.append_assoc, List.append_assoc, List.cons_append, List.cons_append,
      lines_append_feed hline, lines_append_feed hline, ih]
    rfl

/-! ### The ends of lines -/

/-- Some bytes without the last one, if that is the given one. -/
def dropByte (b : UInt8) (line : List UInt8) : List UInt8 :=
  if line.getLast? = some b then line.dropLast else line

/-- A line without its line feed, and without one carriage return before it. -/
def content (line : List UInt8) : List UInt8 := dropByte carriageReturn (dropByte lineFeed line)

@[simp] theorem dropByte_concat (b : UInt8) (line : List UInt8) :
    dropByte b (line ++ [b]) = line := by
  simp [dropByte]

theorem dropByte_of_getLast?_ne {b : UInt8} (h : line.getLast? ≠ some b) : dropByte b line = line :=
  if_neg h

theorem dropByte_of_not_mem {b : UInt8} (h : b ∉ line) : dropByte b line = line :=
  dropByte_of_getLast?_ne fun hlast => h (List.mem_of_getLast? hlast)

/-- Nothing is dropped, or the byte at the end is. -/
theorem eq_dropByte_or (b : UInt8) (line : List UInt8) :
    line = dropByte b line ∨ line = dropByte b line ++ [b] := by
  by_cases h : line.getLast? = some b
  · obtain ⟨front, rfl⟩ := List.getLast?_eq_some_iff.1 h
    exact .inr (by rw [dropByte_concat])
  · exact .inl (dropByte_of_getLast?_ne h).symm

/-- What is cut off at the end of a line that a line feed ends. -/
theorem trimEnd_concat_feed (line : List UInt8) :
    trimEnd (line ++ [lineFeed]) = dropByte carriageReturn line := by
  rcases List.eq_nil_or_concat line with rfl | ⟨front, b, rfl⟩
  · rfl
  · by_cases hb : b = carriageReturn
    · simp [trimEnd, dropByte, hb]
    · simp [trimEnd, dropByte, hb]

/-- Nothing is cut off where no line feed ends the line. -/
theorem trimEnd_of_no_feed (h : line.getLast? ≠ some lineFeed) : trimEnd line = line := by
  rcases List.eq_nil_or_concat line with rfl | ⟨front, b, rfl⟩
  · rfl
  · have hb : b ≠ lineFeed := by simpa using h
    simp [trimEnd, hb]

/-! ### Carriage returns -/

/-- The second stream is the first one with some carriage returns left out that stand in front of
line feeds. -/
inductive Plainer : List UInt8 → List UInt8 → Prop
  | nil : Plainer [] []
  /-- A byte is left alone. -/
  | keep (b : UInt8) {s t : List UInt8} (h : Plainer s t) : Plainer (b :: s) (b :: t)
  /-- A carriage return is left out. -/
  | leave {s t : List UInt8} (h : Plainer s t) :
      Plainer (carriageReturn :: lineFeed :: s) (lineFeed :: t)

/-- The second line is the first one, or the first one without a carriage return in front of the
line feed. -/
inductive PlainerLine : List UInt8 → List UInt8 → Prop
  | same (line : List UInt8) : PlainerLine line line
  | leave (line : List UInt8) :
      PlainerLine (line ++ [carriageReturn, lineFeed]) (line ++ [lineFeed])

theorem PlainerLine.cons {line line' : List UInt8} (h : PlainerLine line line') (b : UInt8) :
    PlainerLine (b :: line) (b :: line') := by
  cases h with
  | same line => exact .same (b :: line)
  | leave line => exact .leave (b :: line)

theorem PlainerLine.consByte {ls ls' : List (List UInt8)} (h : List.Forall₂ PlainerLine ls ls')
    (b : UInt8) : List.Forall₂ PlainerLine (consByte b ls) (consByte b ls') := by
  by_cases hb : b = lineFeed
  · subst hb
    rw [consByte_feed, consByte_feed]
    exact .cons (.same [lineFeed]) h
  · cases h with
    | nil => exact .cons (.same [b]) .nil
    | cons hline hrest =>
      rw [consByte_cons hb, consByte_cons hb]
      exact .cons (hline.cons b) hrest

/-- The lines of such streams correspond. -/
theorem Plainer.lines {s t : List UInt8} (h : Plainer s t) :
    List.Forall₂ PlainerLine (lines s) (lines t) := by
  induction h with
  | nil => exact .nil
  | keep b _ ih => exact PlainerLine.consByte ih b
  | leave _ ih =>
    have hne : carriageReturn ≠ lineFeed := by decide
    rw [lines_cons, lines_cons lineFeed, lines_cons lineFeed, consByte_feed, consByte_feed,
      consByte_cons hne]
    exact .cons (.leave []) ih

end RemoteDisplay.Input
