/-
**What becomes of a stream of input.**

Reading a stream is one loop with four ways to go on from a line: it may be no text, say nothing,
say something that is taken, or say something that nobody takes.  The first and the last end the
loop, and what ends it is the last line that is read.  So a stream is settled by its lines: those in
front of the one that ends the loop are passed one after another, each with its event, and of those
behind it no byte is looked at.

How a line ends does not matter.  A line feed and a carriage return are characters of ASCII, so the
line is a text with them just if it is one without; and they are blanks, which the tokens of a line
do not tell.

Main definitions:

* `RemoteDisplay.Input.said`, `RemoteDisplay.Input.event?` — the event of some bytes, and of a line;
* `RemoteDisplay.Input.Passes` — a line that does not end the loop.

Main results:

* `RemoteDisplay.Input.said_trimEnd` — what is read is what the line says without its end;
* `RemoteDisplay.Input.forwardLines_cons` — one line;
* `RemoteDisplay.Input.forwardLines_append` — some lines that are passed;
* `RemoteDisplay.Input.inputs_forward_append`, `RemoteDisplay.Input.forwardLines_congr` — streams
  one after another, and streams with other line ends;
* `RemoteDisplay.Input.forward_faithful` — **what is forwarded, and how far a stream is read**.
-/
import RemoteDisplay.Proofs.Input.Cutting
import RemoteDisplay.Proofs.Text.Tokens
import RemoteDisplay.Proofs.Text.Utf8

set_option relaxedAutoImplicit false
set_option autoImplicit false

namespace RemoteDisplay.Input

variable {receiver : Bool} {bytes line : List UInt8} {read rest : List (List UInt8)}

/-! ### What a line says -/

/-- The event that some bytes stand for, if they are a text that stands for one. -/
def said (bytes : List UInt8) : Option Input :=
  (Text.ofUtf8? bytes).bind fun text => (ofLine text).toOption.join

/-- The event of a line, which its end is no part of. -/
def event? (line : List UInt8) : Option Input := said (content line)

theorem lineFeed_lt : lineFeed.toNat < 128 := by decide

theorem carriageReturn_lt : carriageReturn.toNat < 128 := by decide

/-- A carriage return at the end is not looked at. -/
theorem said_concat_return (bytes : List UInt8) :
    said (bytes ++ [carriageReturn]) = said bytes := by
  cases htext : Text.ofUtf8? bytes with
  | none =>
    have hreturn : Text.ofUtf8? (bytes ++ [carriageReturn]) = none := by
      rw [Text.ofUtf8?_eq_none_iff] at htext ⊢
      rwa [Text.isUtf8_concat_iff carriageReturn_lt]
    rw [said, said, htext, hreturn]
  | some text =>
    have hbytes := Text.ofUtf8?_eq_some_iff.1 htext
    have hreturn : Text.ofUtf8? (bytes ++ [carriageReturn]) =
        some (String.ofList (text.toList ++ ['\r'])) := by
      rw [Text.ofUtf8?_eq_some_iff, String.toList_ofList, Text.utf8_append, ← hbytes]
      rfl
    have htokens : Text.tokens (text.toList ++ ['\r']) = Text.tokens text.toList :=
      Text.tokens_concat_of_isBlank (by decide) _
    simp [said, htext, hreturn, ofLine, htokens]

theorem said_dropByte_return (bytes : List UInt8) :
    said (dropByte carriageReturn bytes) = said bytes := by
  rcases eq_dropByte_or carriageReturn bytes with h | h
  · rw [← h]
  · conv_rhs => rw [h, said_concat_return]

theorem event?_eq (line : List UInt8) : event? line = said (dropByte lineFeed line) :=
  said_dropByte_return _

/-- What is read of a line is what the line says without its end. -/
theorem said_trimEnd (line : List UInt8) : said (trimEnd line) = event? line := by
  by_cases h : line.getLast? = some lineFeed
  · obtain ⟨front, rfl⟩ := List.getLast?_eq_some_iff.1 h
    rw [trimEnd_concat_feed, event?, content, dropByte_concat]
  · rw [trimEnd_of_no_feed h, event?_eq, dropByte_of_getLast?_ne h]

/-- A line feed that is added at the end is not looked at. -/
theorem event?_concat_feed (hline : lineFeed ∉ line) :
    event? (line ++ [lineFeed]) = event? line := by
  rw [event?_eq, event?_eq, dropByte_concat, dropByte_of_not_mem hline]

/-! ### Which lines are texts -/

theorem isUtf8_dropByte {b : UInt8} (hb : b.toNat < 128) (bytes : List UInt8) :
    Text.IsUtf8 (dropByte b bytes) ↔ Text.IsUtf8 bytes := by
  rcases eq_dropByte_or b bytes with h | h
  · rw [← h]
  · conv_rhs => rw [h, Text.isUtf8_concat_iff hb]

/-- Without its end a line is a text just if it is one with it. -/
theorem isUtf8_trimEnd (line : List UInt8) : Text.IsUtf8 (trimEnd line) ↔ Text.IsUtf8 line := by
  by_cases h : line.getLast? = some lineFeed
  · obtain ⟨front, rfl⟩ := List.getLast?_eq_some_iff.1 h
    rw [trimEnd_concat_feed, isUtf8_dropByte carriageReturn_lt, Text.isUtf8_concat_iff lineFeed_lt]
  · rw [trimEnd_of_no_feed h]

/-! ### One line -/

/-- One line ends the reading, or is passed. -/
theorem forwardLines_cons (receiver : Bool) (line : List UInt8) (rest : List (List UInt8)) :
    forwardLines receiver (line :: rest) =
      if Text.IsUtf8 line then
        match event? line with
        | none => forwardLines receiver rest
        | some input =>
          if receiver then
            { forwardLines receiver rest with
              inputs := input :: (forwardLines receiver rest).inputs }
          else ⟨[], rest.flatten.length, false⟩
      else ⟨[], rest.flatten.length, true⟩ := by
  have hread : lineText? line = Text.ofUtf8? (trimEnd line) := rfl
  rw [← said_trimEnd, forwardLines, hread]
  -- the text is that of the line without its end, which is one just if the whole line is
  cases htext : Text.ofUtf8? (trimEnd line) with
  | none =>
    have hnone : ¬ Text.IsUtf8 line := by
      rwa [← isUtf8_trimEnd, ← Text.ofUtf8?_eq_none_iff]
    rw [if_neg hnone]
  | some text =>
    have hsome : Text.IsUtf8 line := by
      rw [← isUtf8_trimEnd, ← Text.isSome_ofUtf8?_iff, htext]
      rfl
    have hsaid : said (trimEnd line) = (ofLine text).toOption.join := by
      rw [said, htext]
      rfl
    rw [if_pos hsome, hsaid]
    dsimp only
    rcases ofLine text with e | _ | input <;> rfl

/-! ### Many lines -/

/-- A line that does not end the reading: it is a text, and somebody takes what it says, if
anything. -/
def Passes (receiver : Bool) (line : List UInt8) : Prop :=
  Text.IsUtf8 line ∧ (receiver = true ∨ event? line = none)

theorem forwardLines_cons_of_passes (h : Passes receiver line) (rest : List (List UInt8)) :
    forwardLines receiver (line :: rest) =
      { forwardLines receiver rest with
        inputs := (event? line).toList ++ (forwardLines receiver rest).inputs } := by
  obtain ⟨htext, htaken⟩ := h
  rw [forwardLines_cons, if_pos htext]
  cases hevent : event? line with
  | none => rfl
  | some input =>
    have hreceiver : receiver = true := by simpa [hevent] using htaken
    rw [hreceiver]
    rfl

/-- A line that is no text ends the reading. -/
theorem forwardLines_cons_of_not_isUtf8 (receiver : Bool) (h : ¬ Text.IsUtf8 line)
    (rest : List (List UInt8)) :
    forwardLines receiver (line :: rest) = ⟨[], rest.flatten.length, true⟩ := by
  rw [forwardLines_cons, if_neg h]

/-- An event that nobody takes ends the reading. -/
theorem forwardLines_cons_of_event? (h : Text.IsUtf8 line) {input : Input}
    (hevent : event? line = some input) (rest : List (List UInt8)) :
    forwardLines false (line :: rest) = ⟨[], rest.flatten.length, false⟩ := by
  rw [forwardLines_cons, if_pos h, hevent]
  rfl

/-- Lines that are passed are read one after another. -/
theorem forwardLines_append (h : ∀ line ∈ read, Passes receiver line)
    (rest : List (List UInt8)) :
    forwardLines receiver (read ++ rest) =
      { forwardLines receiver rest with
        inputs := read.filterMap event? ++ (forwardLines receiver rest).inputs } := by
  induction read with
  | nil => rfl
  | cons line read ih =>
    rw [List.cons_append, forwardLines_cons_of_passes (h line List.mem_cons_self),
      ih fun l hl => h l (List.mem_cons_of_mem line hl), List.filterMap_cons]
    cases event? line <;> rfl

/-- If all lines are passed, all is read. -/
theorem forwardLines_of_passes {ls : List (List UInt8)} (h : ∀ line ∈ ls, Passes receiver line) :
    forwardLines receiver ls = ⟨ls.filterMap event?, 0, false⟩ := by
  have hall := forwardLines_append h []
  rwa [List.append_nil, forwardLines, List.append_nil] at hall

/-- While events are taken, the reading fails if some line is no text, and only then. -/
theorem failed_forwardLines (ls : List (List UInt8)) :
    (forwardLines true ls).failed = true ↔ ∃ line ∈ ls, ¬ Text.IsUtf8 line := by
  induction ls with
  | nil => simp [forwardLines]
  | cons line rest ih =>
    by_cases htext : Text.IsUtf8 line
    · have hpasses : Passes true line := ⟨htext, .inl rfl⟩
      simp only [forwardLines_cons_of_passes hpasses, ih, List.exists_mem_cons_iff, htext, not_true,
        false_or]
    · simp [forwardLines_cons_of_not_isUtf8 true htext, htext]

/-! ### Streams and their lines -/

theorem isUtf8_of_mem_lines {ls : List (List UInt8)} (hcut : Cut bytes ls)
    (h : Text.IsUtf8 bytes) : ∀ line ∈ ls, Text.IsUtf8 line := by
  induction hcut with
  | nil => simp
  | last _ _ => simpa using h
  | @feed line rest ls _ _ ih =>
    obtain ⟨hline, hrest⟩ := (Text.isUtf8_append_cons_iff lineFeed_lt line rest).1 h
    intro l hl
    rcases List.mem_cons.1 hl with rfl | hl
    · exact (Text.isUtf8_concat_iff lineFeed_lt line).2 hline
    · exact ih hrest l hl

/-- A line feed at the end of a stream is no event. -/
theorem Cut.filterMap_event?_concat {ls : List (List UInt8)} (hcut : Cut bytes ls) :
    (lines (bytes ++ [lineFeed])).filterMap event? = ls.filterMap event? := by
  have hfeed : event? [lineFeed] = none := rfl
  induction hcut with
  | nil => exact List.filterMap_cons_none hfeed
  | last _ hline =>
    -- the last line gets the line feed that it has been without
    rw [lines_append_feed hline, List.filterMap_cons, List.filterMap_cons, event?_concat_feed hline]
    rfl
  | feed hline _ ih =>
    rw [List.append_assoc, List.cons_append, lines_append_feed hline, List.filterMap_cons,
      List.filterMap_cons, ih]

/-- Behind a text and a line feed another stream is read as if it stood alone. -/
theorem inputs_forward_append (h : Text.IsUtf8 bytes) (rest : List UInt8) :
    (forward true (bytes ++ lineFeed :: rest)).inputs =
      (forward true bytes).inputs ++ (forward true rest).inputs := by
  have hpasses : ∀ {s : List UInt8}, Text.IsUtf8 s → ∀ line ∈ lines s, Passes true line :=
    fun hs line hline => ⟨isUtf8_of_mem_lines (cut_lines _) hs line hline, .inl rfl⟩
  have hfeed := hpasses ((Text.isUtf8_concat_iff lineFeed_lt bytes).2 h)
  rw [forward, (cut_lines bytes).lines_append, forwardLines_append hfeed,
    (cut_lines bytes).filterMap_event?_concat, forward, forwardLines_of_passes (hpasses h)]
  rfl

/-! ### Carriage returns -/

theorem PlainerLine.event?_eq {line line' : List UInt8} (h : PlainerLine line line') :
    event? line' = event? line := by
  cases h with
  | same => rfl
  | leave line =>
    have hsplit : line ++ [carriageReturn, lineFeed] = line ++ [carriageReturn] ++ [lineFeed] := by
      rw [List.append_assoc]
      rfl
    rw [Input.event?_eq, Input.event?_eq, hsplit, dropByte_concat, dropByte_concat,
      said_concat_return]

theorem PlainerLine.isUtf8_iff {line line' : List UInt8} (h : PlainerLine line line') :
    Text.IsUtf8 line' ↔ Text.IsUtf8 line := by
  cases h with
  | same => rfl
  | leave line =>
    have hfeed : Text.IsUtf8 [lineFeed] := ⟨['\n'], rfl⟩
    rw [Text.isUtf8_concat_iff lineFeed_lt, Text.isUtf8_append_cons_iff carriageReturn_lt,
      and_iff_left hfeed]

/-- Lines with other ends say the same, and are read as far. -/
theorem forwardLines_congr {ls ls' : List (List UInt8)} (h : List.Forall₂ PlainerLine ls ls')
    (receiver : Bool) :
    (forwardLines receiver ls').inputs = (forwardLines receiver ls).inputs ∧
      (forwardLines receiver ls').failed = (forwardLines receiver ls).failed := by
  induction h with
  | nil => exact ⟨rfl, rfl⟩
  | @cons line line' rest rest' hline _ ih =>
    rw [forwardLines_cons, forwardLines_cons, hline.event?_eq]
    simp only [hline.isUtf8_iff]
    by_cases htext : Text.IsUtf8 line
    · rw [if_pos htext, if_pos htext]
      cases event? line with
      | none => exact ih
      | some input =>
        cases receiver with
        | true => exact ⟨congrArg (input :: ·) ih.1, ih.2⟩
        | false => exact ⟨rfl, rfl⟩
    · rw [if_neg htext, if_neg htext]
      exact ⟨rfl, rfl⟩

/-! ### Faithfulness -/

/-- **Nothing is lost, reordered or made up.**  The lines of a stream are what it is cut into behind
its line feeds, and together they are the stream.  As long as the events are taken, those of the
lines are forwarded, in order, up to the first line that is no text; with it the reading fails, and
what stands behind it is unread.  If there is none, all is read.  If nobody takes events, nothing is
forwarded, and the reading ends with the first line that has one, or fails with the first that is no
text, or reads all.

So a text and a stream behind it, with a line feed between them, give their events one after
another, and a carriage return in front of a line feed makes no difference. -/
theorem forward_faithful (bytes : List UInt8) :
    ((∀ ls, Cut bytes ls ↔ ls = lines bytes) ∧ (lines bytes).flatten = bytes) ∧
      ((forward true bytes).failed = true ↔ ∃ line ∈ lines bytes, ¬ Text.IsUtf8 line) ∧
      (∀ read line unread, lines bytes = read ++ line :: unread →
        (∀ l ∈ read, Text.IsUtf8 l) → ¬ Text.IsUtf8 line →
          forward true bytes = ⟨read.filterMap event?, unread.flatten.length, true⟩) ∧
      ((∀ line ∈ lines bytes, Text.IsUtf8 line) →
        forward true bytes = ⟨(lines bytes).filterMap event?, 0, false⟩) ∧
      (∀ read line unread, lines bytes = read ++ line :: unread →
        (∀ l ∈ read, Text.IsUtf8 l ∧ event? l = none) →
          (¬ Text.IsUtf8 line → forward false bytes = ⟨[], unread.flatten.length, true⟩) ∧
            (Text.IsUtf8 line → event? line ≠ none →
              forward false bytes = ⟨[], unread.flatten.length, false⟩)) ∧
      ((∀ line ∈ lines bytes, Text.IsUtf8 line ∧ event? line = none) →
        forward false bytes = ⟨[], 0, false⟩) ∧
      (∀ rest, Text.IsUtf8 bytes → (forward true (bytes ++ lineFeed :: rest)).inputs =
        (forward true bytes).inputs ++ (forward true rest).inputs) ∧
      ∀ plain, Plainer bytes plain →
        ∀ receiver, (forward receiver plain).inputs = (forward receiver bytes).inputs := by
  have hnone : ∀ ls : List (List UInt8), (∀ l ∈ ls, Text.IsUtf8 l ∧ event? l = none) →
      ls.filterMap event? = [] := by
    intro ls hls
    rw [List.filterMap_eq_nil_iff]
    exact fun l hl => (hls l hl).2
  refine ⟨⟨fun ls => cut_iff, flatten_lines bytes⟩, failed_forwardLines _, ?_, ?_, ?_, ?_,
    fun rest h => inputs_forward_append h rest, ?_⟩
  · intro read line unread hlines hread hline
    have hpasses : ∀ l ∈ read, Passes true l := fun l hl => ⟨hread l hl, .inl rfl⟩
    rw [forward, hlines, forwardLines_append hpasses, forwardLines_cons_of_not_isUtf8 true hline,
      List.append_nil]
  · intro hlines
    exact forwardLines_of_passes fun l hl => ⟨hlines l hl, .inl rfl⟩
  · intro read line unread hlines hread
    have hpasses : ∀ l ∈ read, Passes false l := fun l hl => ⟨(hread l hl).1, .inr (hread l hl).2⟩
    rw [forward, hlines, forwardLines_append hpasses, hnone read hread]
    constructor
    · intro hline
      rw [forwardLines_cons_of_not_isUtf8 false hline]
      rfl
    · intro hline hevent
      obtain ⟨input, hinput⟩ := Option.ne_none_iff_exists'.1 hevent
      rw [forwardLines_cons_of_event? hline hinput]
      rfl
  · intro hlines
    rw [forward, forwardLines_of_passes fun l hl => ⟨(hlines l hl).1, .inr (hlines l hl).2⟩,
      hnone _ hlines]
  · intro plain hplain receiver
    exact (forwardLines_congr hplain.lines receiver).1

/-- A press and a release of a key, with a line between them that is no text, or without it. -/
theorem forward_faithful_small :
    let press := Text.utf8 "keydown 65\r\n".toList
    let release := Text.utf8 "keyup 65".toList
    let plain := Text.utf8 "keydown 65\n".toList
    let pressed : Input := .key ⟨.down, 65⟩
    let released : Input := .key ⟨.up, 65⟩
    forward true (press ++ [255, lineFeed] ++ release) = ⟨[pressed], release.length, true⟩ ∧
      forward true (press ++ release) = ⟨[pressed, released], 0, false⟩ ∧
      forward false (press ++ release) = ⟨[], release.length, false⟩ ∧
      forward false [carriageReturn] = ⟨[], 0, false⟩ ∧
      (forward true (release ++ lineFeed :: press)).inputs = [released, pressed] ∧
      (forward true plain).inputs = [pressed] := by
  intro press release plain pressed released
  have htext : ∀ line ∈ [press, release], Text.IsUtf8 line := by decide +kernel
  have hpressed : event? press = some pressed := by decide +kernel
  have hreleased : event? release = some released := by decide +kernel
  have hone : ∀ line ∈ [press, release],
      forward true line = ⟨[line].filterMap event?, 0, false⟩ := by
    intro line hline
    have hlines : lines line = [line] := by
      revert line
      decide +kernel
    obtain ⟨-, -, -, hread, -⟩ := forward_faithful line
    rw [hread (by simpa [hlines] using htext line hline), hlines]
  obtain ⟨-, -, hfail, -⟩ := forward_faithful (press ++ [255, lineFeed] ++ release)
  obtain ⟨-, -, -, hread, hstop, -⟩ := forward_faithful (press ++ release)
  obtain ⟨-, -, -, -, -, hsilent, -⟩ := forward_faithful [carriageReturn]
  obtain ⟨-, -, -, -, -, -, happend, -⟩ := forward_faithful release
  obtain ⟨-, -, -, -, -, -, -, hplain⟩ := forward_faithful press
  refine ⟨?_, ?_, ?_, ?_, ?_, ?_⟩
  · rw [hfail [press] [255, lineFeed] [release] (by decide +kernel) (by decide +kernel)
      (by decide +kernel)]
    simp [hpressed]
  · have hlines : lines (press ++ release) = [press, release] := by decide +kernel
    rw [hread (hlines ▸ htext), hlines]
    simp [hpressed, hreleased]
  · have hevent : event? press ≠ none := by simp [hpressed]
    rw [(hstop [] press [release] (by decide +kernel) (by decide +kernel)).2
      (htext press (by simp)) hevent]
    simp
  · exact hsilent (by decide +kernel)
  · rw [happend press (htext release (by simp)), hone release (by simp), hone press (by simp)]
    simp [hpressed, hreleased]
  · have hleft : Plainer press plain := by
      -- the ten bytes of the press are kept
      iterate 10 refine .keep _ ?_
      exact .leave .nil
    rw [hplain plain hleft, hone press (by simp)]
    simp [hpressed]

end RemoteDisplay.Input
