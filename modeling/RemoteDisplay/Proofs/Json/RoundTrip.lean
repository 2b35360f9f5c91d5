/-
**The values of this library are read as they were written.**

What is written of rectangles, commands, points, events, configurations and sessions can be read
again, and nothing is lost: words up to their last bit, texts up to their last character, names and
identifiers.  In particular the report that the viewer prints is one from which the session can be
read as it was at its end.

Main definitions:

* `RemoteDisplay.Json.ReadsBack` — the elements of a type are read back from their texts;
* `RemoteDisplay.Command.variant` — the name of a variant of commands.

Main results:

* `RemoteDisplay.SessionId.ofText?_text` — an identifier is read from its text;
* `RemoteDisplay.Json.values_read_back` — **every value is read back from its text, in both layouts,
  under the names that were written**.
-/
import RemoteDisplay.Cli.Viewing
import RemoteDisplay.Json.Values
import RemoteDisplay.Proofs.Json.Records

set_option relaxedAutoImplicit false
set_option autoImplicit false

namespace RemoteDisplay

/-! ### Identifiers -/

namespace SessionId

/-- The hyphens between groups are taken away. -/
theorem unhyphenate_groups {a b c d : List Char} (ha : a.length = 8) (hb : b.length = 4)
    (hc : c.length = 4) (hd : d.length = 4) (e : List Char) :
    unhyphenate (a ++ ['-'] ++ b ++ ['-'] ++ c ++ ['-'] ++ d ++ ['-'] ++ e) =
      a ++ b ++ c ++ d ++ e := by
  simp (disch := omega) [unhyphenate, List.drop_append, List.drop_eq_nil_of_le, ha, hb, hc, hd]

theorem unhyphenate_hyphenate {s : List Char} (h : s.length = 32) :
    unhyphenate (hyphenate s) = s := by
  have hjoin : ∀ m n, s.take m ++ (s.drop m).take n = s.take (m + n) := fun _ _ =>
    List.take_add.symm
  rw [hyphenate, unhyphenate_groups (by simp [h]) (by simp [h]) (by simp [h]) (by simp [h]),
    hjoin 8 4, hjoin 12 4, hjoin 16 4, List.take_append_drop]

theorem length_hyphenate {s : List Char} (h : s.length = 32) : (hyphenate s).length = 36 := by
  simp [hyphenate, h]

/-- An identifier is read from its digits. -/
theorem ofPlain?_digits (id : SessionId) : ofPlain? (id.digits.map Text.hexDigit) = some id := by
  have hdigits : (id.digits.map Text.hexDigit).mapM Text.hexValue? = some id.digits := by
    rw [mapM_eq_some_iff, List.forall₂_map_left_iff, List.forall₂_same]
    exact fun d _ => Text.hexValue?_hexDigit d
  rw [ofPlain?, hdigits, Option.bind_some, ofDigits?, dif_pos id.length_digits]

/-- An identifier is read from its text. -/
theorem ofText?_text (id : SessionId) : ofText? id.text = some id := by
  have hlength : (id.digits.map Text.hexDigit).length = 32 := by
    rw [List.length_map, id.length_digits]
  have htext := length_hyphenate hlength
  have hunwrap : unwrap (hyphenate (id.digits.map Text.hexDigit)) =
      hyphenate (id.digits.map Text.hexDigit) := by
    simp [unwrap, htext]
  have hplain : id.text.length ≠ 32 := by
    rw [text, String.length_ofList, htext]
    decide
  rw [ofText?, if_neg hplain, text, String.toList_ofList, hunwrap, ofHyphenated?,
    unhyphenate_hyphenate hlength, if_pos rfl, ofPlain?_digits]

end SessionId

open Json

/-! ### Commands -/

/-- The name of a variant of commands. -/
def Command.variant : Command → String
  | press _ _ => "Press"
  | release _ _ => "Release"
  | move _ _ => "Move"
  | keyDown _ => "KeyDown"
  | keyUp _ => "KeyUp"

theorem coordinates?_ofMembers (x y : Int32) :
    coordinates? (ofMembers [("x", toJson x), ("y", toJson y)]) = some (x, y) := by
  have hfields : fields? ["x", "y"] (ofMembers [("x", toJson x), ("y", toJson y)]) =
      some [toJson x, toJson y] := fields?_ofMembers rfl (by decide)
  rw [coordinates?, hfields]
  simp

theorem code?_ofMembers (code : Int32) :
    code? (ofMembers [("code", toJson code)]) = some code := by
  have hfields : fields? ["code"] (ofMembers [("code", toJson code)]) = some [toJson code] :=
    fields?_ofMembers rfl (by decide)
  rw [code?, hfields]
  simp

instance : Faithful Command where
  ofJson?_toJson c := by
    cases c with
    | press x y | release x y | move x y =>
      show (coordinates? (ofMembers [("x", toJson x), ("y", toJson y)])).bind _ = _
      rw [coordinates?_ofMembers]
      simp
    | keyDown code | keyUp code =>
      show (code? (ofMembers [("code", toJson code)])).bind _ = _
      rw [code?_ofMembers]
      rfl
  integral_toJson c := by
    cases c <;> rfl

/-! ### Names -/

instance : Faithful KeyEvent.Kind where
  ofJson?_toJson k := by
    cases k <;> rfl
  integral_toJson _ := rfl

instance : Faithful Pointer where
  ofJson?_toJson p := by
    cases p <;> rfl
  integral_toJson _ := rfl

instance : Faithful Status where
  ofJson?_toJson s := by
    cases s <;> rfl
  integral_toJson _ := rfl

instance : Faithful SessionId where
  ofJson?_toJson id := by
    show (ofJson? (toJson id.text)).bind SessionId.ofText? = some id
    rw [Faithful.ofJson?_toJson, Option.bind_some, SessionId.ofText?_text]
  integral_toJson id := Faithful.integral_toJson id.text

/-! ### Records -/

instance : Faithful Rect where
  ofJson?_toJson r := by
    have hfields : fields? ["left", "top", "right", "bottom"] (toJson r) =
        some [toJson r.left, toJson r.top, toJson r.right, toJson r.bottom] :=
      fields?_ofMembers rfl (by decide)
    show (fields? _ (toJson r)).bind _ = some r
    rw [hfields]
    simp
  integral_toJson r := integral_ofMembers (by simp)

instance : Faithful CanvasPoint where
  ofJson?_toJson p := by
    have hfields : fields? ["x", "y"] (toJson p) = some [toJson p.x, toJson p.y] :=
      fields?_ofMembers rfl (by decide)
    show (fields? _ (toJson p)).bind _ = some p
    rw [hfields]
    simp
  integral_toJson p := integral_ofMembers (by simp)

instance : Faithful KeyEvent where
  ofJson?_toJson e := by
    have hfields : fields? ["kind", "code"] (toJson e) = some [toJson e.kind, toJson e.code] :=
      fields?_ofMembers rfl (by decide)
    show (fields? _ (toJson e)).bind _ = some e
    rw [hfields]
    simp
  integral_toJson e := integral_ofMembers (by simp)

instance : Faithful Config where
  ofJson?_toJson c := by
    have hfields : fields? ["host", "port", "app_name", "canvas_id"] (toJson c) =
        some [toJson c.host, toJson c.port, toJson c.appName, toJson c.canvasId] :=
      fields?_ofMembers rfl (by decide)
    show (fields? _ (toJson c)).bind _ = some c
    rw [hfields]
    simp
  integral_toJson c := integral_ofMembers (by simp)

instance : Faithful Snapshot where
  ofJson?_toJson s := by
    have hfields : fields? ["session_id", "url", "status", "pointer", "frames_received",
          "frames_painted", "frames_dropped", "commands_sent", "commands_rejected"] (toJson s) =
        some [toJson s.sessionId, toJson s.url, toJson s.status, toJson s.pointer,
          toJson s.framesReceived, toJson s.framesPainted, toJson s.framesDropped,
          toJson s.commandsSent, toJson s.commandsRejected] :=
      fields?_ofMembers rfl (by decide)
    show (fields? _ (toJson s)).bind _ = some s
    rw [hfields]
    simp
  integral_toJson s := integral_ofMembers (by simp)

/-! ### Texts -/

namespace Json

/-- The elements of a type are read back from their texts, in both layouts. -/
def ReadsBack (α : Type) [Readable α] [Writable α] : Prop :=
  ∀ v : α, readText? α (toJson v).compactText = some v ∧
    readText? α (toJson v).prettyText = some v

theorem readsBack_of_faithful {α : Type} [Readable α] [Writable α] [Faithful α] : ReadsBack α :=
  fun v => ⟨Faithful.readText?_compactText v, Faithful.readText?_prettyText v⟩

/-- The session is read from the report of a run as it was at the end of the run. -/
theorem readText?_report {v : Cli.Viewing} (h : v.options.json = true) :
    readText? Snapshot v.report = some v.link.stage.session.snapshot := by
  rw [Cli.Viewing.report, if_pos h, readText?,
    parse?_prettyText_append (Faithful.integral_toJson _), Option.bind_some,
    Faithful.ofJson?_toJson]

/-- Every value is read back from its text, in both layouts, and a session from the report of a run.
A variant is written under its name. -/
theorem values_read_back :
    (ReadsBack Rect ∧ ReadsBack Command ∧ ReadsBack CanvasPoint ∧ ReadsBack Pointer ∧
      ReadsBack KeyEvent ∧ ReadsBack Config ∧ ReadsBack Status ∧ ReadsBack Snapshot) ∧
    (∀ c : Command, (variant? (toJson c)).map Prod.fst = some c.variant) ∧
    [KeyEvent.Kind.down, .up].map (fun k => (toJson k).compactText) = ["\"Down\"", "\"Up\""] ∧
    [Pointer.idle, .pressed].map (fun p => (toJson p).compactText) =
      ["\"Idle\"", "\"Pressed\""] ∧
    [Status.detached, .attached, .connected, .disconnected].map
        (fun s => (toJson s).compactText) =
      ["\"detached\"", "\"attached\"", "\"connected\"", "\"disconnected\""] ∧
    ∀ v : Cli.Viewing, v.options.json = true →
      readText? Snapshot v.report = some v.link.stage.session.snapshot := by
  have hvariant : ∀ c : Command, (variant? (toJson c)).map Prod.fst = some c.variant := by
    intro c
    cases c <;> rfl
  refine ⟨⟨?_, ?_, ?_, ?_, ?_, ?_, ?_, ?_⟩, hvariant, rfl, rfl, rfl, fun _ => readText?_report⟩
  all_goals exact readsBack_of_faithful

/-- A configuration with a quotation mark, the end of a line and a character beyond 16 bits in its
names is read back from its text; and a run without a network is reported and the report is read. -/
theorem values_read_back_small :
    let config : Config := ⟨"a\"b", 7, "\n", "😀"⟩
    let text := "\x7b\"host\":\"a\\\"b\",\"port\":7,\"app_name\":\"\\n\",\"canvas_id\":\"😀\"\x7d"
    (toJson config).compactText = text ∧ readText? Config text = some config ∧
    (Cli.view .missing ⟨.standard, .unscaled 2 2, true, none, true⟩ .zero []).options.json = true ∧
    readText? Snapshot
        (Cli.view .missing ⟨.standard, .unscaled 2 2, true, none, true⟩ .zero []).report =
      some (Cli.view .missing ⟨.standard, .unscaled 2 2, true, none, true⟩ .zero
        []).link.stage.session.snapshot := by
  intro config text
  have htext : (toJson config).compactText = text := by decide +kernel
  refine ⟨htext, ?_, rfl, values_read_back.2.2.2.2.2 _ rfl⟩
  rw [← htext]
  exact (values_read_back.1.2.2.2.2.2.1 config).1

end Json

end RemoteDisplay
