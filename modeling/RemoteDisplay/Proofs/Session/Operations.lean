/-
**What an operation does to a session.**

Each operation of a session is described once, by the session and the answer it leads to; nothing
else about the operations is used later on.

Main definitions:

* `RemoteDisplay.Message.frame?` — the frame that a message is, if it is one;
* `RemoteDisplay.Directory.target?` — the canvas that a name stands for, if there is one.

Main results:

* `RemoteDisplay.Session.attach_eq` — a session is attached to a canvas that can be drawn on;
* `RemoteDisplay.Session.receive_eq` — a message counts as a frame or is dropped;
* `RemoteDisplay.Session.paint_eq` — a picture is painted, or dropped without a canvas;
* `RemoteDisplay.Session.input_eq` — a session with a canvas follows its user, and sends commands
  only while its socket is open;
* `RemoteDisplay.Session.input_frame` — what the user does changes the pointer and may count as
  refused, and nothing else.
-/
import RemoteDisplay.Proofs.Input.Following
import RemoteDisplay.Session.State

set_option relaxedAutoImplicit false
set_option autoImplicit false

namespace RemoteDisplay

/-- The frame that a message is, if it is one. -/
def Message.frame? : Message → Option Frame
  | binary bytes => (Frame.decode bytes).toOption
  | text _ => none

/-- The canvas that a name stands for, and whether it can be drawn on, if there is one. -/
def Directory.target? (d : Directory) (canvases : Canvases) (name : String) :
    Option (CanvasRef × Bool) :=
  (d.find? name).bind fun ref => (canvases[ref]?).map fun canvas => (ref, canvas.isDrawable)

theorem Directory.find?_of_target? {d : Directory} {canvases : Canvases} {name : String}
    {ref : CanvasRef} {drawable : Bool} (h : d.target? canvases name = some (ref, drawable)) :
    d.find? name = some ref ∧ ref < canvases.length := by
  obtain ⟨found, hfound, htarget⟩ := Option.bind_eq_some_iff.1 h
  obtain ⟨canvas, hcanvas, heq⟩ := Option.map_eq_some_iff.1 htarget
  cases heq
  exact ⟨hfound, (List.getElem?_eq_some_iff.1 hcanvas).1⟩

namespace Session

/-- A session is attached to the canvas that its configuration names, if that can be drawn on. -/
theorem attach_eq (s : Session) (canvases : Canvases) (directory : Directory) :
    s.attach canvases directory =
      match directory.target? canvases s.config.canvasId with
      | none => .error (.canvasNotFound s.config.canvasId)
      | some (_, false) => .error (.noDrawingContext s.config.canvasId)
      | some (ref, true) =>
        .ok { s with canvas := some ref, context := some ref, status := .attached } := by
  unfold attach Directory.target?
  dsimp only
  cases directory.find? s.config.canvasId with
  | none => rfl
  | some ref =>
    cases hcanvas : canvases[ref]? with
    | none => simp [hcanvas]
    | some canvas => cases hdrawable : canvas.isDrawable <;> simp [hcanvas, hdrawable]

/-- A message counts as a frame or is dropped. -/
theorem receive_eq (s : Session) (m : Message) :
    s.receive m = (if m.frame?.isSome then s.countReceived else s.countDropped, m.frame?) := by
  cases m with
  | binary bytes =>
    cases h : Frame.decode bytes with
    | ok f => simp [receive, Message.frame?, h, Except.toOption]
    | error e => simp [receive, Message.frame?, h, Except.toOption]
  | text t => rfl

/-- A picture is painted on the canvas that the session has, or dropped without one. -/
theorem paint_eq (s : Session) :
    s.paint = (if s.context.isSome then s.countPainted else s.countDropped, s.context) := by
  unfold paint
  cases s.context <;> rfl

/-- A session with a canvas follows its user, and sends commands only while its socket is open. -/
theorem input_eq {s : Session} {canvases : Canvases} {g : Geometry}
    (h : s.geometry? canvases = some g) (i : Input) :
    s.input canvases i =
      match s.pointer.take g i with
      | (pointer, none) => ({ s with pointer }, .ok none)
      | (pointer, some command) =>
        if s.isConnected then ({ s with pointer }, .ok (some command))
        else (countRejected { s with pointer }, .error (.notConnected command)) := by
  have hreport : s.report (some g) i = .ok (s.pointer.take g i) := by
    cases i <;> rfl
  rw [input, h, hreport]
  cases s.pointer.take g i with
  | mk pointer command => cases command <;> rfl

/-- What the user does changes the pointer and may count as refused, and nothing else. -/
theorem input_frame (s : Session) (canvases : Canvases) (i : Input) :
    ∃ pointer rejected, (s.input canvases i).1 =
      { s with pointer, counters := { s.counters with commandsRejected := rejected } } := by
  unfold input
  split
  · exact ⟨s.pointer, s.counters.commandsRejected, rfl⟩
  next pointer _ => exact ⟨pointer, s.counters.commandsRejected, rfl⟩
  next pointer _ _ =>
    split
    · exact ⟨pointer, s.counters.commandsRejected, rfl⟩
    · exact ⟨pointer, s.counters.commandsRejected + 1, rfl⟩

end Session

end RemoteDisplay
