/-
**A session and the canvas it is attached to.**

A session may be tried to be attached any number of times, to canvases of all kinds.  What counts is
the last time this succeeded: the canvas found then is the one that is painted on and the one that
points of the screen are looked up on.  A failed attempt changes nothing.

Main definitions:

* `RemoteDisplay.Stage.attachments` — the canvases that a session has been attached to, in order.

Main results:

* `RemoteDisplay.Stage.canvas_step`, `RemoteDisplay.Stage.canvas_run` — a session has the canvas
  that it was attached to last;
* `RemoteDisplay.Stage.input_pointer` — what a session with a canvas says to a pointer event;
* `RemoteDisplay.Stage.canvas_with_context` — **canvas and context belong together**.
-/
import RemoteDisplay.Proofs.Stage.History
import RemoteDisplay.Proofs.Stage.Reachable

set_option relaxedAutoImplicit false
set_option autoImplicit false

namespace RemoteDisplay.Stage

/-! ### Attempts to attach a session -/

/-- An attempt that fails changes nothing. -/
theorem step_attach_of_error {s : Stage} {directory : Directory} {e : AttachError}
    (h : (s.step (.attach directory)).2 = .attached (.error e)) :
    (s.step (.attach directory)).1 = s := by
  rw [step_attach] at h ⊢
  split at h
  · rfl
  · rfl
  · cases h

/-- The canvas that the session has been attached to, if that is what has happened: the one that the
directory has for the name. -/
def attachedTo? (name : String) : Action × Reply → Option CanvasRef
  | (.attach directory, .attached (.ok ())) => directory.find? name
  | _ => none

/-- The canvases that the session has been attached to, in order. -/
def attachments (s : Stage) (actions : List Action) : List CanvasRef :=
  (s.history actions).filterMap (attachedTo? s.session.config.canvasId)

/-- A session keeps its configuration. -/
theorem config_step (s : Stage) (a : Action) : (s.step a).1.session.config = s.session.config := by
  cases a with
  | attach directory =>
    rw [step_attach]
    split <;> rfl
  | opened | closed | decodeFailed _ | commandSent | place _ _ => rfl
  | receive m =>
    rw [step_receive]
    dsimp only
    split <;> rfl
  | paint d =>
    rw [step_paint]
    split <;> rfl
  | input i =>
    obtain ⟨pointer, rejected, h⟩ := s.session.input_frame s.canvases i
    simp only [step, h]

theorem attachments_cons (s : Stage) (a : Action) (rest : List Action) :
    s.attachments (a :: rest) =
      (attachedTo? s.session.config.canvasId (a, (s.step a).2)).toList ++
        (s.step a).1.attachments rest := by
  rw [attachments, history_cons, List.filterMap_cons, attachments, config_step]
  cases attachedTo? s.session.config.canvasId (a, (s.step a).2) <;> rfl

/-- An attempt has succeeded just if the session has been attached to a canvas by it. -/
theorem attachedTo?_eq_none_iff (s : Stage) (a : Action) :
    attachedTo? s.session.config.canvasId (a, (s.step a).2) = none ↔
      (s.step a).2 ≠ .attached (.ok ()) := by
  cases a with
  | attach directory =>
    rw [step_attach]
    split
    · simp [attachedTo?]
    · simp [attachedTo?]
    next ref htarget => simp [attachedTo?, (Directory.find?_of_target? htarget).1]
  | opened | closed | decodeFailed _ | commandSent | place _ _ | receive _ | input _ =>
    simp [attachedTo?, step]
  | paint d =>
    rw [step_paint]
    split <;> simp [attachedTo?]

/-- A session has been attached to a canvas just if an attempt has succeeded. -/
theorem attachments_eq_nil_iff (s : Stage) (actions : List Action) :
    s.attachments actions = [] ↔ .attached (.ok ()) ∉ (s.run actions).2 := by
  induction actions generalizing s with
  | nil => simp [attachments, run]
  | cons a rest ih =>
    have hrun : (s.run (a :: rest)).2 = (s.step a).2 :: ((s.step a).1.run rest).2 := rfl
    rw [attachments_cons, List.append_eq_nil_iff, Option.toList_eq_nil_iff,
      attachedTo?_eq_none_iff, ih, hrun, List.mem_cons, not_or, ne_comm]

/-! ### The canvas of a session -/

/-- Being attached to a canvas is what gives a session its canvas and its drawing context. -/
theorem canvas_step (s : Stage) (a : Action) :
    let found := attachedTo? s.session.config.canvasId (a, (s.step a).2)
    (s.step a).1.session.canvas = found.or s.session.canvas ∧
      (s.step a).1.session.context = found.or s.session.context := by
  intro found
  cases a with
  | attach directory =>
    simp only [found, step_attach]
    split
    · exact ⟨rfl, rfl⟩
    · exact ⟨rfl, rfl⟩
    next ref htarget => simp [attachedTo?, (Directory.find?_of_target? htarget).1]
  | opened | closed | decodeFailed _ | commandSent | place _ _ => exact ⟨rfl, rfl⟩
  | receive m =>
    simp only [found, step_receive]
    split <;> exact ⟨rfl, rfl⟩
  | paint d =>
    simp only [found, step_paint]
    split <;> exact ⟨rfl, rfl⟩
  | input i =>
    obtain ⟨pointer, rejected, h⟩ := s.session.input_frame s.canvases i
    simp only [found, step, h]
    exact ⟨rfl, rfl⟩

/-- A session has the canvas that it was attached to last. -/
theorem canvas_run (s : Stage) (actions : List Action) :
    let last := (s.attachments actions).getLast?
    (s.run actions).1.session.canvas = last.or s.session.canvas ∧
      (s.run actions).1.session.context = last.or s.session.context := by
  induction actions generalizing s with
  | nil => exact ⟨rfl, rfl⟩
  | cons a rest ih =>
    obtain ⟨hcanvas, hcontext⟩ := canvas_step s a
    obtain ⟨hcanvas', hcontext'⟩ := ih (s.step a).1
    have hrun : (s.run (a :: rest)).1 = ((s.step a).1.run rest).1 := rfl
    have hlast : ∀ found : Option CanvasRef, found.toList.getLast? = found := by
      intro found
      cases found <;> rfl
    simp only [hrun, attachments_cons, List.getLast?_append, hlast, Option.or_assoc]
    exact ⟨hcanvas'.trans (by rw [hcanvas]), hcontext'.trans (by rw [hcontext])⟩

/-! ### Points of the screen -/

/-- A session without a canvas knows nothing of the points of the screen. -/
theorem input_pointer_of_none {s : Stage} (h : s.session.canvas = none) (e : PointerEvent) :
    s.step (.input (.pointer e)) = (s, .command (.error .notAttached)) := by
  have hgeometry : s.session.geometry? s.canvases = none := by
    simp [Session.geometry?, h]
  simp [step, Session.input, hgeometry, Session.report]

/-- A session with a canvas looks points of the screen up on it, as it is shown at the moment. -/
theorem input_pointer {s : Stage} {ref : CanvasRef} {canvas : Canvas}
    (href : s.session.canvas = some ref) (hcanvas : s.canvases[ref]? = some canvas)
    (e : PointerEvent) :
    (s.step (.input (.pointer e))).1.session.pointer = s.session.pointer.after e ∧
      (s.step (.input (.pointer e))).2 = .command
        (if s.session.pointer.reports e then
          if s.session.isConnected then .ok (some (e.command canvas.geometry))
          else .error (.notConnected (e.command canvas.geometry))
        else .ok none) := by
  have hgeometry : s.session.geometry? s.canvases = some canvas.geometry := by
    simp [Session.geometry?, href, hcanvas]
  simp only [step, Session.input_eq hgeometry, Pointer.take, Pointer.handle]
  cases s.session.pointer.reports e with
  | false => exact ⟨rfl, rfl⟩
  | true => cases hconnected : s.session.isConnected <;> exact ⟨rfl, rfl⟩

/-! ### Canvas and context -/

/-- **Canvas and context belong together.**  Whatever has happened to a session, it has a canvas
just if it has a drawing context, and just if an attempt to attach it has succeeded; both are those
of the canvas that was found by the last such attempt.  Pictures are painted on that canvas and on
no other, or dropped without one; points of the screen are looked up on that canvas, as it is shown
at the moment, or refused without one.  An attempt that fails changes nothing. -/
theorem canvas_with_context (id : SessionId) (config : Config) (canvases : Canvases)
    (actions : List Action) :
    let start : Stage := ⟨.new id config, canvases⟩
    let s := (start.run actions).1
    let last := (start.attachments actions).getLast?
    s.session.canvas = last ∧ s.session.context = last ∧
      (last.isSome ↔ .attached (.ok ()) ∈ (start.run actions).2) ∧
      (∀ d, s.step (.paint d) =
        match last with
        | some ref => (⟨s.session.countPainted, s.canvases.modify ref fun c => c.draw d⟩,
            .painted (some ref))
        | none => (⟨s.session.countDropped, s.canvases⟩, .painted none)) ∧
      (last = none → ∀ e, s.step (.input (.pointer e)) = (s, .command (.error .notAttached))) ∧
      (∀ ref, last = some ref → ∃ canvas, s.canvases[ref]? = some canvas ∧
        ∀ e, (s.step (.input (.pointer e))).1.session.pointer = s.session.pointer.after e ∧
          (s.step (.input (.pointer e))).2 = .command
            (if s.session.pointer.reports e then
              if s.session.isConnected then .ok (some (e.command canvas.geometry))
              else .error (.notConnected (e.command canvas.geometry))
            else .ok none)) ∧
      ∀ directory e, (s.step (.attach directory)).2 = .attached (.error e) →
        (s.step (.attach directory)).1 = s := by
  intro start s last
  have hcanvas : s.session.canvas = last := (canvas_run start actions).1.trans Option.or_none
  have hcontext : s.session.context = last := (canvas_run start actions).2.trans Option.or_none
  have hreachable : s.Reachable := (Reachable.fresh id config canvases).run actions
  refine ⟨hcanvas, hcontext, ?_, ?_, ?_, ?_, ?_⟩
  · rw [Option.isSome_iff_ne_none, ne_eq, List.getLast?_eq_none_iff, attachments_eq_nil_iff,
      Classical.not_not]
  · intro d
    cases hlast : last with
    | none => rw [step_paint, hcontext.trans hlast]
    | some ref => rw [step_paint, hcontext.trans hlast]
  · intro hnone e
    exact input_pointer_of_none (hcanvas.trans hnone) e
  · intro ref href
    have hlt : ref < s.canvases.length := hreachable.coherent.canvas_lt ref (hcanvas.trans href)
    have hget : s.canvases[ref]? = some s.canvases[ref] := List.getElem?_eq_getElem hlt
    exact ⟨s.canvases[ref], hget, fun e => input_pointer (hcanvas.trans href) hget e⟩
  · intro directory e
    exact step_attach_of_error

/-- A session that finds no canvas, then one that cannot be drawn on, refuses the pointer; then it
finds a canvas, keeps it when another attempt fails, and presses the pointer on it.  The canvas is
shown at half its size then, and the point that is reported is twice as far to the right. -/
theorem canvas_with_context_small :
    let start : Stage :=
      ⟨.new .zero .standard, [.recorder (.unscaled 9 9) false [], .blank (.unscaled 2 2)]⟩
    let before : List Action := [.attach [], .attach [("webdisplay", 0)]]
    let after := before ++ [.attach [("webdisplay", 1)], .opened, .attach [("webdisplay", 0)]]
    let s := (start.run after).1
    let halved := after ++ [.place 1 ⟨2, 2, ⟨0, 0, 1, 1⟩⟩]
    let t := (start.run halved).1
    let down : PointerEvent := ⟨.down, ⟨1, 0⟩⟩
    (start.attachments before).getLast? = none ∧
      (start.run before).1.step (.input (.pointer down)) =
        ((start.run before).1, .command (.error .notAttached)) ∧
      (start.attachments after).getLast? = some 1 ∧ s.session.canvas = some 1 ∧
      s.session.context = some 1 ∧ (s.step (.input (.pointer down))).1.session.pointer = .pressed ∧
      (s.step (.input (.pointer down))).2 = .command (.ok (some (.press 1 0))) ∧
      (t.step (.input (.pointer down))).2 = .command (.ok (some (.press 2 0))) ∧
      (s.step (.attach [])).2 = .attached (.error (.canvasNotFound "webdisplay")) ∧
      (s.step (.attach [])).1 = s := by
  intro start before after s halved t down
  have hbefore : (start.attachments before).getLast? = none := rfl
  have hafter : (start.attachments after).getLast? = some 1 := rfl
  have hfailed : (s.step (.attach [])).2 = .attached (.error (.canvasNotFound "webdisplay")) := rfl
  obtain ⟨-, -, -, -, hrefused, -, -⟩ := canvas_with_context .zero .standard start.canvases before
  obtain ⟨hcanvas, hcontext, -, -, -, hpointer, hattach⟩ :=
    canvas_with_context .zero .standard start.canvases after
  obtain ⟨canvas, hget, hdown⟩ := hpointer 1 hafter
  -- the geometry that a point is looked up in is that of the canvas at this moment
  obtain rfl : Canvas.blank (.unscaled 2 2) = canvas := Option.some.inj hget
  obtain ⟨-, -, -, -, -, hpointer', -⟩ := canvas_with_context .zero .standard start.canvases halved
  obtain ⟨canvas, hget', hdown'⟩ := hpointer' 1 rfl
  obtain rfl : Canvas.blank ⟨2, 2, ⟨0, 0, 1, 1⟩⟩ = canvas := Option.some.inj hget'
  have hpress : down.command (.unscaled 2 2) = .press 1 0 := by decide +kernel
  have hpress' : down.command ⟨2, 2, ⟨0, 0, 1, 1⟩⟩ = .press 2 0 := by decide +kernel
  have hreported := (hdown down).2
  have hreported' := (hdown' down).2
  rw [Canvas.geometry, hpress] at hreported
  rw [Canvas.geometry, hpress'] at hreported'
  exact ⟨hbefore, hrefused hbefore down, hafter, hcanvas.trans hafter, hcontext.trans hafter,
    (hdown down).1, hreported, hreported', hfailed, hattach [] _ hfailed⟩

end RemoteDisplay.Stage
