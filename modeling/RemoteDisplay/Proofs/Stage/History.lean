/-
**What has happened on a stage.**

The history of a run holds what has happened, each with the answer to it.  It tells what has been
drawn on each canvas; and that, with what the canvas showed before, is all that it shows afterwards,
wherever it is shown.

Main definitions:

* `RemoteDisplay.Canvas.Surface`, `RemoteDisplay.Canvas.surface` — what of a canvas does not depend
  on where it is shown;
* `RemoteDisplay.Stage.history` — what has happened, with the answers;
* `RemoteDisplay.Stage.draws` — what has been drawn on one canvas, in order.

Main results:

* `RemoteDisplay.Stage.step_attach`, `RemoteDisplay.Stage.step_receive`,
  `RemoteDisplay.Stage.step_paint` — what attempts to attach the session, messages and pictures do;
* `RemoteDisplay.Stage.surface_step`, `RemoteDisplay.Stage.surface_run` — a canvas shows what has
  been drawn on it.
-/
import RemoteDisplay.Proofs.Session.Operations
import RemoteDisplay.Session.Stage

set_option relaxedAutoImplicit false
set_option autoImplicit false

namespace RemoteDisplay

/-! ### Surfaces -/

/-- What of a canvas does not depend on where it is shown. -/
structure Canvas.Surface where
  /-- Its pixels, if it keeps them. -/
  image : Option Image
  drawable : Bool
  /-- What it has recorded. -/
  records : List DrawRecord
deriving DecidableEq

namespace Canvas

/-- What of a canvas does not depend on where it is shown. -/
def surface (c : Canvas) : Surface := ⟨c.image?, c.isDrawable, c.records⟩

/-- A surface after a draw: it is painted if it keeps pixels, and records the draw if not. -/
def Surface.draw (u : Surface) (d : Draw) : Surface where
  image := u.image.map fun im => im.draw d.image d.dest
  drawable := u.drawable
  records := if u.image.isSome then u.records else u.records ++ [d.record]

/-- A draw changes the surface of a canvas, however the canvas is shown. -/
@[simp] theorem surface_draw (c : Canvas) (d : Draw) : (c.draw d).surface = c.surface.draw d := by
  cases c <;> rfl

/-- Showing a canvas elsewhere leaves its surface alone. -/
@[simp] theorem surface_place (c : Canvas) (g : Geometry) : (c.place g).surface = c.surface := by
  cases c <;> rfl

end Canvas

namespace Stage

/-! ### Steps -/

/-- A session is attached to the canvas that its configuration names, if there is one and it can be
drawn on; otherwise nothing changes. -/
theorem step_attach (s : Stage) (directory : Directory) :
    s.step (.attach directory) =
      match directory.target? s.canvases s.session.config.canvasId with
      | none => (s, .attached (.error (.canvasNotFound s.session.config.canvasId)))
      | some (_, false) => (s, .attached (.error (.noDrawingContext s.session.config.canvasId)))
      | some (ref, true) =>
        ({ s with session :=
            { s.session with canvas := some ref, context := some ref, status := .attached } },
          .attached (.ok ())) := by
  simp only [step, Session.attach_eq]
  cases directory.target? s.canvases s.session.config.canvasId with
  | none => rfl
  | some target =>
    obtain ⟨ref, drawable⟩ := target
    cases drawable <;> rfl

/-- A message counts as a frame, which is to be decoded, or is dropped. -/
theorem step_receive (s : Stage) (m : Message) :
    s.step (.receive m) =
      (⟨if m.frame?.isSome then s.session.countReceived else s.session.countDropped, s.canvases⟩,
        .frame m.frame?) := by
  simp only [step, Session.receive_eq]

/-- A picture is painted on the canvas that the session has, or dropped without one. -/
theorem step_paint (s : Stage) (d : Draw) :
    s.step (.paint d) =
      match s.session.context with
      | some ref =>
        (⟨s.session.countPainted, s.canvases.modify ref fun c => c.draw d⟩, .painted (some ref))
      | none => (⟨s.session.countDropped, s.canvases⟩, .painted none) := by
  simp only [step, Session.paint_eq]
  cases s.session.context <;> rfl

/-! ### Histories -/

/-- What happens on a stage, each with the answer to it. -/
def history (s : Stage) (actions : List Action) : List (Action × Reply) :=
  actions.zip (s.run actions).2

@[simp] theorem history_nil (s : Stage) : s.history [] = [] := rfl

@[simp] theorem history_cons (s : Stage) (a : Action) (rest : List Action) :
    s.history (a :: rest) = (a, (s.step a).2) :: (s.step a).1.history rest := rfl

/-! ### Draws -/

/-- The draw on a canvas, if that is what has happened. -/
def drawOn? (ref : CanvasRef) : Action × Reply → Option Draw
  | (.paint d, .painted (some painted)) => if painted = ref then some d else none
  | _ => none

/-- What is drawn on a canvas, in order. -/
def draws (s : Stage) (ref : CanvasRef) (actions : List Action) : List Draw :=
  (s.history actions).filterMap (drawOn? ref)

theorem draws_cons (s : Stage) (ref : CanvasRef) (a : Action) (rest : List Action) :
    s.draws ref (a :: rest) =
      (drawOn? ref (a, (s.step a).2)).toList ++ (s.step a).1.draws ref rest := by
  rw [draws, history_cons, List.filterMap_cons]
  cases drawOn? ref (a, (s.step a).2) <;> rfl

/-- A canvas shows what it showed before, and what is drawn on it. -/
theorem surface_step (s : Stage) (a : Action) (ref : CanvasRef) :
    ((s.step a).1.canvases[ref]?).map Canvas.surface =
      (s.canvases[ref]?).map fun c =>
        (drawOn? ref (a, (s.step a).2)).toList.foldl Canvas.Surface.draw c.surface := by
  cases a with
  | attach directory =>
    rw [step_attach]
    split <;> rfl
  | opened | closed | receive _ | decodeFailed _ | input _ | commandSent => rfl
  | paint d =>
    rw [step_paint]
    split
    next painted _ =>
      simp only [drawOn?, List.getElem?_modify, Option.map_eq_map, Option.map_map]
      by_cases href : painted = ref
      · simp [href, Function.comp_def]
      · simp [href, Function.comp_def]
    · rfl
  | place placed g =>
    simp only [step, drawOn?, List.getElem?_modify, Option.map_eq_map, Option.map_map]
    by_cases href : placed = ref
    · simp [href, Function.comp_def]
    · simp [href, Function.comp_def]

/-- A canvas shows what it showed at first, and what has been drawn on it since. -/
theorem surface_run (s : Stage) (actions : List Action) (ref : CanvasRef) :
    ((s.run actions).1.canvases[ref]?).map Canvas.surface =
      (s.canvases[ref]?).map fun c =>
        (s.draws ref actions).foldl Canvas.Surface.draw c.surface := by
  induction actions generalizing s with
  | nil => rfl
  | cons a rest ih =>
    calc ((s.run (a :: rest)).1.canvases[ref]?).map Canvas.surface
        = (((s.step a).1.canvases[ref]?).map Canvas.surface).map fun u =>
            ((s.step a).1.draws ref rest).foldl Canvas.Surface.draw u := by
          rw [Option.map_map]
          exact ih (s.step a).1
      _ = (s.canvases[ref]?).map fun c =>
            (s.draws ref (a :: rest)).foldl Canvas.Surface.draw c.surface := by
          rw [surface_step, Option.map_map, draws_cons]
          simp only [List.foldl_append, Function.comp_def]

end Stage

end RemoteDisplay
