/-
**The stages a session can come to.**

A session begins without a canvas, and only its operations change it.  So whatever happens, the
canvas that points of the screen are looked up on is the one that is painted on, it is one of the
canvases there are, and a session that waits for its socket has one.

Main definitions:

* `RemoteDisplay.Stage.Reachable` — a fresh session, or one to which something has happened;
* `RemoteDisplay.Stage.Coherent` — what holds of all of them;
* `RemoteDisplay.Stage.small` — one of them, with a single canvas.

Main results:

* `RemoteDisplay.Stage.Coherent.step` — nothing that happens breaks it;
* `RemoteDisplay.Stage.Reachable.coherent` — it holds of every stage that can be reached;
* `RemoteDisplay.Stage.Reachable.exists_canvas` — an attached session has a canvas.
-/
import RemoteDisplay.Proofs.Session.Operations
import RemoteDisplay.Session.Stage

set_option relaxedAutoImplicit false
set_option autoImplicit false

namespace RemoteDisplay.Stage

/-- A stage that a fresh session comes to by its operations. -/
inductive Reachable : Stage → Prop
  | fresh (id : SessionId) (config : Config) (canvases : Canvases) :
      Reachable ⟨.new id config, canvases⟩
  | step {s : Stage} (h : Reachable s) (a : Action) : Reachable (s.step a).1

/-- A session uses one canvas that is there, and has one while it waits for its socket. -/
structure Coherent (s : Stage) : Prop where
  context_eq : s.session.context = s.session.canvas
  canvas_lt : ∀ ref ∈ s.session.canvas, ref < s.canvases.length
  has_canvas : s.session.status = .attached → s.session.canvas.isSome = true

/-- A stage stays coherent if its session keeps its canvas and does not become attached. -/
theorem Coherent.of_same_canvas {s s' : Stage} (h : s.Coherent)
    (hcanvas : s'.session.canvas = s.session.canvas)
    (hcontext : s'.session.context = s.session.context)
    (hlength : s'.canvases.length = s.canvases.length)
    (hstatus : s'.session.status = .attached → s.session.status = .attached) : s'.Coherent where
  context_eq := by rw [hcontext, hcanvas, h.context_eq]
  canvas_lt := by
    intro ref href
    rw [hcanvas] at href
    rw [hlength]
    exact h.canvas_lt ref href
  has_canvas := by
    intro hattached
    rw [hcanvas]
    exact h.has_canvas (hstatus hattached)

theorem Coherent.attach {s : Stage} {directory : Directory} {session : Session}
    (h : s.session.attach s.canvases directory = .ok session) :
    Coherent { s with session } := by
  rw [Session.attach_eq] at h
  split at h
  · cases h
  · cases h
  next ref htarget =>
    cases h
    refine ⟨rfl, ?_, fun _ => rfl⟩
    intro ref' href'
    cases href'
    exact (Directory.find?_of_target? htarget).2

/-- Nothing that happens makes a stage incoherent. -/
theorem Coherent.step {s : Stage} (h : s.Coherent) (a : Action) : (s.step a).1.Coherent := by
  cases a with
  | attach directory =>
    cases hattach : s.session.attach s.canvases directory with
    | ok session =>
      have hs : (s.step (.attach directory)).1 = { s with session } := by
        simp [Stage.step, hattach]
      rw [hs]
      exact Coherent.attach hattach
    | error e =>
      have hs : (s.step (.attach directory)).1 = s := by simp [Stage.step, hattach]
      rwa [hs]
  | opened => exact h.of_same_canvas rfl rfl rfl (fun hs => by cases hs)
  | closed => exact h.of_same_canvas rfl rfl rfl (fun hs => by cases hs)
  | receive m =>
    simp only [Stage.step, Session.receive_eq]
    split
    · exact h.of_same_canvas rfl rfl rfl id
    · exact h.of_same_canvas rfl rfl rfl id
  | paint d =>
    simp only [Stage.step, Session.paint_eq]
    cases s.session.context with
    | none => exact h.of_same_canvas rfl rfl rfl id
    | some ref => exact h.of_same_canvas rfl rfl (by simp [drawOn]) id
  | decodeFailed e => exact h.of_same_canvas rfl rfl rfl id
  | input i =>
    simp only [Stage.step, Session.input]
    split
    · exact h
    · exact h.of_same_canvas rfl rfl rfl id
    · split
      · exact h.of_same_canvas rfl rfl rfl id
      · exact h.of_same_canvas rfl rfl rfl id
  | commandSent => exact h.of_same_canvas rfl rfl rfl id
  | place ref g => exact h.of_same_canvas rfl rfl (by simp [Stage.step]) id

/-- Every stage that can be reached is coherent. -/
theorem Reachable.coherent {s : Stage} (h : s.Reachable) : s.Coherent := by
  induction h with
  | fresh id config canvases =>
    refine ⟨rfl, ?_, ?_⟩
    · intro ref href
      cases href
    · intro hs
      cases hs
  | step _ a ih => exact ih.step a

/-- Several operations one after another lead to a stage that can be reached. -/
theorem Reachable.run {s : Stage} (h : s.Reachable) (actions : List Action) :
    (s.run actions).1.Reachable := by
  induction actions generalizing s with
  | nil => exact h
  | cons a rest ih => exact ih (h.step a)

/-- A session that has been attached to the only canvas there is, of two pixels by two. -/
def small : Stage :=
  ((⟨.new .zero .standard, [.blank (.unscaled 2 2)]⟩ : Stage).step (.attach [("webdisplay", 0)])).1

theorem reachable_small : small.Reachable := .step (.fresh _ _ _) _

/-- An attached session has a canvas, and it is the one it paints on. -/
theorem Reachable.exists_canvas {s : Stage} (h : s.Reachable)
    (hs : s.session.status = .attached) :
    ∃ ref, s.session.canvas = some ref ∧ s.session.context = some ref ∧
      ref < s.canvases.length := by
  obtain ⟨ref, href⟩ := Option.isSome_iff_exists.1 (h.coherent.has_canvas hs)
  exact ⟨ref, href, h.coherent.context_eq.trans href, h.coherent.canvas_lt ref href⟩

end RemoteDisplay.Stage
