/-
**The counters tell what has happened.**

Whatever happens to a session makes at most one mark, and each mark adds one to one of the five
counters.  So the counters of a session are read off the marks of its run.  A picture that was
painted has also been recorded, if the canvas records what is drawn on it, and nothing else has; so
the pictures that were painted can be counted on the canvases, too.

Main definitions:

* `RemoteDisplay.Mark`, `RemoteDisplay.Counters.add` — what is counted, and where;
* `RemoteDisplay.Stage.mark?`, `RemoteDisplay.Stage.marks` — the mark that something makes, and
  those of a run;
* `RemoteDisplay.Canvases.recorded` — what one of the canvases has recorded.

Main results:

* `RemoteDisplay.Stage.counters_step`, `RemoteDisplay.Stage.counters_run` — the marks are all that
  is counted, by one thing that happens and by many;
* `RemoteDisplay.Stage.recorded_run` — a canvas records what is drawn on it;
* `RemoteDisplay.Stage.sum_draws` — each picture that was painted was drawn on one canvas;
* `RemoteDisplay.Stage.counters_tell_history` — **the counters tell what has happened**.
-/
import Mathlib.Algebra.BigOperators.Group.Finset.Piecewise
import RemoteDisplay.Proofs.Stage.Attaching
import RemoteDisplay.Proofs.Stage.Gating

set_option relaxedAutoImplicit false
set_option autoImplicit false

namespace RemoteDisplay

/-- What one of the canvases has recorded. -/
def Canvases.recorded (canvases : Canvases) (ref : CanvasRef) : List DrawRecord :=
  ((canvases[ref]?).map Canvas.records).getD []

/-! ### Marks -/

/-- Something that is counted. -/
inductive Mark where
  /-- A binary message was a frame. -/
  | frame
  /-- A binary message was none. -/
  | noFrame
  /-- A message was a text. -/
  | text
  /-- A picture was drawn on the canvas of the session. -/
  | drawn
  /-- A picture was dropped for want of a drawing context. -/
  | undrawn
  /-- A frame had no picture. -/
  | undecoded
  /-- A command was written to the socket. -/
  | sent
  /-- A command was refused since the session was not connected. -/
  | refused
deriving DecidableEq

/-- Each mark adds one to one counter. -/
def Counters.add (c : Counters) : Mark → Counters
  | .frame => { c with framesReceived := c.framesReceived + 1 }
  | .drawn => { c with framesPainted := c.framesPainted + 1 }
  | .noFrame | .text | .undrawn | .undecoded => { c with framesDropped := c.framesDropped + 1 }
  | .sent => { c with commandsSent := c.commandsSent + 1 }
  | .refused => { c with commandsRejected := c.commandsRejected + 1 }

/-- The counters after some marks. -/
theorem foldl_add (c : Counters) (marks : List Mark) :
    marks.foldl Counters.add c =
      { framesReceived := c.framesReceived + marks.count .frame
        framesPainted := c.framesPainted + marks.count .drawn
        framesDropped := c.framesDropped + (marks.count .text + marks.count .noFrame +
          marks.count .undrawn + marks.count .undecoded)
        commandsSent := c.commandsSent + marks.count .sent
        commandsRejected := c.commandsRejected + marks.count .refused } := by
  induction marks generalizing c with
  | nil => rfl
  | cons m rest ih =>
    rw [List.foldl_cons, ih]
    cases m <;> simp [Counters.add] <;> omega

/-- There are no other marks. -/
theorem sum_count (marks : List Mark) :
    marks.count .frame + marks.count .drawn + (marks.count .text + marks.count .noFrame +
      marks.count .undrawn + marks.count .undecoded) + marks.count .sent + marks.count .refused =
      marks.length := by
  induction marks with
  | nil => rfl
  | cons m rest ih =>
    rw [List.length_cons]
    cases m <;> simp <;> omega

namespace Stage

/-- The mark that something makes when it happens on a stage, if it makes one. -/
def mark? (s : Stage) : Action → Option Mark
  | .receive (.binary bytes) => if (Frame.decode bytes).isOk then some .frame else some .noFrame
  | .receive (.text _) => some .text
  | .paint _ => if s.session.context.isSome then some .drawn else some .undrawn
  | .decodeFailed _ => some .undecoded
  | .commandSent => some .sent
  | .input i =>
    match (s.step (.input i)).2 with
    | .command (.error (.notConnected _)) => some .refused
    | _ => none
  | .attach _ | .opened | .closed | .place _ _ => none

/-- The marks of a run, in order. -/
def marks (s : Stage) (actions : List Action) : List Mark :=
  (s.moments actions).filterMap fun m => m.1.mark? m.2

theorem marks_cons (s : Stage) (a : Action) (rest : List Action) :
    s.marks (a :: rest) = (s.mark? a).toList ++ (s.step a).1.marks rest := by
  rw [marks, moments, List.filterMap_cons]
  cases s.mark? a <;> rfl

/-- A run makes no more marks than things happen. -/
theorem length_marks_le (s : Stage) (actions : List Action) :
    (s.marks actions).length ≤ actions.length := by
  induction actions generalizing s with
  | nil => exact Nat.le_refl 0
  | cons a rest ih =>
    have hone : (s.mark? a).toList.length ≤ 1 := Option.length_toList_le
    have hrest := ih (s.step a).1
    rw [marks_cons, List.length_append, List.length_cons]
    omega

/-! ### Counters -/

/-- The mark that something makes is all that is counted. -/
theorem counters_step (s : Stage) (a : Action) :
    (s.step a).1.session.counters = (s.mark? a).toList.foldl Counters.add s.session.counters := by
  cases a with
  | attach directory =>
    rw [step_attach]
    split <;> rfl
  | opened | closed | decodeFailed _ | commandSent | place _ _ => rfl
  | receive m =>
    rw [step_receive]
    cases m with
    | text t => rfl
    | binary bytes =>
      cases hdecode : Frame.decode bytes <;>
        simp [mark?, hdecode, Message.frame?, Except.isOk, Except.toBool, Except.toOption,
          Session.countReceived, Session.countDropped, Counters.add]
  | paint d =>
    rw [step_paint]
    cases hcontext : s.session.context <;>
      simp [mark?, hcontext, Session.countPainted, Session.countDropped, Counters.add]
  | input i =>
    have hgives := s.gives_outcome i
    cases houtcome : s.outcome i with
    | refused | silent =>
      rw [houtcome] at hgives
      simp [mark?, show s.step (.input i) = _ from hgives]
    | command c =>
      rw [houtcome] at hgives
      obtain ⟨pointer, hstep⟩ := hgives
      rw [mark?, hstep]
      split <;> rfl

/-- Nothing that happens is counted more than once. -/
theorem counters_step_cases (s : Stage) (a : Action) :
    (s.step a).1.session.counters = s.session.counters ∨
      ∃ m, (s.step a).1.session.counters = s.session.counters.add m := by
  rw [counters_step]
  cases s.mark? a with
  | none => exact .inl rfl
  | some m => exact .inr ⟨m, rfl⟩

/-- An event from the user is counted only if a command is refused. -/
theorem counters_step_input {s : Stage} {i : Input}
    (h : (s.step (.input i)).2 = .command (.ok none) ∨
      (s.step (.input i)).2 = .command (.error .notAttached)) :
    (s.step (.input i)).1.session.counters = s.session.counters := by
  have hmark : s.mark? (.input i) = none := by
    rcases h with h | h <;> simp only [mark?, h]
  rw [counters_step, hmark]
  rfl

/-- The marks of a run are all that is counted. -/
theorem counters_run (s : Stage) (actions : List Action) :
    (s.run actions).1.session.counters =
      (s.marks actions).foldl Counters.add s.session.counters := by
  induction actions generalizing s with
  | nil => rfl
  | cons a rest ih =>
    have hrun : (s.run (a :: rest)).1 = ((s.step a).1.run rest).1 := rfl
    rw [hrun, ih, counters_step, marks_cons, List.foldl_append]

/-! ### Draws -/

/-- What happens is drawn on at most one of some canvases, and on one of them if it makes the mark
of a draw and the canvas of the session is among them. -/
theorem sum_drawOn? (s : Stage) (a : Action) {refs : Finset CanvasRef}
    (h : ∀ ref ∈ s.session.context, ref ∈ refs) :
    (∑ ref ∈ refs, (drawOn? ref (a, (s.step a).2)).toList.length) =
      (s.mark? a).toList.count .drawn := by
  cases a with
  | paint d =>
    cases hcontext : s.session.context with
    | none => simp [step_paint, mark?, hcontext, drawOn?]
    | some painted =>
      have hmem : painted ∈ refs := h painted hcontext
      have hlength : ∀ ref, (if painted = ref then some d else none).toList.length =
          if painted = ref then 1 else 0 := by
        intro ref
        split <;> rfl
      simp only [step_paint, mark?, hcontext, drawOn?, hlength]
      exact (Finset.sum_ite_eq refs painted fun _ => 1).trans (if_pos hmem)
  | receive m =>
    cases m with
    | text t => simp [drawOn?, mark?]
    | binary bytes =>
      simp only [drawOn?, mark?]
      split <;> simp
  | input i =>
    simp only [drawOn?, mark?]
    split <;> simp
  | attach _ | opened | closed | decodeFailed _ | commandSent | place _ _ => simp [drawOn?, mark?]

/-- Each picture that was painted was drawn on one of the canvases that the session has had. -/
theorem sum_draws (s : Stage) (actions : List Action) {refs : Finset CanvasRef}
    (hcontext : ∀ ref ∈ s.session.context, ref ∈ refs)
    (hattached : ∀ ref ∈ s.attachments actions, ref ∈ refs) :
    (∑ ref ∈ refs, (s.draws ref actions).length) = (s.marks actions).count .drawn := by
  induction actions generalizing s with
  | nil => simp [draws, marks, moments]
  | cons a rest ih =>
    have hnext : ∀ ref ∈ (s.step a).1.session.context, ref ∈ refs := by
      intro ref href
      rw [(canvas_step s a).2] at href
      rcases Option.or_eq_some_iff.1 href with hfound | ⟨-, hold⟩
      · refine hattached ref ?_
        rw [attachments_cons, hfound]
        exact List.mem_append_left _ (List.mem_singleton_self ref)
      · exact hcontext ref hold
    have hlater : ∀ ref ∈ (s.step a).1.attachments rest, ref ∈ refs := by
      intro ref href
      refine hattached ref ?_
      rw [attachments_cons]
      exact List.mem_append_right _ href
    simp only [draws_cons, List.length_append, Finset.sum_add_distrib, marks_cons,
      List.count_append, sum_drawOn? s a hcontext, ih (s.step a).1 hnext hlater]

/-! ### Records -/

/-- A surface without pixels records each draw. -/
theorem records_foldl_draw {u : Canvas.Surface} (h : u.image = none) (ds : List Draw) :
    (ds.foldl Canvas.Surface.draw u).records = u.records ++ ds.map Draw.record := by
  induction ds generalizing u with
  | nil => simp
  | cons d rest ih =>
    have hnext : (u.draw d).image = none := by simp [Canvas.Surface.draw, h]
    rw [List.foldl_cons, ih hnext]
    simp [Canvas.Surface.draw, h]

/-- A canvas that records has recorded, after what it had, what has been drawn on it. -/
theorem recorded_run (s : Stage) (actions : List Action) {ref : CanvasRef} {g : Geometry}
    {drawable : Bool} {records : List DrawRecord}
    (h : s.canvases[ref]? = some (.recorder g drawable records)) :
    Canvases.recorded (s.run actions).1.canvases ref =
      records ++ (s.draws ref actions).map Draw.record := by
  have hsurface := surface_run s actions ref
  rw [h, Option.map_some] at hsurface
  obtain ⟨canvas, hcanvas, hrun⟩ := Option.map_eq_some_iff.1 hsurface
  have hrecords : canvas.records = canvas.surface.records := rfl
  rw [Canvases.recorded, hcanvas, Option.map_some, Option.getD_some, hrecords, hrun]
  exact records_foldl_draw rfl _

/-- The canvases that a session has been attached to, if they record, have recorded as many draws as
it has painted pictures. -/
theorem sum_recorded {s : Stage} (hs : s.session.context = none) (actions : List Action)
    (h : ∀ ref ∈ (s.attachments actions).toFinset, ∃ g drawable records,
      s.canvases[ref]? = some (.recorder g drawable records)) :
    (∑ ref ∈ (s.attachments actions).toFinset,
        (Canvases.recorded (s.run actions).1.canvases ref).length) =
      (∑ ref ∈ (s.attachments actions).toFinset, (Canvases.recorded s.canvases ref).length) +
        (s.marks actions).count .drawn := by
  have hcontext : ∀ ref ∈ s.session.context, ref ∈ (s.attachments actions).toFinset := by
    intro ref href
    rw [hs] at href
    cases href
  rw [← sum_draws s actions hcontext fun ref => List.mem_toFinset.2, ← Finset.sum_add_distrib]
  refine Finset.sum_congr rfl ?_
  intro ref href
  obtain ⟨g, drawable, records, hcanvas⟩ := h ref href
  have hbefore : Canvases.recorded s.canvases ref = records := by
    rw [Canvases.recorded, hcanvas]
    rfl
  rw [recorded_run s actions hcanvas, hbefore, List.length_append, List.length_map]

/-! ### The counters of a session -/

/-- Counters that are not too large are reported as they are. -/
theorem toNat_snapshot {s : Session} {c : Counters} (hc : s.counters = c)
    (h : c.framesReceived + c.framesPainted + c.framesDropped + c.commandsSent +
      c.commandsRejected < 2 ^ 64) :
    s.snapshot.framesReceived.toNat = c.framesReceived ∧
      s.snapshot.framesPainted.toNat = c.framesPainted ∧
      s.snapshot.framesDropped.toNat = c.framesDropped ∧
      s.snapshot.commandsSent.toNat = c.commandsSent ∧
      s.snapshot.commandsRejected.toNat = c.commandsRejected := by
  have hword : ∀ n : Nat, n < 2 ^ 64 → n.toUInt64.toNat = n := fun n => UInt64.toNat_ofNat_of_lt'
  subst hc
  exact ⟨hword _ (by omega), hword _ (by omega), hword _ (by omega), hword _ (by omega),
    hword _ (by omega)⟩

/-- **The counters tell what has happened.**  Of a session that is told to do fewer than 2⁶⁴ things,
each counter of the report is the number of the things that it counts: binary messages that are
frames; pictures that came while there was a drawing context, which are the draws on the canvases
that the session has been attached to; texts, binary messages that are no frames, pictures that came
without a drawing context, and frames without a picture; commands written to the socket; and
commands refused for want of a connection.  If all these canvases record what is drawn on them, they
have recorded as many draws as the session counts.

Nothing that happens is counted more than once, and an attempt to attach the session, the opening
and closing of its socket, an event with nothing to report and one refused for want of a canvas are
not counted at all. -/
theorem counters_tell_history (id : SessionId) (config : Config) (canvases : Canvases)
    {actions : List Action} (hlength : actions.length < 2 ^ 64) :
    let start : Stage := ⟨.new id config, canvases⟩
    let s := (start.run actions).1
    let report := s.session.snapshot
    let marks := start.marks actions
    let attached := (start.attachments actions).toFinset
    report.framesReceived.toNat = marks.count .frame ∧
      report.framesPainted.toNat = marks.count .drawn ∧
      report.framesDropped.toNat = marks.count .text + marks.count .noFrame +
        marks.count .undrawn + marks.count .undecoded ∧
      report.commandsSent.toNat = marks.count .sent ∧
      report.commandsRejected.toNat = marks.count .refused ∧
      (∑ ref ∈ attached, (start.draws ref actions).length) = report.framesPainted.toNat ∧
      (∀ ref g drawable records, canvases[ref]? = some (.recorder g drawable records) →
        Canvases.recorded s.canvases ref =
          records ++ (start.draws ref actions).map Draw.record) ∧
      ((∀ ref ∈ attached, ∃ g drawable records,
          canvases[ref]? = some (.recorder g drawable records)) →
        (∑ ref ∈ attached, (Canvases.recorded s.canvases ref).length) =
          (∑ ref ∈ attached, (Canvases.recorded canvases ref).length) +
            report.framesPainted.toNat) ∧
      ∀ t : Stage,
        (∀ a, (t.step a).1.session.counters = t.session.counters ∨
          ∃ m, (t.step a).1.session.counters = t.session.counters.add m) ∧
        (∀ directory, (t.step (.attach directory)).1.session.counters = t.session.counters) ∧
        (t.step .opened).1.session.counters = t.session.counters ∧
        (t.step .closed).1.session.counters = t.session.counters ∧
        ∀ i, (t.step (.input i)).2 = .command (.ok none) ∨
            (t.step (.input i)).2 = .command (.error .notAttached) →
          (t.step (.input i)).1.session.counters = t.session.counters := by
  intro start s report marks attached
  have hcounters : s.session.counters = marks.foldl Counters.add .zero := counters_run start actions
  rw [foldl_add] at hcounters
  simp only [Counters.zero, Nat.zero_add] at hcounters
  -- each mark is counted once, so no counter is too large for the report
  have hsmall : marks.length < 2 ^ 64 := Nat.lt_of_le_of_lt (length_marks_le start actions) hlength
  rw [← sum_count marks] at hsmall
  obtain ⟨hreceived, hpainted, hdropped, hsent, hrejected⟩ := toNat_snapshot hcounters hsmall
  refine ⟨hreceived, hpainted, hdropped, hsent, hrejected, ?_, ?_, ?_, ?_⟩
  · have hfresh : ∀ ref ∈ start.session.context, ref ∈ attached := by
      intro ref href
      cases href
    exact (sum_draws start actions hfresh fun _ => List.mem_toFinset.2).trans hpainted.symm
  · intro ref g drawable records hcanvas
    exact recorded_run start actions hcanvas
  · intro hrecorders
    exact (sum_recorded rfl actions hrecorders).trans (congrArg _ hpainted.symm)
  · intro t
    refine ⟨counters_step_cases t, ?_, counters_step t .opened, counters_step t .closed, ?_⟩
    · intro directory
      exact counters_step t (.attach directory)
    · intro i
      exact counters_step_input

/-- A key is refused and a picture dropped before the session is attached; then a dot is drawn
twice, and a text, a message that is too short and a frame without a picture are dropped. -/
theorem counters_tell_history_small :
    let canvases : Canvases := [.recorder (.unscaled 2 2) true []]
    let start : Stage := ⟨.new .zero .standard, canvases⟩
    let dot : Action := .paint ⟨⟨0, 0, 1, 1⟩, .fill 1 1 ⟨9, 8, 7, 255⟩⟩
    let key : Action := .input (.key ⟨.down, 30⟩)
    let before := [key, dot, .attach [("webdisplay", 0)], .opened, key, .commandSent]
    let actions := before ++
      [.receive (.text "hello"), .receive (.binary []), dot, .decodeFailed (.taskFailed "stopped"),
        dot, .closed]
    let s := (start.run actions).1
    let attached := (start.attachments actions).toFinset
    actions.length < 2 ^ 64 ∧ s.session.snapshot.framesPainted.toNat = 2 ∧
      s.session.snapshot.framesDropped.toNat = 4 ∧ s.session.snapshot.commandsRejected.toNat = 1 ∧
      (∀ ref ∈ attached, ∃ g drawable records,
        canvases[ref]? = some (.recorder g drawable records)) ∧
      (∑ ref ∈ attached, (Canvases.recorded s.canvases ref).length) = 0 + 2 := by
  intro canvases start dot key before actions s attached
  have hlength : actions.length < 2 ^ 64 := by decide
  obtain ⟨-, hpainted, hdropped, -, hrejected, -, -, hrecorded, -⟩ :=
    counters_tell_history .zero .standard canvases hlength
  have hattached : attached = {0} := rfl
  have hrecorders : ∀ ref ∈ attached, ∃ g drawable records,
      canvases[ref]? = some (.recorder g drawable records) := by
    intro ref href
    rw [hattached, Finset.mem_singleton] at href
    subst href
    exact ⟨_, _, _, rfl⟩
  exact ⟨hlength, hpainted, hdropped, hrejected, hrecorders, hrecorded hrecorders⟩

end Stage

end RemoteDisplay
