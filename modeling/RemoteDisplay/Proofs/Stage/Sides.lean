/-
**The two sides of a session.**

Messages and pictures come in from the display host, and commands of the user go out to it; both
pass through one session, and pictures are painted on the canvas that points of the screen are
looked up on.  Still neither side makes a difference to the other.  What comes in is handled in the
same way whatever the user does, whether the socket is open or not, and wherever the canvas is
shown; and what the user does leads to the same commands whatever comes in.

Each side is described by what it looks at of a stage.  Actions of the other side do not change
that, and actions of its own are answered, and change it, according to it alone.  So a run looks to
one side as if only the actions of this side had happened.

Main definitions:

* `RemoteDisplay.Action.isInbound`, `RemoteDisplay.Action.isOutbound` — the actions of each side;
  attaching the session belongs to both;
* `RemoteDisplay.Stage.Separate` — a side that others make no difference to;
* `RemoteDisplay.Stage.inbound`, `RemoteDisplay.Stage.outbound` — what the two sides look at.

Main results:

* `RemoteDisplay.Stage.Separate.purge` — a run looks like the run of a side's own actions;
* `RemoteDisplay.Stage.separate_inbound`, `RemoteDisplay.Stage.separate_outbound` — the two sides
  are such;
* `RemoteDisplay.Stage.sides_apart` — **neither side makes a difference to the other**.
-/
import RemoteDisplay.Proofs.Stage.History

set_option relaxedAutoImplicit false
set_option autoImplicit false

namespace RemoteDisplay

/-! ### Outlines of canvases -/

/-- What of a canvas does not depend on what is drawn on it. -/
structure Canvas.Outline where
  geometry : Geometry
  drawable : Bool
  keepsPixels : Bool

namespace Canvas

/-- What of a canvas does not depend on what is drawn on it. -/
def outline (c : Canvas) : Outline := ⟨c.geometry, c.isDrawable, c.image?.isSome⟩

/-- An outline shown elsewhere; the logical size of a canvas that keeps pixels never changes. -/
def Outline.place (o : Outline) (g : Geometry) : Outline :=
  { o with geometry := if o.keepsPixels then { o.geometry with bbox := g.bbox } else g }

@[simp] theorem outline_draw (c : Canvas) (d : Draw) : (c.draw d).outline = c.outline := by
  have hgeometry := geometry_draw c d
  cases c <;> simp_all [outline, draw, isDrawable, image?]

@[simp] theorem outline_place (c : Canvas) (g : Geometry) :
    (c.place g).outline = c.outline.place g := by
  cases c <;> rfl

theorem isDrawable_place (c : Canvas) (g : Geometry) : (c.place g).isDrawable = c.isDrawable := by
  cases c <;> rfl

theorem isDrawable_draw (c : Canvas) (d : Draw) : (c.draw d).isDrawable = c.isDrawable := by
  cases c <;> rfl

end Canvas

/-- What a change to one canvas does to what is looked at of all of them. -/
theorem Canvases.map_modify {V : Type} {look : Canvas → V} {change : Canvas → Canvas} {seen : V → V}
    (h : ∀ c, look (change c) = seen (look c)) (canvases : Canvases) (ref : CanvasRef) :
    (canvases.modify ref change).map look = (canvases.map look).modify ref seen := by
  refine List.ext_getElem? ?_
  intro i
  simp only [List.getElem?_map, List.getElem?_modify]
  cases canvases[i]? with
  | none => rfl
  | some c => by_cases href : ref = i <;> simp [href, h]

/-! ### Sides -/

namespace Action

/-- The session is to be attached, or something that comes from the display host is handled. -/
def isInbound : Action → Bool
  | attach _ | receive _ | paint _ | decodeFailed _ => true
  | opened | closed | input _ | commandSent | place _ _ => false

/-- The session is to be attached, or something happens to the socket, by the user, or to what the
user sees. -/
def isOutbound : Action → Bool
  | attach _ | opened | closed | input _ | commandSent | place _ _ => true
  | receive _ | paint _ | decodeFailed _ => false

end Action

namespace Stage

/-- A side looks at something of a stage.  Actions that are not its own leave that alone; its own
ones are answered, and change it, according to it alone. -/
structure Separate {V : Type} (own : Action → Bool) (look : Stage → V) : Prop where
  other : ∀ (s : Stage) (a : Action), own a = false → look (s.step a).1 = look s
  same : ∀ {s s' : Stage} (a : Action), own a = true → look s = look s' →
    (s.step a).2 = (s'.step a).2 ∧ look (s.step a).1 = look (s'.step a).1

namespace Separate

variable {V : Type} {own : Action → Bool} {look : Stage → V}

/-- Stages that look the same go on looking the same, with the same answers. -/
theorem congr (h : Separate own look) {actions : List Action} (hown : ∀ a ∈ actions, own a = true)
    {s s' : Stage} (hlook : look s = look s') :
    s.history actions = s'.history actions ∧ look (s.run actions).1 = look (s'.run actions).1 := by
  induction actions generalizing s s' with
  | nil => exact ⟨rfl, hlook⟩
  | cons a rest ih =>
    obtain ⟨hreply, hnext⟩ := h.same a (hown a List.mem_cons_self) hlook
    obtain ⟨hhistory, hrun⟩ := ih (fun b hb => hown b (List.mem_cons_of_mem a hb)) hnext
    rw [history_cons, history_cons, hreply, hhistory]
    exact ⟨rfl, hrun⟩

/-- A run looks like the run of a side's own actions. -/
theorem purge (h : Separate own look) (s : Stage) (actions : List Action) :
    (s.history actions).filter (fun e => own e.1) = s.history (actions.filter own) ∧
      look (s.run actions).1 = look (s.run (actions.filter own)).1 := by
  induction actions generalizing s with
  | nil => exact ⟨rfl, rfl⟩
  | cons a rest ih =>
    obtain ⟨hhistory, hrun⟩ := ih (s.step a).1
    cases hown : own a with
    | true =>
      simp only [history_cons, List.filter_cons, hown, if_true, hhistory]
      exact ⟨trivial, hrun⟩
    | false =>
      -- the other's action is not seen, so the rest might as well begin where it has begun
      have hfirst : ∀ b ∈ rest.filter own, own b = true := fun b hb => (List.mem_filter.1 hb).2
      obtain ⟨hhistory', hrun'⟩ := h.congr hfirst (h.other s a hown)
      simp only [history_cons, List.filter_cons, hown, Bool.false_eq_true, if_false, hhistory]
      exact ⟨hhistory', hrun.trans hrun'⟩

/-- Runs with the same own actions look the same. -/
theorem run (h : Separate own look) (s : Stage) {actions actions' : List Action}
    (hsame : actions.filter own = actions'.filter own) :
    (s.history actions).filter (fun e => own e.1) =
        (s.history actions').filter (fun e => own e.1) ∧
      look (s.run actions).1 = look (s.run actions').1 := by
  obtain ⟨hhistory, hrun⟩ := h.purge s actions
  obtain ⟨hhistory', hrun'⟩ := h.purge s actions'
  rw [hhistory, hhistory', hrun, hrun', hsame]
  exact ⟨rfl, rfl⟩

end Separate

/-! ### What comes in -/

/-- What is looked at where something comes in. -/
@[ext] structure Inbound where
  config : Config
  context : Option CanvasRef
  framesReceived : Nat
  framesPainted : Nat
  framesDropped : Nat
  drawable : List Bool

/-- What of a stage is looked at where something comes in. -/
def inbound (s : Stage) : Inbound where
  config := s.session.config
  context := s.session.context
  framesReceived := s.session.counters.framesReceived
  framesPainted := s.session.counters.framesPainted
  framesDropped := s.session.counters.framesDropped
  drawable := s.canvases.map Canvas.isDrawable

theorem drawable_modify {change : Canvas → Canvas}
    (h : ∀ c, (change c).isDrawable = c.isDrawable) (canvases : Canvases) (ref : CanvasRef) :
    (canvases.modify ref change).map Canvas.isDrawable = canvases.map Canvas.isDrawable := by
  have hseen : ∀ c, (change c).isDrawable = id c.isDrawable := h
  rw [Canvases.map_modify hseen, List.modify_id]

/-- Which canvas is found depends on the names and on which canvases can be drawn on. -/
theorem target?_congr {canvases canvases' : Canvases}
    (h : canvases.map Canvas.isDrawable = canvases'.map Canvas.isDrawable) (d : Directory)
    (name : String) : d.target? canvases name = d.target? canvases' name := by
  have hget : ∀ ref : CanvasRef, (canvases[ref]?).map Canvas.isDrawable =
      (canvases'[ref]?).map Canvas.isDrawable := by
    intro ref
    rw [← List.getElem?_map, ← List.getElem?_map, h]
  have hpair : ∀ (canvases : Canvases) (ref : CanvasRef),
      (canvases[ref]?).map (fun canvas => (ref, canvas.isDrawable)) =
        ((canvases[ref]?).map Canvas.isDrawable).map fun drawable => (ref, drawable) := by
    intro canvases ref
    rw [Option.map_map]
    rfl
  simp only [Directory.target?, hpair, hget]

/-- What comes in is handled in the same way whatever else happens. -/
theorem separate_inbound : Separate Action.isInbound inbound where
  other := by
    intro s a ha
    cases a with
    | attach _ | receive _ | paint _ | decodeFailed _ => cases ha
    | opened | closed | commandSent => rfl
    | input i =>
      obtain ⟨pointer, rejected, h⟩ := s.session.input_frame s.canvases i
      simp only [inbound, step, h]
    | place ref g => simp only [inbound, step, drawable_modify (Canvas.isDrawable_place · g)]
  same := by
    intro s s' a ha hlook
    have hparts := hlook
    simp only [inbound, Inbound.mk.injEq] at hparts
    obtain ⟨hconfig, hcontext, hreceived, hpainted, hdropped, hdrawable⟩ := hparts
    have hreceived' := congrArg (· + 1) hreceived
    have hpainted' := congrArg (· + 1) hpainted
    have hdropped' := congrArg (· + 1) hdropped
    cases a with
    | opened | closed | input _ | commandSent | place _ _ => cases ha
    | attach directory =>
      rw [step_attach, step_attach, target?_congr hdrawable, hconfig]
      split
      · exact ⟨rfl, hlook⟩
      · exact ⟨rfl, hlook⟩
      · exact ⟨rfl, Inbound.ext hconfig rfl hreceived hpainted hdropped hdrawable⟩
    | receive m =>
      rw [step_receive, step_receive]
      refine ⟨rfl, ?_⟩
      dsimp only
      split
      · exact Inbound.ext hconfig hcontext hreceived' hpainted hdropped hdrawable
      · exact Inbound.ext hconfig hcontext hreceived hpainted hdropped' hdrawable
    | paint d =>
      rw [step_paint, step_paint, hcontext]
      split
      next ref _ =>
        have hpaint : ∀ canvases : Canvases, (canvases.modify ref fun c => c.draw d).map
            Canvas.isDrawable = canvases.map Canvas.isDrawable :=
          fun canvases => drawable_modify (Canvas.isDrawable_draw · d) canvases ref
        have hdrawable' := (hpaint s.canvases).trans (hdrawable.trans (hpaint s'.canvases).symm)
        exact ⟨rfl, Inbound.ext hconfig hcontext hreceived hpainted' hdropped hdrawable'⟩
      · exact ⟨rfl, Inbound.ext hconfig hcontext hreceived hpainted hdropped' hdrawable⟩
    | decodeFailed e =>
      exact ⟨rfl, Inbound.ext hconfig hcontext hreceived hpainted hdropped' hdrawable⟩

/-! ### What goes out -/

/-- What is looked at where something goes out. -/
@[ext] structure Outbound where
  config : Config
  canvas : Option CanvasRef
  status : Status
  pointer : Pointer
  commandsSent : Nat
  commandsRejected : Nat
  outlines : List Canvas.Outline

/-- What of a stage is looked at where something goes out. -/
def outbound (s : Stage) : Outbound where
  config := s.session.config
  canvas := s.session.canvas
  status := s.session.status
  pointer := s.session.pointer
  commandsSent := s.session.counters.commandsSent
  commandsRejected := s.session.counters.commandsRejected
  outlines := s.canvases.map Canvas.outline

theorem outlines_draw (canvases : Canvases) (ref : CanvasRef) (d : Draw) :
    (canvases.modify ref fun c => c.draw d).map Canvas.outline = canvases.map Canvas.outline := by
  have hseen : ∀ c : Canvas, (c.draw d).outline = id c.outline := fun c => c.outline_draw d
  rw [Canvases.map_modify hseen, List.modify_id]

/-- How a canvas is shown, and whether it can be drawn on, is seen from its outline. -/
theorem map_of_outlines {V : Type} {canvases canvases' : Canvases}
    (h : canvases.map Canvas.outline = canvases'.map Canvas.outline) (look : Canvas.Outline → V) :
    canvases.map (fun c => look c.outline) = canvases'.map fun c => look c.outline := by
  simpa only [List.map_map, Function.comp_def] using congrArg (List.map look) h

/-- Points of the screen are looked up on the outline of the canvas. -/
theorem geometry?_congr {s s' : Stage} (hcanvas : s.session.canvas = s'.session.canvas)
    (houtlines : s.canvases.map Canvas.outline = s'.canvases.map Canvas.outline) :
    s.session.geometry? s.canvases = s'.session.geometry? s'.canvases := by
  have hgeometries : s.canvases.map Canvas.geometry = s'.canvases.map Canvas.geometry :=
    map_of_outlines houtlines Canvas.Outline.geometry
  have hget : ∀ ref : CanvasRef,
      (s.canvases[ref]?).map Canvas.geometry = (s'.canvases[ref]?).map Canvas.geometry := by
    intro ref
    rw [← List.getElem?_map, ← List.getElem?_map, hgeometries]
  rw [Session.geometry?, Session.geometry?, hcanvas]
  cases s'.session.canvas with
  | none => rfl
  | some ref => exact hget ref

/-- Stages that look the same to the user answer the user in the same way. -/
theorem step_input_congr {s s' : Stage} (hlook : s.outbound = s'.outbound) (i : Input) :
    (s.step (.input i)).2 = (s'.step (.input i)).2 ∧
      (s.step (.input i)).1.outbound = (s'.step (.input i)).1.outbound := by
  have hparts := hlook
  simp only [outbound, Outbound.mk.injEq] at hparts
  obtain ⟨hconfig, hcanvas, hstatus, hpointer, hsent, hrejected, houtlines⟩ := hparts
  have hgeometry : s.session.geometry? s.canvases = s'.session.geometry? s'.canvases :=
    geometry?_congr hcanvas houtlines
  have hconnected : s.session.isConnected = s'.session.isConnected := by
    rw [Session.isConnected, hstatus, ← Session.isConnected]
  have hreport : ∀ geometry, s.session.report geometry i = s'.session.report geometry i := by
    intro geometry
    cases i <;> simp only [Session.report, hpointer]
  simp only [step, Session.input, hgeometry, hreport, hconnected]
  -- from here on both sessions go the same way: refused, silent, sent or not sent
  cases s'.session.report (s'.session.geometry? s'.canvases) i with
  | error e => exact ⟨rfl, hlook⟩
  | ok outcome =>
    obtain ⟨pointer, command⟩ := outcome
    cases command with
    | none => exact ⟨rfl, Outbound.ext hconfig hcanvas hstatus rfl hsent hrejected houtlines⟩
    | some command =>
      have hrejected' := congrArg (· + 1) hrejected
      cases s'.session.isConnected with
      | true => exact ⟨rfl, Outbound.ext hconfig hcanvas hstatus rfl hsent hrejected houtlines⟩
      | false => exact ⟨rfl, Outbound.ext hconfig hcanvas hstatus rfl hsent hrejected' houtlines⟩

/-- What the user does leads to the same commands whatever comes in. -/
theorem separate_outbound : Separate Action.isOutbound outbound where
  other := by
    intro s a ha
    cases a with
    | attach _ | opened | closed | input _ | commandSent | place _ _ => cases ha
    | receive m =>
      rw [step_receive]
      dsimp only
      split <;> rfl
    | paint d =>
      rw [step_paint]
      split
      next ref _ => exact Outbound.ext rfl rfl rfl rfl rfl rfl (outlines_draw s.canvases ref d)
      · rfl
    | decodeFailed e => rfl
  same := by
    intro s s' a ha hlook
    have hparts := hlook
    simp only [outbound, Outbound.mk.injEq] at hparts
    obtain ⟨hconfig, hcanvas, hstatus, hpointer, hsent, hrejected, houtlines⟩ := hparts
    cases a with
    | receive _ | paint _ | decodeFailed _ => cases ha
    | attach directory =>
      have hdrawable : s.canvases.map Canvas.isDrawable = s'.canvases.map Canvas.isDrawable :=
        map_of_outlines houtlines Canvas.Outline.drawable
      rw [step_attach, step_attach, target?_congr hdrawable, hconfig]
      split
      · exact ⟨rfl, hlook⟩
      · exact ⟨rfl, hlook⟩
      · exact ⟨rfl, Outbound.ext hconfig rfl rfl hpointer hsent hrejected houtlines⟩
    | opened => exact ⟨rfl, Outbound.ext hconfig hcanvas rfl hpointer hsent hrejected houtlines⟩
    | closed => exact ⟨rfl, Outbound.ext hconfig hcanvas rfl hpointer hsent hrejected houtlines⟩
    | input i => exact step_input_congr hlook i
    | commandSent =>
      have hsent' := congrArg (· + 1) hsent
      exact ⟨rfl, Outbound.ext hconfig hcanvas hstatus hpointer hsent' hrejected houtlines⟩
    | place ref g =>
      have hplace : ∀ canvases : Canvases, (canvases.modify ref fun c => c.place g).map
          Canvas.outline = (canvases.map Canvas.outline).modify ref fun o => o.place g :=
        fun canvases => Canvases.map_modify (Canvas.outline_place · g) canvases ref
      have houtlines' := (hplace s.canvases).trans
        ((congrArg (List.modify · ref _) houtlines).trans (hplace s'.canvases).symm)
      exact ⟨rfl, Outbound.ext hconfig hcanvas hstatus hpointer hsent hrejected houtlines'⟩

/-! ### Neither side makes a difference to the other -/

/-- What is drawn on a canvas is read off what comes in. -/
theorem draws_eq_inbound (s : Stage) (ref : CanvasRef) (actions : List Action) :
    s.draws ref actions =
      ((s.history actions).filter fun e => e.1.isInbound).filterMap (drawOn? ref) := by
  have hdraw : drawOn? ref = fun e => if e.1.isInbound then drawOn? ref e else none := by
    funext ⟨a, reply⟩
    cases a <;> rfl
  rw [draws, List.filterMap_filter, ← hdraw]

/-- **Neither side makes a difference to the other.**  If in two runs the session is attached, and
messages, pictures and failures come in, in the same way, then the answers to these are the same,
the same is drawn on every canvas, which then shows the same, and the frames are counted alike,
whatever else happens.  And if in two runs the session is attached, the socket is opened and closed,
the user does something, commands are written, and canvases are shown elsewhere, in the same way,
then the answers to these are the same, and so are the status, the pointer and the counts of
commands, whatever comes in. -/
theorem sides_apart (s₀ : Stage) (actions actions' : List Action) :
    let s := (s₀.run actions).1
    let s' := (s₀.run actions').1
    (actions.filter Action.isInbound = actions'.filter Action.isInbound →
      ((s₀.history actions).filter fun e => e.1.isInbound) =
          ((s₀.history actions').filter fun e => e.1.isInbound) ∧
        (∀ ref : CanvasRef, s₀.draws ref actions = s₀.draws ref actions' ∧
          (s.canvases[ref]?).map Canvas.surface = (s'.canvases[ref]?).map Canvas.surface) ∧
        s.session.counters.framesReceived = s'.session.counters.framesReceived ∧
        s.session.counters.framesPainted = s'.session.counters.framesPainted ∧
        s.session.counters.framesDropped = s'.session.counters.framesDropped) ∧
    (actions.filter Action.isOutbound = actions'.filter Action.isOutbound →
      ((s₀.history actions).filter fun e => e.1.isOutbound) =
          ((s₀.history actions').filter fun e => e.1.isOutbound) ∧
        s.session.status = s'.session.status ∧ s.session.pointer = s'.session.pointer ∧
        s.session.counters.commandsSent = s'.session.counters.commandsSent ∧
        s.session.counters.commandsRejected = s'.session.counters.commandsRejected) := by
  intro s s'
  constructor
  · intro hsame
    obtain ⟨hhistory, hlook⟩ := separate_inbound.run s₀ hsame
    have hdraws : ∀ ref, s₀.draws ref actions = s₀.draws ref actions' := by
      intro ref
      rw [draws_eq_inbound, draws_eq_inbound, hhistory]
    refine ⟨hhistory, ?_, congrArg Inbound.framesReceived hlook,
      congrArg Inbound.framesPainted hlook, congrArg Inbound.framesDropped hlook⟩
    intro ref
    exact ⟨hdraws ref, by rw [surface_run, surface_run, hdraws]⟩
  · intro hsame
    obtain ⟨hhistory, hlook⟩ := separate_outbound.run s₀ hsame
    exact ⟨hhistory, congrArg Outbound.status hlook, congrArg Outbound.pointer hlook,
      congrArg Outbound.commandsSent hlook, congrArg Outbound.commandsRejected hlook⟩

/-- A dot is painted in the same way while the pointer is pressed on a canvas that is moved, and the
pointer is pressed in the same way while a dot is painted. -/
theorem sides_apart_small :
    let s₀ : Stage := ⟨.new .zero .standard, [.blank (.unscaled 2 2)]⟩
    let attach : Action := .attach [("webdisplay", 0)]
    let dot : Action := .paint ⟨⟨0, 0, 1, 1⟩, .fill 1 1 ⟨9, 8, 7, 255⟩⟩
    let down : Action := .input (.pointer ⟨.down, ⟨1, 1⟩⟩)
    let incoming := [attach, .receive (.text "hello"), dot]
    let outgoing := [attach, .opened, .place 0 (.unscaled 4 4), down, .closed]
    let both :=
      [attach, .opened, .receive (.text "hello"), .place 0 (.unscaled 4 4), dot, down, .closed]
    incoming.filter Action.isInbound = both.filter Action.isInbound ∧
      s₀.draws 0 incoming = s₀.draws 0 both ∧
      (s₀.run incoming).1.session.counters.framesDropped =
        (s₀.run both).1.session.counters.framesDropped ∧
      outgoing.filter Action.isOutbound = both.filter Action.isOutbound ∧
      ((s₀.history outgoing).filter fun e => e.1.isOutbound) =
        ((s₀.history both).filter fun e => e.1.isOutbound) ∧
      (s₀.run outgoing).1.session.pointer = (s₀.run both).1.session.pointer := by
  intro s₀ attach dot down incoming outgoing both
  have hin : incoming.filter Action.isInbound = both.filter Action.isInbound := rfl
  have hout : outgoing.filter Action.isOutbound = both.filter Action.isOutbound := rfl
  obtain ⟨-, hdraws, -, -, hdropped⟩ := (sides_apart s₀ incoming both).1 hin
  obtain ⟨hhistory, -, hpointer, -, -⟩ := (sides_apart s₀ outgoing both).2 hout
  exact ⟨hin, (hdraws 0).1, hdropped, hout, hhistory, hpointer⟩

end Stage

end RemoteDisplay
