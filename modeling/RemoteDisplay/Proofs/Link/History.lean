/-
**What happens to a socket, one thing at a time.**

Not every event has an effect: after the end of the socket no message is handled any more, nobody
listens to a user who was said to do nothing more, and a frame is decoded once.  The history of a
run holds what has had one, in order.

While a session shows a canvas, each event is one of eight turns, and each turn says all that
changes.  A property of runs is proved turn by turn.

Main definitions:

* `RemoteDisplay.Incident` — something that is handled;
* `RemoteDisplay.Link.history` — all that is handled in a run, in order;
* `RemoteDisplay.Incident.messages`, `RemoteDisplay.Incident.accepted`,
  `RemoteDisplay.Incident.completions`, `RemoteDisplay.Incident.inputs` — the messages of a history,
  the frames among them, the frames whose decoding has ended, and what the user has done;
* `RemoteDisplay.Link.Showing` — the session shows a canvas, and is connected while its socket is
  open;
* `RemoteDisplay.Link.Turn` — what one event can do.

Main results:

* `RemoteDisplay.Link.turn_step` — every event is a turn;
* `RemoteDisplay.Link.showing_turn` — a session goes on showing its canvas;
* `RemoteDisplay.Link.run_induction` — what every turn keeps holds after every run;
* `RemoteDisplay.Link.rested_of_ended` — what does not happen after the end of the socket;
* `RemoteDisplay.Link.begun_of_start` — how a run begins.
-/
import Mathlib.Data.List.Induction
import RemoteDisplay.Link.Rehearsal
import RemoteDisplay.Proofs.Stage.Reachable

set_option relaxedAutoImplicit false
set_option autoImplicit false

namespace RemoteDisplay

/-! ### Histories -/

/-- Something that is handled during the life of a socket. -/
inductive Incident where
  /-- A message is handled. -/
  | message (m : Message)
  /-- The decoding of a frame comes to its end. -/
  | completion (job : Job) (how : Completion)
  /-- An event from the user is handled; the canvas of the session is shown as said, if there is
  one, and what is written to the socket arrives, or it does not. -/
  | input (geometry : Option Geometry) (i : Input) (written : Bool)
deriving Repr

namespace Incident

/-- The messages of a history, in order. -/
def messages (past : List Incident) : List Message :=
  past.filterMap fun
    | message m => some m
    | _ => none

/-- The frames among the messages of a history, in order. -/
def accepted (past : List Incident) : List Frame := (messages past).filterMap Message.frame?

/-- The frames of a history whose decoding has come to its end, in the order in which it has. -/
def completions (past : List Incident) : List (Job × Completion) :=
  past.filterMap fun
    | completion job how => some (job, how)
    | _ => none

/-- What the user has done in a history, in order, and how the canvas was shown each time. -/
def inputs (past : List Incident) : List (Option Geometry × Input) :=
  past.filterMap fun
    | input g i _ => some (g, i)
    | _ => none

@[simp] theorem messages_append (earlier later : List Incident) :
    messages (earlier ++ later) = messages earlier ++ messages later := List.filterMap_append

@[simp] theorem accepted_append (earlier later : List Incident) :
    accepted (earlier ++ later) = accepted earlier ++ accepted later := by
  simp [accepted]

@[simp] theorem completions_append (earlier later : List Incident) :
    completions (earlier ++ later) = completions earlier ++ completions later :=
  List.filterMap_append

@[simp] theorem inputs_append (earlier later : List Incident) :
    inputs (earlier ++ later) = inputs earlier ++ inputs later := List.filterMap_append

section One

variable (m : Message) (job : Job) (how : Completion) (g : Option Geometry) (i : Input)
  (written : Bool)

@[simp] theorem messages_message : messages [message m] = [m] := rfl

@[simp] theorem messages_completion : messages [completion job how] = [] := rfl

@[simp] theorem messages_input : messages [input g i written] = [] := rfl

@[simp] theorem accepted_message : accepted [message m] = m.frame?.toList := by
  cases h : m.frame? <;> simp [accepted, h]

@[simp] theorem accepted_completion : accepted [completion job how] = [] := rfl

@[simp] theorem accepted_input : accepted [input g i written] = [] := rfl

@[simp] theorem completions_message : completions [message m] = [] := rfl

@[simp] theorem completions_completion : completions [completion job how] = [(job, how)] := rfl

@[simp] theorem completions_input : completions [input g i written] = [] := rfl

@[simp] theorem inputs_message : inputs [message m] = [] := rfl

@[simp] theorem inputs_completion : inputs [completion job how] = [] := rfl

@[simp] theorem inputs_input : inputs [input g i written] = [(g, i)] := rfl

end One

end Incident

namespace Link

/-- How the canvas of the session is shown, if it has one. -/
def geometry? (l : Link) : Option Geometry := l.stage.session.geometry? l.stage.canvases

/-- What is handled of an event, if anything is. -/
def incident? (l : Link) : Event → Option Incident
  | .received m => if l.live then some (.message m) else none
  | .finished number how =>
    (l.jobs.find? fun job => job.number == number).map fun job => .completion job how
  | .input i written =>
    if l.live && l.hasInputs then some (.input l.geometry? i written) else none
  | _ => none

/-- What is handled of some events, one after another. -/
def history (decoder : Decoder) (l : Link) : List Event → List Incident
  | [] => []
  | e :: events => (l.incident? e).toList ++ (l.step decoder e).history decoder events

/-- What happens later is handled where the earlier has led. -/
theorem history_append (decoder : Decoder) (l : Link) (earlier later : List Event) :
    l.history decoder (earlier ++ later) =
      l.history decoder earlier ++ (l.run decoder earlier).history decoder later := by
  induction earlier generalizing l with
  | nil => rfl
  | cons e events ih => simp [history, run, ih]

/-- The texts that have been written to the socket, in order. -/
def texts (l : Link) : List String := Rehearsal.textsOf l.sent

/-! ### Turns -/

/-- The session shows a canvas, and it is connected while its socket is open. -/
structure Showing (ref : CanvasRef) (l : Link) : Prop where
  canvas : l.stage.session.canvas = some ref
  context : l.stage.session.context = some ref
  canvas_lt : ref < l.stage.canvases.length
  connected : l.live = true → l.stage.session.status = .connected

/-- Nothing has changed but the socket and how canvases are shown, and the socket was not opened. -/
structure Quiet (l l' : Link) : Prop where
  canvas : l'.stage.session.canvas = l.stage.session.canvas
  context : l'.stage.session.context = l.stage.session.context
  pointer : l'.stage.session.pointer = l.stage.session.pointer
  counters : l'.stage.session.counters = l.stage.session.counters
  images : l'.stage.canvases.map Canvas.image? = l.stage.canvases.map Canvas.image?
  jobs : l'.jobs = l.jobs
  started : l'.started = l.started
  texts : l'.texts = l.texts
  draws : l'.draws = l.draws
  live : l'.live = true → l.live = true ∧ l'.stage.session.status = l.stage.session.status

/-- What one event can do to a session that shows a canvas, and what is handled of it. -/
inductive Turn (decoder : Decoder) (ref : CanvasRef) (l : Link) : Option Incident → Link → Prop
  /-- Nothing is handled. -/
  | quiet {l' : Link} (h : Quiet l l') : Turn decoder ref l none l'
  /-- A message is a frame, which is decoded from now on. -/
  | accepted {m : Message} {f : Frame} (hlive : l.live = true) (hf : m.frame? = some f) :
      Turn decoder ref l (some (.message m))
        { l with
          stage.session := l.stage.session.countReceived
          jobs := l.jobs ++ [⟨l.started, f⟩]
          started := l.started + 1 }
  /-- A message is no frame. -/
  | refused {m : Message} (hlive : l.live = true) (hf : m.frame? = none) :
      Turn decoder ref l (some (.message m))
        { l with stage.session := l.stage.session.countDropped }
  /-- A frame has a picture, which is painted. -/
  | painted {job : Job} {how : Completion} {image : Image} (hjob : job ∈ l.jobs)
      (himage : how.picture decoder job.frame = .ok image) :
      Turn decoder ref l (some (.completion job how))
        { l with
          stage :=
            Stage.drawOn ⟨l.stage.session.countPainted, l.stage.canvases⟩ ref
              ⟨job.frame.rect, image⟩
          jobs := l.jobs.erase job
          draws := l.draws ++ [⟨job.frame.rect, image⟩] }
  /-- A frame has no picture. -/
  | failed {job : Job} {how : Completion} {e : DecodeError} (hjob : job ∈ l.jobs)
      (he : how.picture decoder job.frame = .error e) :
      Turn decoder ref l (some (.completion job how))
        { l with
          stage.session := l.stage.session.countDropped
          jobs := l.jobs.erase job }
  /-- The user does something that is not reported. -/
  | silent {g : Geometry} {i : Input} {written : Bool} {pointer : Pointer} (hlive : l.live = true)
      (hg : l.geometry? = some g) (hi : l.stage.session.pointer.take g i = (pointer, none)) :
      Turn decoder ref l (some (.input (some g) i written))
        { l with stage.session.pointer := pointer }
  /-- The user does something that is reported. -/
  | reported {g : Geometry} {i : Input} {pointer : Pointer} {command : Command}
      (hlive : l.live = true) (hg : l.geometry? = some g)
      (hi : l.stage.session.pointer.take g i = (pointer, some command)) :
      Turn decoder ref l (some (.input (some g) i true))
        { l with
          stage.session := { l.stage.session with pointer := pointer }.countSent
          sent := l.sent ++ [.text command.text] }
  /-- The user does something that cannot be reported, since the socket is at its end. -/
  | unsent {g : Geometry} {i : Input} {pointer : Pointer} {command : Command}
      (hlive : l.live = true) (hg : l.geometry? = some g)
      (hi : l.stage.session.pointer.take g i = (pointer, some command)) :
      Turn decoder ref l (some (.input (some g) i false))
        { l with stage.session.pointer := pointer }.hangUp

variable {decoder : Decoder} {ref : CanvasRef} {l l' : Link}

/-! ### Quiet turns -/

theorem Quiet.refl (l : Link) : Quiet l l :=
  ⟨rfl, rfl, rfl, rfl, rfl, rfl, rfl, rfl, rfl, fun h => ⟨h, rfl⟩⟩

/-- Writing anything but a text is quiet. -/
theorem Quiet.write {o : Outgoing} (h : Rehearsal.textsOf [o] = []) : Quiet l (l.write o) where
  canvas := rfl
  context := rfl
  pointer := rfl
  counters := rfl
  images := rfl
  jobs := rfl
  started := rfl
  texts := by
    have happend : (l.write o).texts = l.texts ++ Rehearsal.textsOf [o] := List.filterMap_append
    rw [happend, h, List.append_nil]
  draws := rfl
  live hlive := ⟨hlive, rfl⟩

theorem Quiet.hangUp : Quiet l l.hangUp :=
  ⟨rfl, rfl, rfl, rfl, rfl, rfl, rfl, rfl, rfl, fun h => by cases h⟩

theorem Quiet.trans {l₁ l₂ l₃ : Link} (h : Quiet l₁ l₂) (h' : Quiet l₂ l₃) : Quiet l₁ l₃ where
  canvas := h'.canvas.trans h.canvas
  context := h'.context.trans h.context
  pointer := h'.pointer.trans h.pointer
  counters := h'.counters.trans h.counters
  images := h'.images.trans h.images
  jobs := h'.jobs.trans h.jobs
  started := h'.started.trans h.started
  texts := h'.texts.trans h.texts
  draws := h'.draws.trans h.draws
  live hlive := by
    obtain ⟨hlive₂, hstatus₂⟩ := h'.live hlive
    obtain ⟨hlive₁, hstatus₁⟩ := h.live hlive₂
    exact ⟨hlive₁, hstatus₂.trans hstatus₁⟩

theorem Quiet.place (ref : CanvasRef) (g : Geometry) : Quiet l (l.act (.place ref g)) where
  canvas := rfl
  context := rfl
  pointer := rfl
  counters := rfl
  images := by
    refine List.ext_getElem? fun k => ?_
    simp only [act, Stage.step, List.getElem?_map, List.getElem?_modify]
    cases l.stage.canvases[k]? with
    | none => rfl
    | some c => by_cases hk : ref = k <;> simp [hk, Canvas.image?_place]
  jobs := rfl
  started := rfl
  texts := rfl
  draws := rfl
  live hlive := ⟨hlive, rfl⟩

/-! ### Every event is a turn -/

theorem turn_receive (hlive : l.live = true) (m : Message) :
    Turn decoder ref l (some (.message m)) (l.receive m) := by
  cases hf : m.frame? with
  | some f =>
    have hl : l.receive m =
        { l with
          stage.session := l.stage.session.countReceived
          jobs := l.jobs ++ [⟨l.started, f⟩]
          started := l.started + 1 } := by
      simp [receive, Stage.step, Session.receive_eq, hf]
    rw [hl]
    exact .accepted hlive hf
  | none =>
    have hl : l.receive m = { l with stage.session := l.stage.session.countDropped } := by
      simp [receive, Stage.step, Session.receive_eq, hf]
    rw [hl]
    exact .refused hlive hf

theorem turn_finish (h : Showing ref l) (number : Nat) (how : Completion) :
    Turn decoder ref l (l.incident? (.finished number how)) (l.finish decoder number how) := by
  unfold finish
  cases hfind : l.jobs.find? fun job => job.number == number with
  | none =>
    have hnone : l.incident? (.finished number how) = none := by simp [incident?, hfind]
    rw [hnone]
    exact .quiet (.refl l)
  | some job =>
    have hjob : job ∈ l.jobs := List.mem_of_find?_eq_some hfind
    have hsome : l.incident? (.finished number how) = some (.completion job how) := by
      simp [incident?, hfind]
    rw [hsome]
    dsimp only
    split
    next image himage =>
      have hpaint : Turn decoder ref l _ _ := .painted hjob himage
      simpa [paint, Stage.step, Session.paint_eq, h.context] using hpaint
    next e he => exact .failed hjob he

/-- A session that shows a canvas knows how it is shown. -/
theorem exists_geometry (h : Showing ref l) : ∃ g, l.geometry? = some g := by
  refine ⟨(l.stage.canvases.get ⟨ref, h.canvas_lt⟩).geometry, ?_⟩
  unfold geometry? Session.geometry?
  simp [h.canvas, h.canvas_lt]

theorem turn_handle (h : Showing ref l) (hlive : l.live = true) (i : Input) (written : Bool) :
    Turn decoder ref l (some (.input l.geometry? i written)) (l.handle i written) := by
  obtain ⟨g, hg⟩ := exists_geometry h
  -- no command is refused, since the session is connected while its socket is open
  have hconnected : l.stage.session.isConnected = true := by
    simp [Session.isConnected, h.connected hlive]
  have hinput := Session.input_eq hg i
  rw [hg]
  cases htake : l.stage.session.pointer.take g i with
  | mk pointer command =>
    cases command with
    | none =>
      have hl : l.handle i written = { l with stage.session.pointer := pointer } := by
        simp [handle, Stage.step, hinput, htake]
      rw [hl]
      exact .silent hlive hg htake
    | some command =>
      cases written with
      | true =>
        have hl : l.handle i true =
            { l with
              stage.session := { l.stage.session with pointer := pointer }.countSent
              sent := l.sent ++ [.text command.text] } := by
          simp [handle, Stage.step, hinput, htake, hconnected, act, write, Session.commandSent]
        rw [hl]
        exact .reported hlive hg htake
      | false =>
        have hl : l.handle i false = { l with stage.session.pointer := pointer }.hangUp := by
          simp [handle, Stage.step, hinput, htake, hconnected]
        rw [hl]
        exact .unsent hlive hg htake

theorem turn_stepLive (h : Showing ref l) (hlive : l.live = true) (e : Event) :
    Turn decoder ref l (l.incident? e) (l.stepLive decoder e) := by
  cases e with
  | received m => simpa [incident?, stepLive, hlive] using turn_receive hlive m
  | pinged bytes => exact .quiet (.write rfl)
  | closeReceived => exact .quiet (.write rfl)
  | lost => exact .quiet .hangUp
  | finished number how => exact turn_finish h number how
  | input i written =>
    by_cases hinputs : l.hasInputs = true
    · simpa [incident?, stepLive, hlive, hinputs] using turn_handle h hlive i written
    · simpa [incident?, stepLive, hinputs] using .quiet (.refl l)
  | inputsDropped => exact .quiet { Quiet.refl l with }
  | shutdown now =>
    simp only [incident?, stepLive]
    split
    · exact .quiet (.trans (.write rfl) .hangUp)
    · exact .quiet (.refl l)
  | shutdownDropped => exact .quiet { Quiet.refl l with }
  | placed ref' g => exact .quiet (.place ref' g)

theorem turn_stepEnded (h : Showing ref l) (hlive : l.live = false) (e : Event) :
    Turn decoder ref l (l.incident? e) (l.stepEnded decoder e) := by
  cases e with
  | finished number how => exact turn_finish h number how
  | placed ref' g => exact .quiet (.place ref' g)
  | received m => simpa [incident?, stepEnded, hlive] using .quiet (.refl l)
  | input i written => simpa [incident?, stepEnded, hlive] using .quiet (.refl l)
  | pinged _ | closeReceived | lost | inputsDropped | shutdown _ | shutdownDropped =>
    exact .quiet (.refl l)

/-- **Every event is a turn** of a session that shows a canvas. -/
theorem turn_step (h : Showing ref l) (e : Event) :
    Turn decoder ref l (l.incident? e) (l.step decoder e) := by
  unfold step
  split
  next hlive => exact turn_stepLive h hlive e
  next hlive => exact turn_stepEnded h (Bool.eq_false_iff.2 hlive) e

/-! ### Runs -/

/-- A session goes on showing its canvas. -/
theorem showing_turn {i? : Option Incident} (h : Showing ref l) (ht : Turn decoder ref l i? l') :
    Showing ref l' := by
  cases ht with
  | quiet hq =>
    refine ⟨hq.canvas.trans h.canvas, hq.context.trans h.context, ?_, ?_⟩
    · have hlength := congrArg List.length hq.images
      rw [List.length_map, List.length_map] at hlength
      rw [hlength]
      exact h.canvas_lt
    · intro hlive
      obtain ⟨hbefore, hstatus⟩ := hq.live hlive
      exact hstatus.trans (h.connected hbefore)
  | accepted | refused | failed | silent | reported =>
    exact ⟨h.canvas, h.context, h.canvas_lt, h.connected⟩
  | unsent => exact ⟨h.canvas, h.context, h.canvas_lt, fun hlive => by cases hlive⟩
  | painted hjob himage =>
    refine ⟨h.canvas, h.context, ?_, h.connected⟩
    simpa [Stage.drawOn] using h.canvas_lt

/-- What holds of a session that shows a canvas and every turn keeps holds after every run, and the
session still shows the canvas. -/
theorem run_induction {P : Link → List Incident → Prop} (h : Showing ref l) (hnil : P l [])
    (hturn : ∀ {l₁ l₂ : Link} {past : List Incident} {i? : Option Incident}, Showing ref l₁ →
      P l₁ past → Turn decoder ref l₁ i? l₂ → P l₂ (past ++ i?.toList))
    (events : List Event) :
    Showing ref (l.run decoder events) ∧ P (l.run decoder events) (l.history decoder events) := by
  -- the events are taken from the end, since a history grows there
  induction events using List.reverseRecOn with
  | nil => exact ⟨h, hnil⟩
  | append_singleton events e ih =>
    obtain ⟨hshowing, hP⟩ := ih
    have ht : Turn decoder ref (l.run decoder events) _ _ := turn_step hshowing e
    have hhistory := history_append decoder l events [e]
    have hsingle : (l.run decoder events).history decoder [e] =
        ((l.run decoder events).incident? e).toList := List.append_nil _
    rw [hhistory, hsingle, run_append]
    exact ⟨showing_turn hshowing ht, hturn hshowing hP ht⟩

/-- Since the end of the socket, no message and nothing from the user was handled; no frame was
decoded, no text was written, and the pointer was left as it was. -/
structure Rested (l l' : Link) (past : List Incident) : Prop where
  live : l'.live = false
  started : l'.started = l.started
  texts : l'.texts = l.texts
  pointer : l'.stage.session.pointer = l.stage.session.pointer
  messages : Incident.messages past = []
  inputs : Incident.inputs past = []

/-- After the end of the socket nothing is done but what had been begun. -/
theorem rested_of_ended (decoder : Decoder) (h : Showing ref l) (hlive : l.live = false)
    (events : List Event) :
    Rested l (l.run decoder events) (l.history decoder events) := by
  refine (run_induction (P := Rested l) h ⟨hlive, rfl, rfl, rfl, rfl, rfl⟩ ?_ events).2
  intro l₁ l₂ past i? _ hrested ht
  have hended : l₁.live ≠ true := Bool.eq_false_iff.1 hrested.live
  cases ht with
  | quiet hq =>
    refine ⟨?_, hq.started.trans hrested.started, hq.texts.trans hrested.texts,
      hq.pointer.trans hrested.pointer, ?_, ?_⟩
    · exact Bool.eq_false_iff.2 fun hlive₂ => hended (hq.live hlive₂).1
    · simpa using hrested.messages
    · simpa using hrested.inputs
  | accepted hlive₁ | refused hlive₁ | silent hlive₁ | reported hlive₁ | unsent hlive₁ =>
    exact absurd hlive₁ hended
  | painted | failed =>
    refine ⟨hrested.live, hrested.started, hrested.texts, hrested.pointer, ?_, ?_⟩
    · simpa using hrested.messages
    · simpa using hrested.inputs

/-! ### How a run begins -/

/-- A socket has just been opened for the session of a stage, or could not be. -/
structure Begun (stage : Stage) (ref : CanvasRef) (l : Link) : Prop where
  showing : Showing ref l
  canvas : stage.session.canvas = some ref
  context : stage.session.context = some ref
  canvases : l.stage.canvases = stage.canvases
  pointer : l.stage.session.pointer = stage.session.pointer
  counters : l.stage.session.counters = stage.session.counters
  jobs : l.jobs = []
  started : l.started = 0
  sent : l.sent = []
  draws : l.draws = []

/-- An attached session begins with nothing but its canvas. -/
theorem begun_of_start {network : Network} {stage : Stage} (hstage : stage.Reachable)
    (h : start network stage = .ok l) : ∃ ref, Begun stage ref l := by
  unfold start at h
  split at h
  next hattached =>
    obtain ⟨ref, hcanvas, hcontext, hlt⟩ := hstage.exists_canvas hattached
    refine ⟨ref, ?_⟩
    split at h
    · cases h
      exact ⟨⟨hcanvas, hcontext, hlt, fun _ => rfl⟩, hcanvas, hcontext, rfl, rfl, rfl, rfl, rfl,
        rfl, rfl⟩
    · cases h
      refine ⟨⟨hcanvas, hcontext, hlt, ?_⟩, hcanvas, hcontext, rfl, rfl, rfl, rfl, rfl, rfl,
        rfl⟩
      intro hlive
      cases hlive
  · cases h

end Link

end RemoteDisplay
