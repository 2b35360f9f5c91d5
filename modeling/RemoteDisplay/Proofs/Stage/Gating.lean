/-
**The socket lets commands through, and nothing else.**

Opening and closing the socket makes no difference to what a session does, except that a command of
the user is sent while the socket is open and refused while it is not.  Without its socket a session
follows the same steps: only its status and the number of refused commands are lost from sight.  So
two runs that differ in when the socket is opened and closed go side by side, and what the user does
comes to the same in both: to nothing, or to the same command.

Main definitions:

* `RemoteDisplay.Action.isSocket` — the socket is opened or closed;
* `RemoteDisplay.Stage.unplugged` — a stage as it is seen without its socket;
* `RemoteDisplay.Stage.Gives` — what an event from the user comes to, and what the socket makes of
  it;
* `RemoteDisplay.Stage.moments` — the stages of a run, each with what happens next.

Main results:

* `RemoteDisplay.Stage.unplugged_step_socket`, `RemoteDisplay.Stage.unplugged_step` — the socket is
  not seen, and the rest goes on without it;
* `RemoteDisplay.Stage.moments_unplugged` — a whole run is seen as the run without its socket;
* `RemoteDisplay.Stage.socket_only_gates` — **the socket lets commands through, and nothing else**.
-/
import Mathlib.Data.List.Forall2
import RemoteDisplay.Proofs.Stage.History

set_option relaxedAutoImplicit false
set_option autoImplicit false

namespace RemoteDisplay

/-- The socket is opened or closed. -/
def Action.isSocket : Action → Bool
  | opened | closed => true
  | attach _ | receive _ | paint _ | decodeFailed _ | input _ | commandSent | place _ _ => false

namespace Stage

/-! ### Without the socket -/

/-- A stage as it is seen without its socket: nobody knows the status of the session, nor how many
commands it has refused. -/
def unplugged (s : Stage) : Stage where
  session :=
    { s.session with
      status := .detached
      counters := { s.session.counters with commandsRejected := 0 } }
  canvases := s.canvases

/-- Opening and closing the socket is not seen without it. -/
theorem unplugged_step_socket (s : Stage) {a : Action} (ha : a.isSocket = true) :
    (s.step a).1.unplugged = s.unplugged := by
  cases a with
  | opened | closed => rfl
  | attach _ | receive _ | paint _ | decodeFailed _ | input _ | commandSent | place _ _ => cases ha

theorem report_unplugged (s : Stage) (i : Input) :
    s.unplugged.session.report (s.unplugged.session.geometry? s.unplugged.canvases) i =
      s.session.report (s.session.geometry? s.canvases) i := by
  cases i <;> rfl

/-- Everything else goes on in the same way. -/
theorem unplugged_step (s : Stage) {a : Action} (ha : a.isSocket = false) :
    (s.step a).1.unplugged = (s.unplugged.step a).1.unplugged := by
  cases a with
  | opened | closed => cases ha
  | decodeFailed _ | commandSent | place _ _ => rfl
  | attach directory =>
    rw [step_attach, step_attach]
    simp only [unplugged]
    split <;> rfl
  | receive m =>
    rw [step_receive, step_receive]
    dsimp only
    split <;> rfl
  | paint d =>
    rw [step_paint, step_paint]
    simp only [unplugged]
    split <;> rfl
  | input i =>
    simp only [step, Session.input, report_unplugged]
    cases s.session.report (s.session.geometry? s.canvases) i with
    | error e => rfl
    | ok outcome =>
      obtain ⟨pointer, command⟩ := outcome
      cases command with
      | none => rfl
      | some command =>
        -- whether the command is sent or refused, the pointer is the same
        dsimp only
        split <;> rfl

/-! ### What the user does -/

/-- What an event from the user comes to, whether the socket is open or not. -/
inductive Outcome where
  /-- The session has no canvas to look a point of the screen up on. -/
  | refused
  /-- There is nothing to report. -/
  | silent
  /-- A command reports the event. -/
  | command (command : Command)

/-- An event from the user comes to something on a stage.  A command is sent if the session is
connected at that moment; otherwise it is refused and counted as such, and nothing of it is kept for
later. -/
def Gives (s : Stage) (i : Input) : Outcome → Prop
  | .refused => s.step (.input i) = (s, .command (.error .notAttached))
  | .silent => s.step (.input i) = (s, .command (.ok none))
  | .command c =>
    ∃ pointer, s.step (.input i) =
      if s.session.status = .connected then
        ({ s with session := { s.session with pointer } }, .command (.ok (some c)))
      else
        ({ s with session := Session.countRejected { s.session with pointer } },
          .command (.error (.notConnected c)))

/-- What an event from the user comes to, as far as the pointer and the canvas tell. -/
def outcome (s : Stage) (i : Input) : Outcome :=
  match s.session.report (s.session.geometry? s.canvases) i with
  | .error _ => .refused
  | .ok (_, none) => .silent
  | .ok (_, some command) => .command command

/-- What an event comes to is seen without the socket. -/
theorem outcome_unplugged (s : Stage) (i : Input) : s.unplugged.outcome i = s.outcome i := by
  rw [outcome, report_unplugged, outcome]

/-- Only for want of a canvas is an event not reported at all. -/
theorem eq_notAttached_of_report {s : Session} {geometry : Option Geometry} {i : Input}
    {e : InputError} (h : s.report geometry i = .error e) : e = .notAttached := by
  cases i with
  | key event => cases h
  | pointer event =>
    cases geometry with
    | none =>
      cases h
      rfl
    | some g => cases h

/-- An event that is not reported leaves the pointer as it is. -/
theorem pointer_of_report {s : Session} {geometry : Option Geometry} {i : Input} {pointer : Pointer}
    (h : s.report geometry i = .ok (pointer, none)) : pointer = s.pointer := by
  cases i with
  | key event => cases h
  | pointer event =>
    cases geometry with
    | none => cases h
    | some g =>
      obtain ⟨hafter, hcommand⟩ := Prod.mk.inj (Except.ok.inj h)
      -- only a move of an idle pointer is not reported
      rw [← hafter]
      rcases event with ⟨_ | _ | _, position⟩
      · cases hcommand
      · cases hcommand
      · rfl

/-- Each event from the user comes to what the pointer and the canvas tell. -/
theorem gives_outcome (s : Stage) (i : Input) : s.Gives i (s.outcome i) := by
  have hconnected : s.session.isConnected = decide (s.session.status = .connected) := rfl
  unfold outcome
  split
  next e hreport =>
    simp only [Gives, step, Session.input, hreport, eq_notAttached_of_report hreport]
  next pointer hreport =>
    simp only [Gives, step, Session.input, hreport, pointer_of_report hreport]
  next pointer command hreport =>
    refine ⟨pointer, ?_⟩
    simp only [step, Session.input, hreport, hconnected, decide_eq_true_eq]
    split <;> rfl

/-! ### Whole runs -/

/-- The stages of a run, each with what happens next. -/
def moments (s : Stage) : List Action → List (Stage × Action)
  | [] => []
  | a :: rest => (s, a) :: (s.step a).1.moments rest

/-- The moments of a run in which the socket is never seen. -/
def momentsUnplugged (s : Stage) : List Action → List (Stage × Action)
  | [] => []
  | a :: rest => (s, a) :: (s.step a).1.unplugged.momentsUnplugged rest

/-- A whole run is seen as the run without its socket. -/
theorem moments_unplugged (s : Stage) (actions : List Action) :
    ((s.moments actions).filter fun m => !m.2.isSocket).map (fun m => (m.1.unplugged, m.2)) =
      s.unplugged.momentsUnplugged (actions.filter fun a => !a.isSocket) := by
  induction actions generalizing s with
  | nil => rfl
  | cons a rest ih =>
    cases ha : a.isSocket with
    | true => simpa [moments, ha, unplugged_step_socket s ha] using ih (s.step a).1
    | false => simpa [moments, momentsUnplugged, ha, unplugged_step s ha] using ih (s.step a).1

/-- Moments of two runs are alike if the same happens, the pointer is the same afterwards, and an
event from the user comes to the same. -/
structure Alike (m m' : Stage × Action) : Prop where
  action : m.2 = m'.2
  pointer : (m.1.step m.2).1.session.pointer = (m'.1.step m'.2).1.session.pointer
  outcome : ∀ i, m.2 = .input i → ∃ o, m.1.Gives i o ∧ m'.1.Gives i o

/-- Moments that are the same without the socket are alike. -/
theorem alike_of_unplugged {m m' : Stage × Action} (hstage : m.1.unplugged = m'.1.unplugged)
    (haction : m.2 = m'.2) (hsocket : m.2.isSocket = false) : Alike m m' where
  action := haction
  pointer := by
    have hnext : (m.1.step m.2).1.unplugged = (m'.1.step m'.2).1.unplugged := by
      rw [← haction, unplugged_step m.1 hsocket, unplugged_step m'.1 hsocket, hstage]
    exact congrArg (fun s => s.session.pointer) hnext
  outcome := by
    intro i _
    have houtcome : m.1.outcome i = m'.1.outcome i := by
      rw [← outcome_unplugged, hstage, outcome_unplugged]
    refine ⟨m.1.outcome i, gives_outcome m.1 i, ?_⟩
    rw [houtcome]
    exact gives_outcome m'.1 i

/-- **The socket lets commands through, and nothing else.**  If two runs are the same but for when
the socket is opened and closed, then whenever something else happens the pointer is the same
afterwards in both, and an event from the user comes to the same: to nothing for want of a canvas,
to nothing to report, or to the same command, which is sent just if the session is connected at that
moment and otherwise is refused and not kept.  In particular, closing the socket while the pointer
is pressed leaves it pressed, and no release is sent. -/
theorem socket_only_gates (s₀ : Stage) {actions actions' : List Action}
    (hsame : (actions.filter fun a => !a.isSocket) = actions'.filter fun a => !a.isSocket) :
    List.Forall₂ Alike ((s₀.moments actions).filter fun m => !m.2.isSocket)
        ((s₀.moments actions').filter fun m => !m.2.isSocket) ∧
      ((s₀.run actions).1.session.pointer = .pressed →
        (s₀.run (actions ++ [.closed])).1.session.pointer = .pressed ∧
          (s₀.run (actions ++ [.closed])).2 = (s₀.run actions).2 ++ [.done]) := by
  constructor
  · have hseen := (moments_unplugged s₀ actions).trans
      ((congrArg s₀.unplugged.momentsUnplugged hsame).trans (moments_unplugged s₀ actions').symm)
    rw [← List.forall₂_eq_eq_eq, List.forall₂_map_left_iff, List.forall₂_map_right_iff] at hseen
    have hsocket : ∀ m ∈ (s₀.moments actions).filter fun m => !m.2.isSocket,
        m.2.isSocket = false := by
      intro m hm
      simpa using (List.mem_filter.1 hm).2
    refine ((List.forall₂_and_left _ _).2 ⟨hsocket, hseen⟩).imp ?_
    rintro m m' ⟨hother, hlook⟩
    obtain ⟨hstage, haction⟩ := Prod.mk.inj hlook
    exact alike_of_unplugged hstage haction hother
  · intro hpressed
    rw [run_append]
    exact ⟨hpressed, rfl⟩

/-- The pointer goes down and is dragged, once on a session that is never connected, and once on one
whose socket is closed in between: the drag is refused by both, and no release is sent. -/
theorem socket_only_gates_small :
    let s₀ : Stage := ⟨.new .zero .standard, [.blank (.unscaled 2 2)]⟩
    let attach : Action := .attach [("webdisplay", 0)]
    let down : Action := .input (.pointer ⟨.down, ⟨1, 1⟩⟩)
    let drag : Action := .input (.pointer ⟨.move, ⟨1, 0⟩⟩)
    let pressed := [down, attach, .opened, down]
    let closed := pressed ++ [.closed, drag]
    let never := [down, attach, down, drag]
    (closed.filter fun a => !a.isSocket) = (never.filter fun a => !a.isSocket) ∧
      List.Forall₂ Alike ((s₀.moments closed).filter fun m => !m.2.isSocket)
        ((s₀.moments never).filter fun m => !m.2.isSocket) ∧
      (s₀.run pressed).1.session.pointer = .pressed ∧
      (s₀.run (pressed ++ [.closed])).1.session.pointer = .pressed ∧
      (s₀.run (pressed ++ [.closed])).2 = (s₀.run pressed).2 ++ [.done] := by
  intro s₀ attach down drag pressed closed never
  have hsame : (closed.filter fun a => !a.isSocket) = never.filter fun a => !a.isSocket := rfl
  have hpressed : (s₀.run pressed).1.session.pointer = .pressed := rfl
  obtain ⟨halike, -⟩ := socket_only_gates s₀ hsame
  obtain ⟨-, hclosing⟩ := @socket_only_gates s₀ pressed pressed rfl
  exact ⟨hsame, halike, hpressed, hclosing hpressed⟩

end Stage

end RemoteDisplay
