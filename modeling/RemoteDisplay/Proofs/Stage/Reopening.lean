/-
**A closed session can be opened again.**

The status of a session is set by three of its operations: attaching it, opening its socket and
closing it.  None of them looks at the old status, so a session that has been closed stays so only
as long as it is neither attached nor opened again; until then it sends nothing.

Main definitions:

* `RemoteDisplay.Stage.reopens`, `RemoteDisplay.Stage.reopened` — the session is attached, or its
  socket is opened, by one action or by one of several.

Main results:

* `RemoteDisplay.Stage.status_step` — which actions set the status;
* `RemoteDisplay.Stage.closed_until_reopened` — **a closed session stays closed** until then;
* `RemoteDisplay.Stage.closed_and_reopened` — **and no longer**.
-/
import RemoteDisplay.Proofs.Stage.Reachable

set_option relaxedAutoImplicit false
set_option autoImplicit false

namespace RemoteDisplay

namespace Session

theorem status_of_attach {s s' : Session} {canvases : Canvases} {directory : Directory}
    (h : s.attach canvases directory = .ok s') : s'.status = .attached := by
  rw [attach_eq] at h
  split at h <;> cases h
  rfl

theorem status_input (s : Session) (canvases : Canvases) (i : Input) :
    (s.input canvases i).1.status = s.status := by
  obtain ⟨pointer, rejected, h⟩ := s.input_frame canvases i
  rw [h]

end Session

namespace Stage

/-- The session is attached to a canvas, or its socket is opened. -/
def reopens (s : Stage) : Action → Bool
  | .attach directory => (s.session.attach s.canvases directory).isOk
  | .opened => true
  | _ => false

/-- One of several actions attaches the session to a canvas or opens its socket. -/
def reopened (s : Stage) : List Action → Bool
  | [] => false
  | a :: rest => s.reopens a || (s.step a).1.reopened rest

/-- Only attaching, opening and closing set the status. -/
theorem status_step (s : Stage) (a : Action) :
    (s.step a).1.session.status =
      match a with
      | .attach _ => if s.reopens a then .attached else s.session.status
      | .opened => .connected
      | .closed => .disconnected
      | _ => s.session.status := by
  cases a with
  | attach directory =>
    cases hattach : s.session.attach s.canvases directory with
    | ok session =>
      simp [step, reopens, hattach, Session.status_of_attach hattach, Except.isOk, Except.toBool]
    | error e => simp [step, reopens, hattach, Except.isOk, Except.toBool]
  | opened | closed | decodeFailed _ | commandSent | place _ _ => rfl
  | receive m =>
    simp only [step, Session.receive_eq]
    split <;> rfl
  | paint d =>
    simp only [step, Session.paint_eq]
    cases s.session.context <;> rfl
  | input i => exact Session.status_input s.session s.canvases i

/-- An action that does not reopen a closed session leaves it closed. -/
theorem status_step_of_closed {s : Stage} (h : s.session.status = .disconnected) {a : Action}
    (ha : s.reopens a = false) : (s.step a).1.session.status = .disconnected := by
  rw [status_step]
  cases a with
  | attach directory => simp [ha, h]
  | opened => cases ha
  | closed => rfl
  | receive _ | paint _ | decodeFailed _ | input _ | commandSent | place _ _ => exact h

/-- A closed session sends no command. -/
theorem reply_step_of_closed {s : Stage} (h : s.session.status = .disconnected) (a : Action)
    (c : Command) : (s.step a).2 ≠ .command (.ok (some c)) := by
  have hconnected : s.session.isConnected = false := by simp [Session.isConnected, h]
  intro hc
  cases a with
  | input i =>
    have hreply : (s.step (.input i)).2 = .command (s.session.input s.canvases i).2 := rfl
    rw [hreply, Reply.command.injEq] at hc
    exact Session.input_of_not_connected hconnected s.canvases i c hc
  | attach directory =>
    simp only [step] at hc
    split at hc <;> cases hc
  | paint d =>
    simp only [step, Session.paint_eq] at hc
    cases hcontext : s.session.context <;> simp [hcontext] at hc
  | opened | closed | receive _ | decodeFailed _ | commandSent | place _ _ => cases hc

/-- **A closed session stays closed**, and sends no command, until it is attached or opened again.
-/
theorem closed_until_reopened {s : Stage} (h : s.session.status = .disconnected)
    {actions : List Action} (hactions : s.reopened actions = false) :
    (s.run actions).1.session.status = .disconnected ∧
      ∀ c, .command (.ok (some c)) ∉ (s.run actions).2 := by
  induction actions generalizing s with
  | nil =>
    refine ⟨h, ?_⟩
    intro c hc
    cases hc
  | cons a rest ih =>
    simp only [reopened, Bool.or_eq_false_iff] at hactions
    obtain ⟨ha, hrest⟩ := hactions
    obtain ⟨hstatus, hreplies⟩ := ih (status_step_of_closed h ha) hrest
    refine ⟨hstatus, ?_⟩
    intro c hc
    rcases List.mem_cons.1 hc with hfirst | hlater
    · exact reply_step_of_closed h a c hfirst.symm
    · exact hreplies c hlater

/-- A closed session goes on as it is: frames are dropped or painted, and keys are refused. -/
theorem closed_until_reopened_small :
    let s := (small.run [.opened, .closed]).1
    let actions : List Action :=
      [.attach [], .receive (.text "hello"), .input (.key ⟨.down, 30⟩), .place 0 (.unscaled 4 4)]
    s.session.status = .disconnected ∧ s.reopened actions = false ∧
      (s.run actions).1.session.status = .disconnected ∧
      ∀ c, .command (.ok (some c)) ∉ (s.run actions).2 := by
  intro s actions
  have hstatus : s.session.status = .disconnected := by decide +kernel
  have hactions : s.reopened actions = false := by decide +kernel
  exact ⟨hstatus, hactions, closed_until_reopened hstatus hactions⟩

/-- **A closed session can be opened again**, and then it sends commands; it can be attached again,
too. -/
theorem closed_and_reopened :
    let closed := (small.run [.opened, .closed]).1
    let again := (closed.run [.opened]).1
    let key : Input := .key ⟨.down, 30⟩
    closed.Reachable ∧ closed.session.status = .disconnected ∧
      again.session.status = .connected ∧ again.session.isConnected = true ∧
      (again.session.input again.canvases key).2 = .ok (some (.keyDown 30)) ∧
      (closed.run [.attach [("webdisplay", 0)]]).1.session.status = .attached := by
  intro closed again key
  have hreachable : closed.Reachable := reachable_small.run _
  exact ⟨hreachable, rfl, rfl, rfl, rfl, rfl⟩

end Stage

end RemoteDisplay
