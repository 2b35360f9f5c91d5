/-
**Only the socket or an order to shut down ends a session.**

A session that is attached to a canvas tries to open its socket, and is disconnected at once if that
fails.  Otherwise it is connected as long as its socket is open, and disconnected afterwards.
Messages of any kind, frames without a picture, anything the user does, and what the session is told
short of an order to shut down leave it connected, as long as what is written to the socket arrives.
Once the socket is at its end the session reports as soon as every frame has had its end, and it
reports that it is disconnected.

Main definitions:

* `RemoteDisplay.Link.Ends` — some events hold the end of the socket or an order to shut down;
* `RemoteDisplay.Link.Steady` — a session is as open, and as connected, as before;
* `RemoteDisplay.Link.Change` — what one event can do to the socket and to the status.

Main results:

* `RemoteDisplay.Link.change_step` — every event is such a change;
* `RemoteDisplay.Link.status_run` — a session is connected exactly as long as its socket is open;
* `RemoteDisplay.Link.open_run` — the socket is open exactly until the first event that ends it;
* `RemoteDisplay.Link.lifecycle` — **the life of a session**.
-/
import RemoteDisplay.Proofs.Link.Conservation
import RemoteDisplay.Proofs.Stage.Reopening

set_option relaxedAutoImplicit false
set_option autoImplicit false

namespace RemoteDisplay.Link

variable {decoder : Decoder} {l l' : Link} {events : List Event} {e : Event}

/-! ### The events that end a session -/

/-- The socket comes to its end, or the session is told to shut down while it can still be told
anything. -/
def Ends (events : List Event) : Prop :=
  .lost ∈ events ∨
    ∃ before after, events = before ++ .shutdown true :: after ∧ .shutdownDropped ∉ before

theorem not_ends_nil : ¬ Ends [] := by
  rintro (hlost | ⟨before, after, hevents, -⟩)
  · cases hlost
  · simp at hevents

/-- One more event ends a session if it is one of the two that can. -/
theorem ends_concat :
    Ends (events ++ [e]) ↔
      Ends events ∨ e = .lost ∨ (e = .shutdown true ∧ .shutdownDropped ∉ events) := by
  constructor
  · rintro (hlost | ⟨before, after, hevents, hdropped⟩)
    · rcases List.mem_append.1 hlost with hearlier | hlast
      · exact .inl (.inl hearlier)
      · exact .inr (.inl (List.mem_singleton.1 hlast).symm)
    · -- the order to shut down is the last event, or it came before
      rcases after.eq_nil_or_concat with rfl | ⟨after, last, rfl⟩
      · obtain ⟨rfl, hlast⟩ := List.append_inj' hevents rfl
        exact .inr (.inr ⟨List.singleton_inj.1 hlast, hdropped⟩)
      · have hsplit : events ++ [e] = (before ++ .shutdown true :: after) ++ [last] := by
          simpa using hevents
        exact .inl (.inr ⟨before, after, (List.append_inj' hsplit rfl).1, hdropped⟩)
  · rintro ((hlost | ⟨before, after, rfl, hdropped⟩) | rfl | ⟨rfl, hdropped⟩)
    · exact .inl (List.mem_append_left _ hlost)
    · exact .inr ⟨before, after ++ [e], by simp, hdropped⟩
    · exact .inl (List.mem_append_right _ List.mem_cons_self)
    · exact .inr ⟨events, [], rfl, hdropped⟩

/-! ### What one event can do -/

/-- The socket is as open, and the session as connected, as before; it may be told as much. -/
structure Steady (l l' : Link) : Prop where
  live : l'.live = l.live
  hasShutdown : l'.hasShutdown = l.hasShutdown
  status : l'.stage.session.status = l.stage.session.status

-- A quiet turn may be the end of the socket or not, so a turn does not say enough here.

/-- What one event can do to the socket and to the status of a session. -/
inductive Change (l : Link) (e : Event) (l' : Link) : Prop
  /-- Nothing; while the socket is open, this is so unless the event says otherwise. -/
  | steady (h : Steady l l')
      (hopen : l.live = true →
        e ≠ .lost ∧ e ≠ .shutdownDropped ∧ (e = .shutdown true → l.hasShutdown = false))
  /-- The session will not be told anything more. -/
  | untold (he : e = .shutdownDropped) (hlive : l'.live = l.live)
      (hshutdown : l'.hasShutdown = false)
      (hstatus : l'.stage.session.status = l.stage.session.status)
  /-- The end of the socket: it is lost, the session shuts down, or a command cannot be written. -/
  | hungUp (hopen : l.live = true) (hlive : l'.live = false)
      (hstatus : l'.stage.session.status = .disconnected)
      (he : e = .lost ∨ (e = .shutdown true ∧ l.hasShutdown = true) ∨ ∃ i, e = .input i false)

namespace Steady

theorem refl (l : Link) : Steady l l := ⟨rfl, rfl, rfl⟩

theorem trans {l₁ l₂ l₃ : Link} (h : Steady l₁ l₂) (h' : Steady l₂ l₃) : Steady l₁ l₃ :=
  ⟨h'.live.trans h.live, h'.hasShutdown.trans h.hasShutdown, h'.status.trans h.status⟩

/-- A change of the stage that leaves the status leaves the session as it is. -/
theorem of_stage {a : Action} {stage : Stage} {reply : Reply}
    (hstep : l.stage.step a = (stage, reply))
    (ha : (l.stage.step a).1.session.status = l.stage.session.status) (hlive : l'.live = l.live)
    (hshutdown : l'.hasShutdown = l.hasShutdown) (hstage : l'.stage = stage) : Steady l l' := by
  refine ⟨hlive, hshutdown, ?_⟩
  rw [hstage, ← ha, hstep]

theorem receive (l : Link) (m : Message) : Steady l (l.receive m) := by
  have hstatus := l.stage.status_step (.receive m)
  unfold Link.receive
  split
  next hstep => exact of_stage hstep hstatus rfl rfl rfl
  next hstep => exact of_stage hstep hstatus rfl rfl rfl

theorem paint (l : Link) (d : Draw) : Steady l (l.paint d) := by
  have hstatus := l.stage.status_step (.paint d)
  unfold Link.paint
  split
  next hstep => exact of_stage hstep hstatus rfl rfl rfl
  next hstep => exact of_stage hstep hstatus rfl rfl rfl

theorem finish (decoder : Decoder) (l : Link) (number : Nat) (how : Completion) :
    Steady l (l.finish decoder number how) := by
  unfold Link.finish
  split
  · exact refl l
  next job _ =>
    have herase : Steady l { l with jobs := l.jobs.erase job } := ⟨rfl, rfl, rfl⟩
    dsimp only
    split
    · exact herase.trans (paint _ _)
    next e _ => exact herase.trans ⟨rfl, rfl, Stage.status_step l.stage (.decodeFailed e)⟩

end Steady

/-- Whatever the user does, the session is as before, unless a command cannot be written. -/
theorem change_handle (hlive : l.live = true) (i : Input) (written : Bool) :
    Change l (.input i written) (l.handle i written) := by
  have hstatus := l.stage.status_step (.input i)
  unfold handle
  split
  next stage command hstep =>
    split
    next hwritten =>
      have hsteady : Steady l { l with stage } := .of_stage hstep hstatus rfl rfl rfl
      refine .steady (hsteady.trans ⟨rfl, rfl, stage.status_step .commandSent⟩) ?_
      simp
    next hwritten =>
      refine .hungUp hlive rfl rfl (.inr (.inr ⟨i, ?_⟩))
      rw [Bool.eq_false_iff.2 hwritten]
  next hstep =>
    refine .steady (.of_stage hstep hstatus rfl rfl rfl) ?_
    simp

/-- **Every event is such a change.** -/
theorem change_step (decoder : Decoder) (l : Link) (e : Event) :
    Change l e (l.step decoder e) := by
  unfold step
  split
  next hlive =>
    cases e with
    | received m => exact .steady (.receive l m) (by simp)
    | pinged _ | closeReceived => exact .steady ⟨rfl, rfl, rfl⟩ (by simp)
    | lost => exact .hungUp hlive rfl rfl (.inl rfl)
    | finished number how => exact .steady (.finish decoder l number how) (by simp)
    | input i written =>
      by_cases hinputs : l.hasInputs = true
      · simpa [stepLive, hinputs] using change_handle hlive i written
      · simpa [stepLive, hinputs] using .steady (.refl l) (by simp)
    | inputsDropped => exact .steady ⟨rfl, rfl, rfl⟩ (by simp)
    | shutdown now =>
      by_cases hnow : (l.hasShutdown && now) = true
      · obtain ⟨hshutdown, rfl⟩ := Bool.and_eq_true_iff.1 hnow
        simp only [stepLive, hnow, if_true]
        exact .hungUp hlive rfl rfl (.inr (.inl ⟨rfl, hshutdown⟩))
      · simp only [stepLive, hnow, Bool.false_eq_true, if_false]
        refine .steady (.refl l) fun _ => ⟨by simp, by simp, ?_⟩
        rintro ⟨⟩
        simpa using hnow
    | shutdownDropped => exact .untold rfl rfl rfl rfl
    | placed ref g => exact .steady ⟨rfl, rfl, rfl⟩ (by simp)
  next hended =>
    cases e with
    | finished number how => exact .steady (.finish decoder l number how) (absurd · hended)
    | placed ref g => exact .steady ⟨rfl, rfl, rfl⟩ (absurd · hended)
    | received _ | pinged _ | closeReceived | lost | input _ _ | inputsDropped | shutdown _
      | shutdownDropped => exact .steady (.refl l) (absurd · hended)

/-! ### What a run does -/

/-- The session is connected if its socket is open, and disconnected otherwise. -/
def Matched (l : Link) : Prop :=
  l.stage.session.status = if l.live then .connected else .disconnected

theorem Matched.change (h : Matched l) (hc : Change l e l') : Matched l' := by
  unfold Matched at h ⊢
  cases hc with
  | steady hsteady => rw [hsteady.status, hsteady.live, h]
  | untold _ hlive _ hstatus => rw [hstatus, hlive, h]
  | hungUp _ hlive hstatus => rw [hstatus, hlive]; rfl

/-- **A session is connected exactly as long as its socket is open.** -/
theorem status_run (decoder : Decoder) (h : Matched l) (events : List Event) :
    Matched (l.run decoder events) := by
  induction events generalizing l with
  | nil => exact h
  | cons e events ih => exact ih (h.change (change_step decoder l e))

/-- After some events the socket is open unless they hold its end, and as long as it is open the
session may be told to shut down unless they say that it will not be. -/
structure Open (events : List Event) (l : Link) : Prop where
  live : l.live = true ↔ ¬ Ends events
  told : l.live = true → (l.hasShutdown = true ↔ .shutdownDropped ∉ events)

/-- What one more event does, if what is written to the socket arrives. -/
theorem Open.change (h : Open events l) (hc : Change l e l') (hwritten : ∀ i, e ≠ .input i false) :
    Open (events ++ [e]) l' := by
  cases hc with
  | steady hsteady hopen =>
    by_cases hlive : l.live = true
    · obtain ⟨hlost, hdropped, hshutdown⟩ := hopen hlive
      have hends : ¬ Ends (events ++ [e]) := by
        rw [ends_concat]
        rintro (hbefore | rfl | ⟨rfl, htold⟩)
        · exact h.live.1 hlive hbefore
        · exact hlost rfl
        · exact Bool.eq_false_iff.1 (hshutdown rfl) ((h.told hlive).2 htold)
      refine ⟨?_, fun _ => ?_⟩
      · simp [hsteady.live, hlive, hends]
      · simp [hsteady.hasShutdown, h.told hlive, hdropped.symm]
    · have hends : Ends events := not_not.1 fun hnot => hlive (h.live.2 hnot)
      have hended : l'.live ≠ true := by rwa [hsteady.live]
      refine ⟨?_, fun hlive' => absurd hlive' hended⟩
      simp [hended, ends_concat, hends]
  | untold he hlive hshutdown hstatus =>
    subst he
    refine ⟨?_, fun _ => ?_⟩
    · simp [hlive, h.live, ends_concat]
    · simp [hshutdown]
  | hungUp hopen hlive hstatus he =>
    have hends : Ends (events ++ [e]) := by
      rw [ends_concat]
      rcases he with rfl | ⟨rfl, hshutdown⟩ | ⟨i, rfl⟩
      · exact .inr (.inl rfl)
      · exact .inr (.inr ⟨rfl, (h.told hopen).1 hshutdown⟩)
      · exact absurd rfl (hwritten i)
    refine ⟨?_, fun hlive' => ?_⟩
    · simp [hlive, hends]
    · simp [hlive] at hlive'

/-- **The socket is open exactly until the first event that ends it**, if what is written to it
arrives. -/
theorem open_run (decoder : Decoder) (hlive : l.live = true) (hshutdown : l.hasShutdown = true)
    (hwrites : ∀ i, .input i false ∉ events) : Open events (l.run decoder events) := by
  -- the events are taken from the end, since what ends a session depends on those before it
  induction events using List.reverseRecOn with
  | nil => exact ⟨by simp [run, hlive, not_ends_nil], by simp [run, hshutdown]⟩
  | append_singleton events e ih =>
    have hbefore := ih fun i hmem => hwrites i (List.mem_append_left _ hmem)
    have hlast : ∀ i, e ≠ .input i false := by
      rintro i rfl
      exact hwrites i (List.mem_append_right _ List.mem_cons_self)
    rw [run_append]
    exact hbefore.change (change_step decoder _ e) hlast

/-- A session reports what it is once its socket is at its end, and so that it is disconnected. -/
theorem report_of_result? {report : Snapshot} (h : Matched l) (hreport : l.result? = some report) :
    report = l.stage.session.snapshot ∧ report.status = .disconnected := by
  unfold result? at hreport
  split at hreport
  next hdone =>
    cases hreport
    have hlive : l.live = false := by simpa using (Bool.and_eq_true_iff.1 hdone).1
    refine ⟨rfl, ?_⟩
    rw [Matched, hlive] at h
    exact h
  · cases hreport

/-- **The life of a session.**  A session that is not attached gives an error, whoever might answer,
and nothing is begun.  One that is attached and whose socket cannot be opened is disconnected, and
reports so at once, with all else as it was.  Otherwise it is connected, and from then on, whatever
happens, it is connected as long as its socket is open and disconnected afterwards.  It reports no
earlier than that; it does report once every frame has had its end.  As long as what is written to
the socket arrives, the socket is open until it is lost or the session is told to shut down, and
nothing else ends it. -/
theorem lifecycle (decoder : Decoder) (network : Network) {stage : Stage}
    (hstage : stage.Reachable) :
    ((∃ e, start network stage = .error e) ↔ stage.session.status ≠ .attached) ∧
      (stage.session.status ≠ .attached →
        ∀ anyone : Network, start anyone stage = .error .notAttached) ∧
      (stage.session.status = .attached → network.opens stage.session.config = false →
        let l₀ := begin { stage with session.status := .disconnected } false
        start network stage = .ok l₀ ∧
          l₀.result? = some { stage.session.snapshot with status := .disconnected }) ∧
      (stage.session.status = .attached → network.opens stage.session.config = true →
        let l₀ := begin { stage with session.status := .connected } true
        start network stage = .ok l₀ ∧
          ∀ events : List Event,
            let l := l₀.run decoder events
            (l.stage.session.status = if l.live then .connected else .disconnected) ∧
              ((∀ i, .input i false ∉ events) → (l.live = true ↔ ¬ Ends events)) ∧
              (∀ report, l.result? = some report →
                report = l.stage.session.snapshot ∧ report.status = .disconnected) ∧
              (l.live = false → ∀ ends : List (Nat × Completion),
                (ends.map Prod.fst).Perm (l.jobs.map Job.number) →
                  ∃ report, (l.run decoder (ends.map fun c => .finished c.1 c.2)).result? =
                    some report ∧ report.status = .disconnected)) := by
  refine ⟨?_, ?_, ?_, ?_⟩
  · unfold start
    constructor
    · rintro ⟨e, he⟩ hattached
      rw [if_pos hattached] at he
      split at he <;> cases he
    · intro hattached
      exact ⟨.notAttached, if_neg hattached⟩
  · intro hattached anyone
    exact if_neg hattached
  · intro hattached hopens l₀
    refine ⟨?_, rfl⟩
    rw [start, if_pos hattached, hopens]
    rfl
  · intro hattached hopens l₀
    have hstart : start network stage = .ok l₀ := by
      rw [start, if_pos hattached, hopens]
      rfl
    refine ⟨hstart, ?_⟩
    intro events l
    obtain ⟨ref, hbegun⟩ := begun_of_start hstage hstart
    have hshowing : Showing ref l := (accounts_run decoder hbegun events).1
    have hmatched : Matched l₀ := rfl
    refine ⟨status_run decoder hmatched events, ?_, ?_, ?_⟩
    · intro hwrites
      exact (open_run decoder rfl rfl hwrites).live
    · intro report hreport
      exact report_of_result? (status_run decoder hmatched events) hreport
    · intro hlive ends hends
      have hdone : (l.run decoder (ends.map fun c => .finished c.1 c.2)).result? = some _ :=
        result?_of_all_finished hshowing hlive hends
      refine ⟨_, hdone, ?_⟩
      rw [← run_append] at hdone ⊢
      exact (report_of_result? (status_run decoder hmatched _) hdone).2

/-- Nobody answers, and the session is disconnected at once; or somebody does, and one frame is
still being decoded when the session is told to shut down.  What came before has ended nothing. -/
theorem lifecycle_small :
    let events : List Event :=
      [.received (.binary (Frame.encode ⟨⟨0, 0, 1, 1⟩, [7]⟩)), .received (.binary [1]),
        .inputsDropped, .shutdown false, .shutdown true, .lost]
    let l₀ := begin { Stage.small with session.status := .connected } true
    let l := l₀.run Frame.picture events
    Stage.small.Reachable ∧
      start .missing Stage.small =
        .ok (begin { Stage.small with session.status := .disconnected } false) ∧
      start (.hosts fun _ => true) Stage.small = .ok l₀ ∧
      (l₀.run Frame.picture (events.take 4)).live = true ∧ l.live = false ∧
      l.jobs.map Job.number = [0] ∧ l.result? = none ∧
      ∃ report, (l.run Frame.picture [.finished 0 .decided]).result? = some report ∧
        report.status = .disconnected := by
  intro events l₀ l
  obtain ⟨-, -, hfailed, -⟩ := lifecycle Frame.picture .missing Stage.reachable_small
  obtain ⟨hmissing, -⟩ := hfailed rfl rfl
  obtain ⟨-, -, -, hconnected⟩ :=
    lifecycle Frame.picture (.hosts fun _ => true) Stage.reachable_small
  obtain ⟨hstart, hrun⟩ := hconnected rfl rfl
  have hlive : l.live = false := by decide +kernel
  have hjobs : l.jobs.map Job.number = [0] := by decide +kernel
  have hopen : (l₀.run Frame.picture (events.take 4)).live = true := by
    refine ((hrun (events.take 4)).2.1 ?_).2 ?_
    · intro i
      simp [events]
    · rintro (hlost | ⟨before, after, hsplit, -⟩)
      · simp [events] at hlost
      · have hmem : Event.shutdown true ∈ events.take 4 := by simp [hsplit]
        simp [events] at hmem
  obtain ⟨report, hreport, hstatus⟩ :=
    (hrun events).2.2.2 hlive [(0, .decided)] (by rw [hjobs]; rfl)
  refine ⟨Stage.reachable_small, hmissing, hstart, hopen, hlive, hjobs, ?_, report, hreport,
    hstatus⟩
  decide +kernel

end RemoteDisplay.Link
