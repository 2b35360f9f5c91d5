/-
**No frame is lost, and none is counted twice.**

A message either is a frame or is dropped.  A frame is decoded once, whatever becomes of it; then
its picture is painted, or it is dropped.  So at any moment the messages handled are those painted,
those dropped and those being decoded, and every frame is either being decoded or has had its end,
exactly once.  Nothing is begun after the end of the socket, but everything is brought to its end
before the session reports.

Main definitions:

* `RemoteDisplay.Link.Accounts` — the counters of a session and its frames agree with its history.

Main results:

* `RemoteDisplay.Link.accounts_turn`, `RemoteDisplay.Link.accounts_run` — every turn keeps the
  accounts, and so does every run;
* `RemoteDisplay.Link.result?_of_all_finished` — once the socket is at its end, the session reports
  as soon as every frame has had its end, in whatever order;
* `RemoteDisplay.Link.frames_conserved` — **the accounts of a run**.
-/
import Mathlib.Data.List.Perm.Basic
import RemoteDisplay.Proofs.Link.History

set_option relaxedAutoImplicit false
set_option autoImplicit false

namespace RemoteDisplay.Link

open Incident

variable {decoder : Decoder} {ref : CanvasRef} {l l' : Link} {before : Counters}
  {past : List Incident}

/-! ### The accounts -/

/-- The decoding of a frame has led to a picture. -/
def pictured (decoder : Decoder) (c : Job × Completion) : Bool :=
  (c.2.picture decoder c.1.frame).isOk

/-- The counters of a session have grown with its history, and its frames, numbered in order of
their arrival, are those being decoded and those that have had their end. -/
structure Accounts (decoder : Decoder) (before : Counters) (l : Link) (past : List Incident) :
    Prop where
  received : l.stage.session.counters.framesReceived =
    before.framesReceived + (accepted past).length
  painted : l.stage.session.counters.framesPainted =
    before.framesPainted + (completions past).countP (pictured decoder)
  dropped : l.stage.session.counters.framesDropped =
    before.framesDropped + (messages past).countP (fun m => m.frame?.isNone) +
      (completions past).countP (fun c => !pictured decoder c)
  started : l.started = (accepted past).length
  frames : (l.jobs ++ (completions past).map Prod.fst).Perm ((accepted past).mapIdx Job.mk)

/-- The accounts depend on nothing but messages, completions, frames and their counters. -/
theorem Accounts.of_same {past' : List Incident} (h : Accounts decoder before l past)
    (hmessages : messages past' = messages past)
    (hcompletions : completions past' = completions past)
    (hreceived : l'.stage.session.counters.framesReceived =
      l.stage.session.counters.framesReceived)
    (hpainted : l'.stage.session.counters.framesPainted = l.stage.session.counters.framesPainted)
    (hdropped : l'.stage.session.counters.framesDropped = l.stage.session.counters.framesDropped)
    (hjobs : l'.jobs = l.jobs) (hstarted : l'.started = l.started) :
    Accounts decoder before l' past' where
  received := by rw [hreceived, accepted, hmessages, h.received, accepted]
  painted := by rw [hpainted, hcompletions, h.painted]
  dropped := by rw [hdropped, hmessages, hcompletions, h.dropped]
  started := by rw [hstarted, accepted, hmessages, h.started, accepted]
  frames := by
    rw [hjobs, accepted, hmessages, hcompletions]
    exact h.frames

/-- A message that is a frame is decoded from now on. -/
theorem Accounts.accept {m : Message} {f : Frame} (h : Accounts decoder before l past)
    (hf : m.frame? = some f) :
    Accounts decoder before
      { l with
        stage.session := l.stage.session.countReceived
        jobs := l.jobs ++ [⟨l.started, f⟩]
        started := l.started + 1 } (past ++ [.message m]) where
  received := by
    simp [Session.countReceived, h.received, hf]
    omega
  painted := by simp [Session.countReceived, h.painted]
  dropped := by simp [Session.countReceived, h.dropped, hf]
  started := by simp [h.started, hf]
  frames := by
    have hnew : (accepted (past ++ [.message m])).mapIdx Job.mk =
        (accepted past).mapIdx Job.mk ++ [⟨l.started, f⟩] := by
      simp [hf, List.mapIdx_concat, h.started]
    -- the new frame comes after those being decoded, and so before those that have had their end
    have hlast : (l.jobs ++ [Job.mk l.started f] ++ (completions past).map Prod.fst).Perm
        (l.jobs ++ (completions past).map Prod.fst ++ [Job.mk l.started f]) := by
      rw [List.append_assoc, List.append_assoc]
      exact List.perm_append_comm.append_left l.jobs
    rw [hnew]
    simpa using hlast.trans (h.frames.append_right _)

/-- A frame that has had its end is not being decoded any more. -/
theorem perm_erase_append {job : Job} (h : job ∈ l.jobs) (ended : List Job) :
    (l.jobs.erase job ++ (ended ++ [job])).Perm (l.jobs ++ ended) := by
  have hfront : (l.jobs ++ ended).Perm (job :: (l.jobs.erase job ++ ended)) :=
    (List.perm_cons_erase h).append_right ended
  refine List.Perm.trans ?_ hfront.symm
  rw [← List.append_assoc]
  exact List.perm_append_singleton job _

/-- A frame whose decoding comes to its end counts as painted or as dropped. -/
theorem Accounts.complete {job : Job} {how : Completion} (h : Accounts decoder before l past)
    (hjob : job ∈ l.jobs) (hjobs : l'.jobs = l.jobs.erase job) (hstarted : l'.started = l.started)
    (hcounters : l'.stage.session.counters =
      (if pictured decoder (job, how) then l.stage.session.countPainted
        else l.stage.session.countDropped).counters) :
    Accounts decoder before l' (past ++ [.completion job how]) := by
  refine ⟨?_, ?_, ?_, by simp [hstarted, h.started], ?_⟩
  · rw [hcounters]
    split <;> simp [Session.countPainted, Session.countDropped, h.received]
  · rw [hcounters]
    split <;> simp_all [Session.countPainted, Session.countDropped, h.painted, Nat.add_assoc]
  · rw [hcounters]
    split <;> simp_all [Session.countPainted, Session.countDropped, h.dropped, Nat.add_assoc]
  · rw [hjobs]
    simpa using (perm_erase_append hjob _).trans h.frames

/-- Every turn keeps the accounts. -/
theorem accounts_turn {i? : Option Incident} (h : Accounts decoder before l past)
    (ht : Turn decoder ref l i? l') : Accounts decoder before l' (past ++ i?.toList) := by
  cases ht with
  | quiet hq =>
    refine h.of_same ?_ ?_ ?_ ?_ ?_ hq.jobs hq.started
    · simp
    · simp
    all_goals rw [hq.counters]
  | accepted _ hf => exact h.accept hf
  | refused _ hf =>
    refine ⟨?_, ?_, ?_, ?_, ?_⟩
    · simp [Session.countDropped, h.received, hf]
    · simp [Session.countDropped, h.painted]
    · simp [Session.countDropped, h.dropped, hf]
      omega
    · simp [h.started, hf]
    · simpa [hf] using h.frames
  | painted hjob himage =>
    refine h.complete hjob rfl rfl ?_
    simp [pictured, himage, Except.isOk, Except.toBool, Stage.drawOn]
  | failed hjob he =>
    refine h.complete hjob rfl rfl ?_
    simp [pictured, he, Except.isOk, Except.toBool]
  | silent | reported | unsent => exact h.of_same (by simp) (by simp) rfl rfl rfl rfl rfl

/-- A message is a frame or it is none. -/
theorem length_messages (past : List Incident) :
    (messages past).length =
      (accepted past).length + (messages past).countP (fun m => m.frame?.isNone) := by
  rw [accepted]
  induction messages past with
  | nil => rfl
  | cons m ms ih =>
    cases hf : m.frame? <;> simp [hf, ih] <;> omega

/-! ### Everything has its end -/

/-- A frame has its end once. -/
theorem Turn.jobs_completion {job : Job} {how : Completion}
    (ht : Turn decoder ref l (some (.completion job how)) l') :
    l'.jobs = l.jobs.erase job ∧ l'.live = l.live := by
  cases ht with
  | painted => exact ⟨rfl, rfl⟩
  | failed => exact ⟨rfl, rfl⟩

/-- Once the socket is at its end, the session reports as soon as every frame has had its end, in
whatever order. -/
theorem result?_of_all_finished (h : Showing ref l) (hlive : l.live = false)
    {ends : List (Nat × Completion)} (hends : (ends.map Prod.fst).Perm (l.jobs.map Job.number)) :
    (l.run decoder (ends.map fun c => .finished c.1 c.2)).result? =
      some (l.run decoder (ends.map fun c => .finished c.1 c.2)).stage.session.snapshot := by
  -- each end takes one frame away, until none is left
  induction ends generalizing l with
  | nil =>
    have hjobs : l.jobs = [] := List.map_eq_nil_iff.1 (List.nil_perm.1 hends)
    simp [run, result?, hlive, hjobs]
  | cons c ends ih =>
    obtain ⟨number, how⟩ := c
    have hmem : number ∈ l.jobs.map Job.number := hends.subset List.mem_cons_self
    obtain ⟨job₀, hjob₀, hnumber₀⟩ := List.mem_map.1 hmem
    obtain ⟨job, hfind⟩ : ∃ job, (l.jobs.find? fun job => job.number == number) = some job :=
      Option.isSome_iff_exists.1 (List.find?_isSome.2 ⟨job₀, hjob₀, by simp [hnumber₀]⟩)
    have hnumber : job.number = number := by simpa using List.find?_some hfind
    have hincident : l.incident? (.finished number how) = some (.completion job how) := by
      simp [incident?, hfind]
    have ht : Turn decoder ref l _ _ := turn_step h (.finished number how)
    rw [hincident] at ht
    obtain ⟨hjobs, hlive'⟩ := ht.jobs_completion
    have hfront : (l.jobs.map Job.number).Perm
        (number :: (l.jobs.erase job).map Job.number) := by
      rw [← hnumber]
      exact (List.perm_cons_erase (List.mem_of_find?_eq_some hfind)).map Job.number
    refine ih (showing_turn h ht) (hlive'.trans hlive) ?_
    rw [hjobs]
    exact (hends.trans hfront).cons_inv

/-! ### The accounts of a run -/

/-- The accounts of a session begin with its counters, and every run keeps them. -/
theorem accounts_run (decoder : Decoder) {stage : Stage} {l₀ : Link} (h : Begun stage ref l₀)
    (events : List Event) :
    Showing ref (l₀.run decoder events) ∧
      Accounts decoder stage.session.counters (l₀.run decoder events)
        (l₀.history decoder events) := by
  refine run_induction h.showing ?_ (fun _ haccounts ht => accounts_turn haccounts ht) events
  refine ⟨?_, ?_, ?_, ?_, ?_⟩
  all_goals simp [h.counters, h.started, h.jobs, accepted, messages, completions]

/-- A frame that has had its end is the one that arrived under its number. -/
theorem Accounts.frame_of_completion (h : Accounts decoder before l past) {c : Job × Completion}
    (hc : c ∈ completions past) : (accepted past)[c.1.number]? = some c.1.frame := by
  have hjob : c.1 ∈ l.jobs ++ (completions past).map Prod.fst :=
    List.mem_append_right _ (List.mem_map_of_mem hc)
  obtain ⟨k, hk, hjob⟩ := List.mem_mapIdx.1 (h.frames.subset hjob)
  rw [← hjob]
  exact List.getElem?_eq_getElem hk

/-- **No frame is lost, and none is counted twice.**  From any attached session on, and at any
moment of any run, the messages handled are the frames painted, what was dropped and the frames
being decoded; every frame, numbered in order of its arrival, is being decoded or has had its end,
once, and has then been painted or dropped.  After the end of the socket no decoding begins, and the
session reports exactly when all frames have had their end. -/
theorem frames_conserved (decoder : Decoder) {network : Network} {stage : Stage} {l₀ : Link}
    (hstage : stage.Reachable) (hstart : start network stage = .ok l₀) (events : List Event) :
    let l := l₀.run decoder events
    let past := l₀.history decoder events
    let before := stage.session.counters
    let after := l.stage.session.counters
    after.framesPainted + after.framesDropped + l.jobs.length =
        before.framesPainted + before.framesDropped + (messages past).length ∧
      after.framesReceived = before.framesReceived + (accepted past).length ∧
      (accepted past).length = l.jobs.length + (completions past).length ∧
      (l.jobs ++ (completions past).map Prod.fst).Perm ((accepted past).mapIdx Job.mk) ∧
      after.framesPainted =
        before.framesPainted + (completions past).countP (pictured decoder) ∧
      after.framesDropped =
        before.framesDropped + (messages past).countP (fun m => m.frame?.isNone) +
          (completions past).countP (fun c => !pictured decoder c) ∧
      (l.live = false → ∀ later : List Event,
        messages (l.history decoder later) = [] ∧ (l.run decoder later).started = l.started) ∧
      (l.live = false → ∀ ends : List (Nat × Completion),
        (ends.map Prod.fst).Perm (l.jobs.map Job.number) →
          (l.run decoder (ends.map fun c => .finished c.1 c.2)).result?.isSome = true) ∧
      (∀ report : Snapshot, l.result? = some report →
        report = l.stage.session.snapshot ∧ l.jobs = [] ∧
          ((completions past).map Prod.fst).Perm ((accepted past).mapIdx Job.mk)) := by
  obtain ⟨ref, hbegun⟩ := begun_of_start hstage hstart
  obtain ⟨hshowing, haccounts⟩ := accounts_run decoder hbegun events
  have hlength := haccounts.frames.length_eq
  rw [List.length_append, List.length_map, List.length_mapIdx] at hlength
  have hmessages := length_messages (l₀.history decoder events)
  have hcompletions : (completions (l₀.history decoder events)).length =
      (completions (l₀.history decoder events)).countP (pictured decoder) +
        (completions (l₀.history decoder events)).countP (fun c => !pictured decoder c) := by
    simpa using List.length_eq_countP_add_countP (pictured decoder)
  refine ⟨?_, haccounts.received, hlength.symm, haccounts.frames, haccounts.painted,
    haccounts.dropped, ?_, ?_, ?_⟩
  · rw [haccounts.painted, haccounts.dropped]
    omega
  · intro hlive later
    have hrested := rested_of_ended decoder hshowing hlive later
    exact ⟨hrested.messages, hrested.started⟩
  · intro hlive ends hends
    rw [result?_of_all_finished hshowing hlive hends]
    rfl
  · intro report hreport
    unfold result? at hreport
    split at hreport
    next hdone =>
      cases hreport
      -- a report is given only if nothing is being decoded
      have hjobs : (l₀.run decoder events).jobs = [] := by
        simp only [Bool.and_eq_true, List.isEmpty_iff] at hdone
        exact hdone.2
      have hframes := haccounts.frames
      rw [hjobs, List.nil_append] at hframes
      exact ⟨rfl, hjobs, hframes⟩
    · cases hreport

/-- Four messages, of which two are frames: one frame has no picture, and the other is painted after
the end of the socket. -/
theorem frames_conserved_small :
    let decoder : Decoder := fun _ => .ok (.fill 1 1 .clear)
    let events : List Event :=
      [.received (.text "hello"), .received (.binary [1, 2, 3]),
        .received (.binary (Frame.encode ⟨⟨0, 0, 1, 1⟩, [7]⟩)),
        .received (.binary (Frame.encode ⟨⟨1, 1, 2, 2⟩, [8]⟩)),
        .finished 1 (.failed "no image"), .lost, .finished 0 .decided]
    let l₀ := begin (Stage.small.step .opened).1 true
    let l := l₀.run decoder events
    Stage.small.Reachable ∧ start (.hosts fun _ => true) Stage.small = .ok l₀ ∧
      l.stage.session.counters.framesPainted + l.stage.session.counters.framesDropped +
        l.jobs.length = 4 ∧
      l.stage.session.counters.framesReceived = 2 ∧
      l.stage.session.counters.framesPainted = 1 ∧
      l.stage.session.counters.framesDropped = 3 := by
  intro decoder events l₀ l
  have hstart : start (.hosts fun _ => true) Stage.small = .ok l₀ := rfl
  have hmessages : (messages (l₀.history decoder events)).length = 4 := by decide +kernel
  have haccepted : (accepted (l₀.history decoder events)).length = 2 := by decide +kernel
  have hrefused : (messages (l₀.history decoder events)).countP (fun m => m.frame?.isNone) = 2 := by
    decide +kernel
  have hpictured : (completions (l₀.history decoder events)).countP (pictured decoder) = 1 := by
    decide +kernel
  have hfailed :
      (completions (l₀.history decoder events)).countP (fun c => !pictured decoder c) = 1 := by
    decide +kernel
  obtain ⟨htotal, hreceived, -, -, hpainted, hdropped, -⟩ :=
    frames_conserved decoder Stage.reachable_small hstart events
  rw [hmessages] at htotal
  rw [haccepted] at hreceived
  rw [hpictured] at hpainted
  rw [hrefused, hfailed] at hdropped
  exact ⟨Stage.reachable_small, hstart, htotal, hreceived, hpainted, hdropped⟩

end RemoteDisplay.Link
