/-
**What the user does reaches the host.**

While what is written to the socket arrives, the texts that a host receives are the commands that
report what the user does, in order and each of them once, and the host reads from each text the
command that was meant.  Nothing is sent that the user did not do: when a socket comes to its end
while the pointer is pressed, no release is made up, and what the user does later is not reported.

Main definitions:

* `RemoteDisplay.Link.AllWritten` — whatever was written to the socket has arrived;
* `RemoteDisplay.Link.Delivers` — what has been sent, and the pointer, follow from what the user has
  done.

Main results:

* `RemoteDisplay.Link.delivers_turn` — every turn keeps this up;
* `RemoteDisplay.Link.commands_delivered` — **the commands of a run**.
-/
import RemoteDisplay.Proofs.Command.RoundTrip
import RemoteDisplay.Proofs.Link.History

set_option relaxedAutoImplicit false
set_option autoImplicit false

namespace RemoteDisplay.Link

open Incident

variable {decoder : Decoder} {ref : CanvasRef} {l l' : Link} {session : Session}
  {past : List Incident} {consumed : List (Geometry × Input)}

/-- Whatever was written to the socket while the user did something has arrived. -/
def AllWritten (past : List Incident) : Prop := ∀ g i, .input g i false ∉ past

/-- If everything that is written arrives, it has arrived in the history too. -/
theorem allWritten_history (decoder : Decoder) (l : Link) {events : List Event}
    (h : ∀ i, .input i false ∉ events) : AllWritten (l.history decoder events) := by
  induction events generalizing l with
  | nil =>
    intro g i hmem
    cases hmem
  | cons e events ih =>
    intro g i hmem
    rcases List.mem_append.1 hmem with hfirst | hlater
    · -- only an event from the user is handled as one
      have hincident : l.incident? e = some (.input g i false) := by simpa using hfirst
      have he : e = .input i false := by
        unfold incident? at hincident
        split at hincident <;> simp_all
      exact h i (he ▸ List.mem_cons_self)
    · exact ih _ (fun j hj => h j (List.mem_cons_of_mem e hj)) g i hlater

/-- What has been sent to the host, the count of it, and the pointer follow from what the user has
done since a session was as given; no command has been refused. -/
structure Delivers (session : Session) (consumed : List (Geometry × Input)) (l : Link)
    (past : List Incident) : Prop where
  inputs : inputs past = consumed.map fun c => (some c.1, c.2)
  texts : l.texts = (session.pointer.follow consumed).2.map Command.text
  pointer : l.stage.session.pointer = (session.pointer.follow consumed).1
  sent : l.stage.session.counters.commandsSent = session.counters.commandsSent + l.texts.length
  rejected : l.stage.session.counters.commandsRejected = session.counters.commandsRejected

/-- What has been sent depends on nothing but the user, the pointer, the texts and their
counters. -/
theorem Delivers.of_same {past' : List Incident} (h : Delivers session consumed l past)
    (hinputs : Incident.inputs past' = Incident.inputs past) (htexts : l'.texts = l.texts)
    (hpointer : l'.stage.session.pointer = l.stage.session.pointer)
    (hsent : l'.stage.session.counters.commandsSent = l.stage.session.counters.commandsSent)
    (hrejected : l'.stage.session.counters.commandsRejected =
      l.stage.session.counters.commandsRejected) :
    Delivers session consumed l' past' where
  inputs := hinputs.trans h.inputs
  texts := htexts.trans h.texts
  pointer := hpointer.trans h.pointer
  sent := by rw [hsent, htexts, h.sent]
  rejected := hrejected.trans h.rejected

/-- One more event from the user is followed, whether it is reported or not. -/
theorem Delivers.follow {g : Geometry} {i : Input} {written : Bool} {pointer : Pointer}
    {command : Option Command} (h : Delivers session consumed l past)
    (hi : l.stage.session.pointer.take g i = (pointer, command))
    (htexts : l'.texts = l.texts ++ command.toList.map Command.text)
    (hpointer : l'.stage.session.pointer = pointer)
    (hsent : l'.stage.session.counters.commandsSent =
      l.stage.session.counters.commandsSent + command.toList.length)
    (hrejected : l'.stage.session.counters.commandsRejected =
      l.stage.session.counters.commandsRejected) :
    Delivers session (consumed ++ [(g, i)]) l' (past ++ [.input (some g) i written]) := by
  have hfollow : session.pointer.follow (consumed ++ [(g, i)]) =
      (pointer, (session.pointer.follow consumed).2 ++ command.toList) := by
    rw [Pointer.follow_concat, ← h.pointer, hi]
  refine ⟨?_, ?_, ?_, ?_, hrejected.trans h.rejected⟩
  · simp [h.inputs]
  · rw [htexts, hfollow, h.texts, List.map_append]
  · rw [hpointer, hfollow]
  · rw [hsent, h.sent, htexts, List.length_append, List.length_map, Nat.add_assoc]

/-- Every turn keeps up what has been sent with what the user has done, as long as what is written
arrives. -/
theorem delivers_turn {i? : Option Incident} (h : Delivers session consumed l past)
    (hwritten : AllWritten (past ++ i?.toList)) (ht : Turn decoder ref l i? l') :
    ∃ consumed', Delivers session consumed' l' (past ++ i?.toList) := by
  cases ht with
  | quiet hq =>
    refine ⟨consumed, h.of_same ?_ hq.texts hq.pointer ?_ ?_⟩
    · simp
    all_goals rw [hq.counters]
  | accepted | refused | painted | failed =>
    exact ⟨consumed, h.of_same (by simp) rfl rfl rfl rfl⟩
  | @silent g i _ pointer _ _ hi =>
    exact ⟨consumed ++ [(g, i)], h.follow hi (List.append_nil _).symm rfl rfl rfl⟩
  | @reported g i pointer command _ _ hi =>
    exact ⟨consumed ++ [(g, i)], h.follow hi List.filterMap_append rfl rfl rfl⟩
  | @unsent g i =>
    exact absurd (List.mem_append_right past List.mem_cons_self) (hwritten (some g) i)

/-- **What the user does reaches the host**: from any attached session on, and at any moment of any
run in which what is written to the socket arrives, the texts that have been written are the
commands that report what the user has done, in order, and nothing else; each is read back as the
command that was meant.  As many commands are counted, and none is refused.  After the end of the
socket nothing is written, and the pointer stays as it is. -/
theorem commands_delivered (decoder : Decoder) {network : Network} {stage : Stage} {l₀ : Link}
    (hstage : stage.Reachable) (hstart : start network stage = .ok l₀) {events : List Event}
    (hwrites : ∀ i, .input i false ∉ events) :
    let l := l₀.run decoder events
    ∃ consumed : List (Geometry × Input),
      inputs (l₀.history decoder events) = consumed.map (fun c => (some c.1, c.2)) ∧
      l.texts = (stage.session.pointer.follow consumed).2.map Command.text ∧
      (∀ c ∈ (stage.session.pointer.follow consumed).2, Command.read c.text = .ok c) ∧
      l.stage.session.counters.commandsSent =
        stage.session.counters.commandsSent + l.texts.length ∧
      l.stage.session.counters.commandsRejected = stage.session.counters.commandsRejected ∧
      l.stage.session.pointer = (stage.session.pointer.follow consumed).1 ∧
      (l.live = false → ∀ later : List Event,
        inputs (l.history decoder later) = [] ∧ (l.run decoder later).texts = l.texts ∧
          (l.run decoder later).stage.session.pointer = l.stage.session.pointer) := by
  obtain ⟨ref, hbegun⟩ := begun_of_start hstage hstart
  have htexts : l₀.texts = [] := by rw [texts, hbegun.sent]; rfl
  -- at first the user has done nothing
  have hzero : Delivers stage.session [] l₀ [] := by
    refine ⟨rfl, htexts, hbegun.pointer, ?_, ?_⟩
    · rw [hbegun.counters, htexts, List.length_nil, Nat.add_zero]
    · rw [hbegun.counters]
  obtain ⟨hshowing, hrun⟩ :=
    run_induction
      (P := fun l past => AllWritten past → ∃ consumed, Delivers stage.session consumed l past)
      hbegun.showing (fun _ => ⟨[], hzero⟩)
      (fun _ hP ht hwritten => by
        obtain ⟨consumed, h⟩ := hP fun g i hmem => hwritten g i (List.mem_append_left _ hmem)
        exact delivers_turn h hwritten ht)
      events
  obtain ⟨consumed, h⟩ := hrun (allWritten_history decoder l₀ hwrites)
  refine ⟨consumed, h.inputs, h.texts, fun c _ => Command.read_text c, h.sent, h.rejected,
    h.pointer, ?_⟩
  intro hlive later
  have hrested := rested_of_ended decoder hshowing hlive later
  exact ⟨hrested.inputs, hrested.texts, hrested.pointer⟩

/-- A key and the pointer go down, and the pointer moves on after the canvas has been shown at half
its size; it goes up too late to be reported, and stays pressed. -/
theorem commands_delivered_small :
    let events : List Event :=
      [.input (.key ⟨.down, 30⟩) true, .received (.text "hello"),
        .input (.pointer ⟨.move, ⟨1, 1⟩⟩) true, .input (.pointer ⟨.down, ⟨1, 1⟩⟩) true,
        .placed 0 ⟨2, 2, ⟨0, 0, 1, 1⟩⟩, .input (.pointer ⟨.move, ⟨1, 1⟩⟩) true, .lost,
        .input (.pointer ⟨.up, ⟨1, 1⟩⟩) true]
    let l₀ := begin (Stage.small.step .opened).1 true
    let l := l₀.run Frame.picture events
    Stage.small.Reachable ∧ start (.hosts fun _ => true) Stage.small = .ok l₀ ∧
      (∀ i, .input i false ∉ events) ∧
      l.texts = ["KEYDOWN 30", "MOUSEDOWN 1 1", "MOUSEMOVE 2 2"] ∧
      l.stage.session.counters.commandsSent = 3 ∧
      ∃ consumed : List (Geometry × Input),
        inputs (l₀.history Frame.picture events) = consumed.map (fun c => (some c.1, c.2)) ∧
          l.texts = (Pointer.idle.follow consumed).2.map Command.text ∧
          l.stage.session.pointer = (Pointer.idle.follow consumed).1 := by
  intro events l₀ l
  have hstart : start (.hosts fun _ => true) Stage.small = .ok l₀ := rfl
  have hwrites : ∀ i, .input i false ∉ events := by
    intro i
    simp [events]
  have htexts : l.texts = ["KEYDOWN 30", "MOUSEDOWN 1 1", "MOUSEMOVE 2 2"] := by decide +kernel
  obtain ⟨consumed, hinputs, hfollow, -, hsent, -, hpointer, -⟩ :=
    commands_delivered Frame.picture Stage.reachable_small hstart hwrites
  have hthree : l.stage.session.counters.commandsSent = 3 := by
    rw [hsent, htexts]
    rfl
  -- under its name the run is not computed again to compare the two pointers
  have hrun : l₀.run Frame.picture events = l := rfl
  rw [hrun] at hpointer
  exact ⟨Stage.reachable_small, hstart, hwrites, htexts, hthree, consumed, hinputs, hfollow,
    hpointer⟩

end RemoteDisplay.Link
