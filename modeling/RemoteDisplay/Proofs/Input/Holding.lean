/-
**Moves are reported while the pointer is held.**

The machine that follows the pointer remembers one thing, whether it is pressed.  Told by the events
themselves, the pointer is held if the last of them that was no move was a press; whatever came
before that, and however many moves since, makes no difference.  So which events are reported can be
said without the machine: all of them, but for the moves that come while the pointer is not held.

Main definitions:

* `RemoteDisplay.Pointer.Track` — what a pointer does, under the geometries of the canvas;
* `RemoteDisplay.Pointer.Held` — the last event that was no move was a press;
* `RemoteDisplay.Pointer.reported` — the events that are reported;
* `RemoteDisplay.Pointer.Reports` — what the report of an event says.

Main results:

* `RemoteDisplay.Pointer.held_concat`, `RemoteDisplay.Pointer.reported_concat` — one more event;
* `RemoteDisplay.Pointer.capture_eq` — the machine knows whether the pointer is held, and reports
  accordingly;
* `RemoteDisplay.Pointer.moves_need_press` — **what is sent for any sequence of events**.
-/
import Mathlib.Data.List.Forall2
import Mathlib.Data.List.Induction
import RemoteDisplay.Proofs.Input.Following

set_option relaxedAutoImplicit false
set_option autoImplicit false

namespace RemoteDisplay

/-- The verb that reports what a pointer does. -/
def PointerEvent.Kind.verb : PointerEvent.Kind → Verb
  | down => .mouseDown
  | up => .mouseUp
  | move => .mouseMove

namespace Pointer

/-- Pointer events, each with the geometry that the canvas has at that moment. -/
abbrev Track : Type := List (Geometry × PointerEvent)

/-- What a machine that begins idle makes of some pointer events: the pointer after them, and the
commands that have been sent. -/
def capture (events : Track) : Pointer × List Command :=
  idle.follow (events.map fun ge => (ge.1, .pointer ge.2))

theorem capture_concat (past : Track) (g : Geometry) (e : PointerEvent) :
    capture (past ++ [(g, e)]) =
      ((capture past).1.after e,
        (capture past).2 ++ if (capture past).1.reports e then [e.command g] else []) := by
  have htoList : ∀ (b : Bool) (c : Command),
      (if b then some c else none).toList = if b then [c] else [] := by
    intro b c
    cases b <;> rfl
  rw [capture, List.map_append, List.map_singleton, follow_concat]
  simp only [take, handle, htoList]
  rfl

/-! ### Whether the pointer is held -/

/-- There is a last event that is no move, and it is a press. -/
def Held (past : Track) : Prop :=
  ((past.map fun ge => ge.2.kind).filter fun kind => kind ≠ .move).getLast? = some .down

instance (past : Track) : Decidable (Held past) := inferInstanceAs (Decidable (_ = _))

theorem not_held_nil : ¬ Held [] := by
  intro h
  cases h

/-- A press holds the pointer, a release lets it go, and a move leaves it as it is. -/
theorem held_concat (past : Track) (g : Geometry) (e : PointerEvent) :
    Held (past ++ [(g, e)]) ↔
      match e.kind with
      | .down => True
      | .up => False
      | .move => Held past := by
  unfold Held
  cases hkind : e.kind <;> simp [List.filter_append, hkind]

/-! ### What is reported -/

/-- An event is reported after some others: it is no move, or the pointer is held. -/
def IsReported (past : Track) (e : PointerEvent) : Prop := e.kind ≠ .move ∨ Held past

instance (past : Track) (e : PointerEvent) : Decidable (IsReported past e) :=
  inferInstanceAs (Decidable (_ ∨ _))

/-- The events that are reported, in order: all but the moves that come while the pointer is not
held. -/
def reported (events : Track) : Track :=
  (events.zipIdx.filter fun e => IsReported (events.take e.2) e.1.2).map Prod.fst

theorem reported_concat (past : Track) (g : Geometry) (e : PointerEvent) :
    reported (past ++ [(g, e)]) =
      reported past ++ if IsReported past e then [(g, e)] else [] := by
  have hpast : (past.zipIdx.filter fun ie => IsReported ((past ++ [(g, e)]).take ie.2) ie.1.2) =
      past.zipIdx.filter fun ie => IsReported (past.take ie.2) ie.1.2 := by
    refine List.filter_congr ?_
    intro ie hie
    -- what came before an earlier event is not changed by a later one
    have hle : ie.2 ≤ past.length := Nat.le_of_lt (List.snd_lt_of_mem_zipIdx hie)
    rw [List.take_append_of_le_length hle]
  rw [reported, List.zipIdx_append, List.filter_append, hpast, List.map_append]
  by_cases h : IsReported past e <;> simp [reported, h]

/-- What the report of an event says: what the pointer did, and at which point of the canvas, as the
canvas was shown then. -/
def Reports (ge : Geometry × PointerEvent) (c : Command) : Prop :=
  c.verb = ge.2.kind.verb ∧
    c.args = [(ge.1.toCanvas ge.2.position).x, (ge.1.toCanvas ge.2.position).y]

theorem reports_command (ge : Geometry × PointerEvent) : Reports ge (ge.2.command ge.1) := by
  obtain ⟨g, kind, position⟩ := ge
  cases kind <;> exact ⟨rfl, rfl⟩

/-! ### The machine -/

/-- The machine knows whether the pointer is held, and has reported the events that are to be. -/
theorem capture_eq (events : Track) :
    ((capture events).1 = pressed ↔ Held events) ∧
      (capture events).2 = (reported events).map fun ge => ge.2.command ge.1 := by
  induction events using List.reverseRecOn with
  | nil =>
    refine ⟨?_, rfl⟩
    constructor
    · intro h
      cases h
    · intro h
      exact absurd h not_held_nil
  | append_singleton past ge ih =>
    obtain ⟨g, e⟩ := ge
    obtain ⟨hpointer, hcommands⟩ := ih
    have hreports : (capture past).1.reports e = true ↔ IsReported past e := by
      simp [reports, IsReported, hpointer]
    rw [capture_concat, reported_concat, held_concat]
    constructor
    · unfold after
      cases e.kind with
      | down => simp
      | up => simp
      | move => exact hpointer
    · rw [hcommands]
      simp only [hreports, List.map_append]
      split <;> rfl

/-- **Moves need a press.**  Whatever a pointer does, under whatever geometries: at every moment the
machine is pressed just if the last event that was no move was a press; and what it sends are, in
order, the reports of all events but of those moves that came while the pointer was not held.  Each
says what the pointer did, and the point of the canvas under it by the geometry of that moment. -/
theorem moves_need_press (events : Track) :
    (∀ past, past <+: events → ((capture past).1 = pressed ↔ Held past)) ∧
      (capture events).2 = (reported events).map (fun ge => ge.2.command ge.1) ∧
      List.Forall₂ Reports (reported events) (capture events).2 := by
  refine ⟨?_, (capture_eq events).2, ?_⟩
  · intro past _
    exact (capture_eq past).1
  · rw [(capture_eq events).2, List.forall₂_map_right_iff]
    exact List.forall₂_same.2 fun ge _ => reports_command ge

/-- A release without a press, and a press after a press, are reported; of the moves, the one before
the press and the one after the last release are not. -/
theorem moves_need_press_small :
    let near : Geometry := .unscaled 9 9
    let far : Geometry := ⟨9, 9, ⟨1, 1, 9, 9⟩⟩
    let event (kind : PointerEvent.Kind) : PointerEvent := ⟨kind, ⟨3, 2⟩⟩
    let before : Track :=
      [(near, event .up), (near, event .move), (near, event .down), (near, event .down)]
    let events : Track := before ++ [(far, event .move), (near, event .up), (near, event .move)]
    before <+: events ∧ (capture before).1 = pressed ∧ Held before ∧
      (capture events).2 =
        [.release 3 2, .press 3 2, .press 3 2, .move 2 1, .release 3 2] := by
  intro near far event before events
  have hbefore : before <+: events := List.prefix_append _ _
  have hheld : Held before := by decide
  obtain ⟨hpressed, hcommands, -⟩ := moves_need_press events
  refine ⟨hbefore, (hpressed before hbefore).2 hheld, hheld, ?_⟩
  rw [hcommands]
  decide +kernel

end Pointer

end RemoteDisplay
