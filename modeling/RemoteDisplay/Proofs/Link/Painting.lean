/-
**What is painted depends on what turns out to have a picture, and when.**

Frames are decoded beside each other.  What is painted is each frame that turns out to have a
picture, when it does, at its own rectangle and with its own picture; and the pixels of the canvas
are those at the beginning with these pictures painted over them, one after another.  Nothing else
has any influence on them.

Main definitions:

* `RemoteDisplay.Stage.pixels?` — the pixels of the canvas that a session paints on;
* `RemoteDisplay.Link.successes` — the frames that have turned out to have a picture;
* `RemoteDisplay.Link.Shows` — a frame is painted by a draw;
* `RemoteDisplay.Link.Paints` — what has been painted follows from these frames.

Main results:

* `RemoteDisplay.Link.paints_turn` — every turn keeps this up;
* `RemoteDisplay.Link.paints_follow_completions` — **the draws and the pixels of a run**, and why
  two runs have the same.
-/
import Mathlib.Data.List.Forall2
import RemoteDisplay.Proofs.Link.Conservation
import RemoteDisplay.Proofs.Raster.Sequence

set_option relaxedAutoImplicit false
set_option autoImplicit false

namespace RemoteDisplay

/-! ### Pixels -/

/-- The pixels of the canvas that the session paints on, if it keeps any. -/
def Stage.pixels? (s : Stage) : Option Image :=
  s.session.context.bind fun ref => s.canvases[ref]?.bind Canvas.image?

/-- The pixels depend on nothing but which canvas is painted on and the pixels of the canvases. -/
theorem Stage.pixels?_congr {s s' : Stage} (hcontext : s'.session.context = s.session.context)
    (himages : s'.canvases.map Canvas.image? = s.canvases.map Canvas.image?) :
    s'.pixels? = s.pixels? := by
  have hjoin : ∀ (canvases : Canvases) (ref : CanvasRef),
      canvases[ref]?.bind Canvas.image? = (canvases.map Canvas.image?)[ref]?.join := by
    intro canvases ref
    rw [List.getElem?_map]
    cases canvases[ref]? <;> rfl
  simp only [Stage.pixels?, hcontext, hjoin, himages]

/-- A draw on the canvas that the session paints on is painted over its pixels. -/
theorem Stage.pixels?_drawOn {s : Stage} {ref : CanvasRef} (h : s.session.context = some ref)
    (d : Draw) : (s.drawOn ref d).pixels? = s.pixels?.map fun im => im.draw d.image d.dest := by
  simp only [Stage.pixels?, h, Option.bind_some, Stage.drawOn, List.getElem?_modify_eq]
  cases s.canvases[ref]? with
  | none => rfl
  | some c => simp [Canvas.image?_draw]

namespace Link

open Incident

variable {decoder : Decoder} {ref : CanvasRef} {l l' : Link} {im₀ : Image} {past : List Incident}

/-! ### Draws -/

/-- The frames that have turned out to have a picture, in the order in which they have. -/
def successes (decoder : Decoder) (past : List Incident) : List Frame :=
  ((completions past).filter (pictured decoder)).map fun c => c.1.frame

/-- A frame is painted by a draw: at its own rectangle, with its own picture. -/
def Shows (decoder : Decoder) (f : Frame) (d : Draw) : Prop :=
  d.dest = f.rect ∧ decoder f = .ok d.image

/-- A frame is painted in one way only. -/
theorem rightUnique_shows : Relator.RightUnique (Shows decoder) := by
  intro f d d' h h'
  obtain ⟨dest, image⟩ := d
  obtain ⟨dest', image'⟩ := d'
  obtain ⟨hdest, himage⟩ := h
  obtain ⟨hdest', himage'⟩ := h'
  simp only [himage, Except.ok.injEq] at himage'
  simp only [Draw.mk.injEq]
  exact ⟨hdest.trans hdest'.symm, himage'⟩

/-- Only what the decoder says leads to a picture. -/
theorem decoder_of_picture {f : Frame} {how : Completion} {image : Image}
    (h : how.picture decoder f = .ok image) : decoder f = .ok image := by
  cases how with
  | decided => exact h
  | failed reason => cases h
  | brokeDown reason => cases h

/-- What has been painted are the frames that have turned out to have a picture, and the pixels show
it. -/
structure Paints (decoder : Decoder) (im₀ : Image) (l : Link) (past : List Incident) : Prop where
  draws : List.Forall₂ (Shows decoder) (successes decoder past) l.draws
  pixels : l.stage.pixels? = some (im₀.drawAll l.draws)

/-- Every turn keeps up what has been painted with the frames that have a picture. -/
theorem paints_turn {i? : Option Incident} (hshowing : Showing ref l)
    (h : Paints decoder im₀ l past) (ht : Turn decoder ref l i? l') :
    Paints decoder im₀ l' (past ++ i?.toList) := by
  cases ht with
  | quiet hq =>
    rw [Option.toList_none, List.append_nil]
    refine ⟨?_, ?_⟩
    · rw [hq.draws]
      exact h.draws
    · rw [Stage.pixels?_congr hq.context hq.images, hq.draws]
      exact h.pixels
  | accepted | refused | silent | reported | unsent =>
    refine ⟨?_, h.pixels⟩
    simpa [successes, hangUp, act] using h.draws
  | @painted job how image hjob himage =>
    -- one more frame has a picture, and the last draw is its own
    have hpictured : pictured decoder (job, how) = true := by
      simp [pictured, himage, Except.isOk, Except.toBool]
    have hsuccesses : successes decoder (past ++ [.completion job how]) =
        successes decoder past ++ [job.frame] := by
      simp [successes, hpictured]
    have hshows : Shows decoder job.frame ⟨job.frame.rect, image⟩ :=
      ⟨rfl, decoder_of_picture himage⟩
    refine ⟨?_, ?_⟩
    · rw [Option.toList_some, hsuccesses]
      exact List.rel_append h.draws (.cons hshows .nil)
    · have hcontext :
          (Stage.mk l.stage.session.countPainted l.stage.canvases).session.context = some ref :=
        hshowing.context
      have hbefore : (Stage.mk l.stage.session.countPainted l.stage.canvases).pixels? =
          some (im₀.drawAll l.draws) := h.pixels
      rw [Stage.pixels?_drawOn hcontext, hbefore]
      simp [Image.drawAll]
  | @failed job how e hjob he =>
    have hpictured : pictured decoder (job, how) = false := by
      simp [pictured, he, Except.isOk, Except.toBool]
    refine ⟨?_, h.pixels⟩
    simpa [successes, hpictured] using h.draws

/-- The pictures of two runs are the same if the frames that have one are. -/
theorem Paints.same {past' : List Incident} (h : Paints decoder im₀ l past)
    (h' : Paints decoder im₀ l' past') (hsame : successes decoder past' = successes decoder past) :
    l'.draws = l.draws ∧ l'.stage.pixels? = l.stage.pixels? := by
  have hdraws : l'.draws = l.draws := by
    refine rightUnique_shows.forall₂ h'.draws ?_
    rw [hsame]
    exact h.draws
  refine ⟨hdraws, ?_⟩
  rw [h'.pixels, h.pixels, hdraws]

/-- A picture found in an image file is that of the payload. -/
theorem decode_of_shows {f : Frame} {d : Draw} (h : Shows Frame.picture f d) :
    d.dest = f.rect ∧ Png.decode f.payload = some d.image := by
  obtain ⟨hdest, himage⟩ := h
  unfold Frame.picture at himage
  split at himage
  next image hdecode =>
    cases himage
    exact ⟨hdest, hdecode⟩
  · cases himage

/-! ### Runs -/

/-- Whatever run leads to it, what has been painted follows from the frames that have a picture. -/
theorem paints_run (decoder : Decoder) {stage : Stage} {l₀ : Link} (h : Begun stage ref l₀)
    (hpixels : stage.pixels? = some im₀) (events : List Event) :
    Paints decoder im₀ (l₀.run decoder events) (l₀.history decoder events) := by
  refine (run_induction (P := Paints decoder im₀) h.showing ⟨?_, ?_⟩ ?_ events).2
  · rw [h.draws]
    exact .nil
  · have hcontext : l₀.stage.session.context = stage.session.context :=
      h.showing.context.trans h.context.symm
    rw [h.draws, Stage.pixels?_congr hcontext (by rw [h.canvases])]
    exact hpixels
  · intro l₁ l₂ past i? hshowing hpaints ht
    exact paints_turn hshowing hpaints ht

/-- **Painting follows from what turns out to have a picture, and from nothing else.**  From any
attached session on whose canvas has pixels, and at any moment of any run, each frame that has
turned out to have a picture has been painted when it did, at its own rectangle and with the image
its payload holds, and nothing else has been; the pixels are those at the beginning with these
images painted over them.  So any other run from the same pixels on, in which the same frames have
turned out to have a picture, makes the same draws and comes to the same pixels. -/
theorem paints_follow_completions {network : Network} {stage : Stage} {l₀ : Link} {im₀ : Image}
    (hstage : stage.Reachable) (hstart : start network stage = .ok l₀)
    (hpixels : stage.pixels? = some im₀) (events : List Event) :
    let l := l₀.run Frame.picture events
    let past := l₀.history Frame.picture events
    List.Forall₂ (fun f d => d.dest = f.rect ∧ Png.decode f.payload = some d.image)
        (successes Frame.picture past) l.draws ∧
      (∀ c ∈ completions past, (accepted past)[c.1.number]? = some c.1.frame) ∧
      l.stage.pixels? = some (im₀.drawAll l.draws) ∧
      ∀ {network' : Network} {stage' : Stage} {l₀' : Link}, stage'.Reachable →
        start network' stage' = .ok l₀' → stage'.pixels? = some im₀ → ∀ events' : List Event,
        successes Frame.picture (l₀'.history Frame.picture events') =
            successes Frame.picture past →
          (l₀'.run Frame.picture events').draws = l.draws ∧
            (l₀'.run Frame.picture events').stage.pixels? = l.stage.pixels? := by
  obtain ⟨ref, hbegun⟩ := begun_of_start hstage hstart
  have hpaints := paints_run Frame.picture hbegun hpixels events
  refine ⟨hpaints.draws.imp fun _ _ => decode_of_shows, ?_, hpaints.pixels, ?_⟩
  · intro c hc
    exact (accounts_run Frame.picture hbegun events).2.frame_of_completion hc
  · intro network' stage' l₀' hstage' hstart' hpixels' events' hsame
    obtain ⟨ref', hbegun'⟩ := begun_of_start hstage' hstart'
    exact hpaints.same (paints_run Frame.picture hbegun' hpixels' events') hsame

/-- A frame is painted over a corner of the canvas; in the other run another frame arrives before it
and fails, and it has its picture only after the end of the socket. -/
theorem paints_follow_completions_small :
    let image : Image := .fill 1 1 ⟨9, 8, 7, 255⟩
    let shown : Frame := ⟨⟨1, 1, 2, 2⟩, (Png.encode? image).getD []⟩
    let events : List Event :=
      [.received (.binary shown.encode), .received (.text "hello"), .finished 0 .decided]
    let events' : List Event :=
      [.received (.binary (Frame.encode ⟨⟨0, 0, 1, 1⟩, [7]⟩)), .received (.binary shown.encode),
        .placed 0 (.unscaled 4 4), .finished 0 .decided, .lost, .finished 1 .decided]
    let l₀ := begin (Stage.small.step .opened).1 true
    let l := l₀.run Frame.picture events
    let l' := l₀.run Frame.picture events'
    Stage.small.Reachable ∧ start (.hosts fun _ => true) Stage.small = .ok l₀ ∧
      Stage.small.pixels? = some (.fill 2 2 .clear) ∧
      successes Frame.picture (l₀.history Frame.picture events) = [shown] ∧
      successes Frame.picture (l₀.history Frame.picture events') = [shown] ∧
      l.draws = [⟨⟨1, 1, 2, 2⟩, image⟩] ∧ l'.draws = l.draws ∧
      l.stage.pixels? = some ((Image.fill 2 2 .clear).drawAll l.draws) ∧
      l'.stage.pixels? = l.stage.pixels? := by
  intro image shown events events' l₀ l l'
  have hstart : start (.hosts fun _ => true) Stage.small = .ok l₀ := rfl
  have hpixels : Stage.small.pixels? = some (.fill 2 2 .clear) := rfl
  have hshown : successes Frame.picture (l₀.history Frame.picture events) = [shown] := by
    decide +kernel
  have hshown' : successes Frame.picture (l₀.history Frame.picture events') = [shown] := by
    decide +kernel
  have hdraws : l.draws = [⟨⟨1, 1, 2, 2⟩, image⟩] := by decide +kernel
  obtain ⟨-, -, hfold, hsame⟩ :=
    paints_follow_completions Stage.reachable_small hstart hpixels events
  obtain ⟨hdraws', hpixels'⟩ :=
    hsame Stage.reachable_small hstart hpixels events' (hshown'.trans hshown.symm)
  exact ⟨Stage.reachable_small, hstart, hpixels, hshown, hshown', hdraws, hdraws', hfold, hpixels'⟩

end Link

end RemoteDisplay
