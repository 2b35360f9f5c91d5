/-
**The order of painting only matters where rectangles overlap.**

Frames are painted when their pictures are ready, so it is a matter of chance which of two is
painted first.  A pixel is only changed by the frames whose rectangles contain it; so whatever the
order, it has the same value in the end if these are painted in the same order.  Frames that are
apart from each other can be painted in any order at all.

Main definitions:

* `RemoteDisplay.Draw.Apart` — two draws of which no pixel of the canvas sees both.

Main results:

* `RemoteDisplay.Image.drawAll_eq_of_perm` — draws that are apart can be made in any order;
* `RemoteDisplay.Link.race_harmless` — **the order of painting**, on a canvas and in a run.
-/
import RemoteDisplay.Proofs.Link.Painting
import RemoteDisplay.Proofs.Raster.Sequence

set_option relaxedAutoImplicit false
set_option autoImplicit false

namespace RemoteDisplay

/-- No pixel of a canvas of the given size lies in the rectangles of both draws. -/
def Draw.Apart (width height : UInt32) (d d' : Draw) : Prop :=
  ∀ x < width.toNat, ∀ y < height.toNat, ¬(d.dest.Contains x y ∧ d'.dest.Contains x y)

instance (width height : UInt32) (d d' : Draw) : Decidable (d.Apart width height d') :=
  inferInstanceAs (Decidable (∀ x < width.toNat, ∀ y < height.toNat, ¬(_ ∧ _)))

namespace Image

variable {draws draws' : List Draw}

/-- At most one of several draws that are apart from each other contains a given pixel. -/
theorem filter_contains_eq_of_perm {width height : UInt32} {x y : Nat} (hx : x < width.toNat)
    (hy : y < height.toNat) (hperm : draws.Perm draws')
    (hapart : draws.Pairwise (Draw.Apart width height)) :
    (draws.filter fun d => d.dest.Contains x y) = draws'.filter fun d => d.dest.Contains x y := by
  have hfilter := hperm.filter fun d => d.dest.Contains x y
  have hpairwise := hapart.filter fun d => d.dest.Contains x y
  have hcontains : ∀ d ∈ draws.filter (fun d => d.dest.Contains x y), d.dest.Contains x y := by
    intro d hd
    simpa using (List.mem_filter.1 hd).2
  generalize draws.filter (fun d => d.dest.Contains x y) = seen at *
  match seen with
  | [] => exact (List.nil_perm.1 hfilter).symm
  | [d] => exact List.singleton_perm.1 hfilter
  | d :: d' :: rest =>
    have hd : d.Apart width height d' := List.rel_of_pairwise_cons hpairwise List.mem_cons_self
    exact absurd ⟨hcontains d (by simp), hcontains d' (by simp)⟩ (hd x hx y hy)

/-- Draws that are apart from each other can be made in any order. -/
theorem drawAll_eq_of_perm {im : Image} (hperm : draws.Perm draws')
    (hapart : draws.Pairwise (Draw.Apart im.width im.height)) :
    im.drawAll draws = im.drawAll draws' := by
  obtain ⟨hwidth, hheight⟩ := size_drawAll im draws
  obtain ⟨hwidth', hheight'⟩ := size_drawAll im draws'
  refine ext_pixel? (hwidth.trans hwidth'.symm) (hheight.trans hheight'.symm) ?_
  intro x y hx hy
  rw [hwidth] at hx
  rw [hheight] at hy
  rw [pixel?_drawAll, pixel?_drawAll, filter_contains_eq_of_perm hx hy hperm hapart]

end Image

namespace Link

/-- **The order of painting only matters where rectangles overlap.**  Whatever is drawn on a canvas,
a pixel has the same value after both of two orders if the draws whose rectangles contain it are
made in the same order; so draws that are apart from each other lead to the same pixels in every
order.  What a session paints in a run are its draws, in the order in which their pictures were
ready. -/
theorem race_harmless (c : Canvas) (draws draws' : List Draw) :
    (∀ x y : Nat,
      (draws.filter fun d => d.dest.Contains x y) = (draws'.filter fun d => d.dest.Contains x y) →
        (c.drawAll draws).pixel? x y = (c.drawAll draws').pixel? x y) ∧
      (draws.Perm draws' → draws.Pairwise (Draw.Apart c.geometry.width c.geometry.height) →
        (c.drawAll draws).image? = (c.drawAll draws').image?) ∧
      ∀ (decoder : Decoder) {network : Network} {stage : Stage} {l₀ : Link} {im₀ : Image},
        stage.Reachable → start network stage = .ok l₀ → stage.pixels? = some im₀ →
          c.image? = some im₀ → ∀ events : List Event,
            (l₀.run decoder events).stage.pixels? =
              (c.drawAll (l₀.run decoder events).draws).image? := by
  refine ⟨?_, ?_, ?_⟩
  · intro x y hsame
    rw [Canvas.pixel?_eq, Canvas.pixel?_eq, Canvas.image?_drawAll, Canvas.image?_drawAll]
    cases c.image? with
    | none => rfl
    | some im =>
      simp only [Option.map_some, Option.bind_some]
      rw [Image.pixel?_drawAll, Image.pixel?_drawAll, hsame]
  · intro hperm hapart
    rw [Canvas.image?_drawAll, Canvas.image?_drawAll]
    cases him : c.image? with
    | none => rfl
    | some im =>
      obtain ⟨hwidth, hheight⟩ := Canvas.geometry_of_image? him
      rw [hwidth, hheight] at hapart
      simp only [Option.map_some, Image.drawAll_eq_of_perm hperm hapart]
  · intro decoder network stage l₀ im₀ hstage hstart hpixels him events
    obtain ⟨ref, hbegun⟩ := begun_of_start hstage hstart
    rw [(paints_run decoder hbegun hpixels events).pixels, Canvas.image?_drawAll, him]
    rfl

/-- A dot is painted in a corner before or after all of the canvas is; the opposite corner does not
see it, but the dot may be lost.  Two dots in opposite corners are painted in either order.  And a
session paints one of them. -/
theorem race_harmless_small :
    let c : Canvas := .blank (.unscaled 2 2)
    let dot : Image := .fill 1 1 ⟨9, 8, 7, 255⟩
    let all : Draw := ⟨⟨0, 0, 2, 2⟩, .fill 2 2 ⟨1, 2, 3, 255⟩⟩
    let first : Draw := ⟨⟨0, 0, 1, 1⟩, dot⟩
    let last : Draw := ⟨⟨1, 1, 2, 2⟩, dot⟩
    let events : List Event :=
      [.received (.binary (Frame.encode ⟨⟨1, 1, 2, 2⟩, [7]⟩)), .finished 0 .decided]
    let l₀ := begin (Stage.small.step .opened).1 true
    let l := l₀.run (fun _ => .ok dot) events
    ([all, first].filter fun d => d.dest.Contains 1 1) =
        ([first, all].filter fun d => d.dest.Contains 1 1) ∧
      (c.drawAll [all, first]).pixel? 1 1 = (c.drawAll [first, all]).pixel? 1 1 ∧
      (c.drawAll [all, first]).pixel? 0 0 ≠ (c.drawAll [first, all]).pixel? 0 0 ∧
      [first, last].Perm [last, first] ∧ [first, last].Pairwise (Draw.Apart 2 2) ∧
      (c.drawAll [first, last]).image? = (c.drawAll [last, first]).image? ∧
      Stage.small.Reachable ∧ start (.hosts fun _ => true) Stage.small = .ok l₀ ∧
      Stage.small.pixels? = some (.fill 2 2 .clear) ∧ c.image? = some (.fill 2 2 .clear) ∧
      l.draws = [last] ∧ l.stage.pixels? = (c.drawAll [last]).image? := by
  intro c dot all first last events l₀ l
  have hsame : ([all, first].filter fun d => d.dest.Contains 1 1) =
      [first, all].filter fun d => d.dest.Contains 1 1 := by decide +kernel
  have hlost : (c.drawAll [all, first]).pixel? 0 0 ≠ (c.drawAll [first, all]).pixel? 0 0 := by
    decide +kernel
  have hperm : [first, last].Perm [last, first] := List.Perm.swap _ _ _
  have hapart : [first, last].Pairwise (Draw.Apart 2 2) := by decide +kernel
  have hstart : start (.hosts fun _ => true) Stage.small = .ok l₀ := rfl
  have hpixels : Stage.small.pixels? = some (.fill 2 2 .clear) := rfl
  have hdraws : l.draws = [last] := by decide +kernel
  have hrun := (race_harmless c [] []).2.2 (fun _ => .ok dot) Stage.reachable_small hstart hpixels
    rfl events
  refine ⟨hsame, (race_harmless c _ _).1 1 1 hsame, hlost, hperm, hapart,
    (race_harmless c _ _).2.1 hperm hapart, Stage.reachable_small, hstart, hpixels, rfl, hdraws, ?_⟩
  rw [← hdraws]
  exact hrun

end Link

end RemoteDisplay
