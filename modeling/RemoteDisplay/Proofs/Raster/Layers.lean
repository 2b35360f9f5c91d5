/-
**Images as layers.**

An image that has the size of its rectangle is not scaled when it is drawn, and none of its pixels
is moved, however far the rectangle reaches beyond the canvas.  So a pixel of the canvas is in the
end what it was at first under the pixels of the images that lie on it, one above the other in the
order in which they were drawn; and if nothing shows through these, it is that of the last one.

A canvas is drawn on through contexts that have been taken of it.  There may be any number of them,
and they all paint over the same pixels; it makes no difference which one is used, nor where the
canvas is shown meanwhile.

Main definitions:

* `RemoteDisplay.Draw.Unscaled`, `RemoteDisplay.Draw.pixelAt` — a draw that scales nothing, and the
  pixel of its image that lies on a pixel of the canvas;
* `RemoteDisplay.Image.Solid` — an image that nothing shows through;
* `RemoteDisplay.Studio` — canvases, and the contexts that have been taken of them;
* `RemoteDisplay.Studio.run`, `RemoteDisplay.Studio.draws` — what is done with them, and what of it
  is drawn on one canvas.

Main results:

* `RemoteDisplay.Image.pixel?_drawAll_of_unscaled`, `RemoteDisplay.Draw.layers_of_solid` — layers
  on an image, and the topmost of them;
* `RemoteDisplay.Studio.image?_step`, `RemoteDisplay.Studio.image?_run` — the pixels of a canvas are
  changed by what is drawn on it, and by nothing else;
* `RemoteDisplay.Studio.unscaled_exact` — **what is seen in the end of images that are not scaled**.
-/
import Mathlib.Data.List.Basic
import RemoteDisplay.Proofs.Raster.Clipping
import RemoteDisplay.Proofs.Raster.Sequence

set_option relaxedAutoImplicit false
set_option autoImplicit false

namespace RemoteDisplay

/-! ### One layer -/

namespace Draw

/-- The image has the size of the rectangle it is drawn into. -/
def Unscaled (d : Draw) : Prop := d.image.width = d.dest.width ∧ d.image.height = d.dest.height

instance (d : Draw) : Decidable d.Unscaled := inferInstanceAs (Decidable (_ ∧ _))

/-- The pixel of an image that is not scaled that lies on pixel `(x, y)` of the canvas. -/
def pixelAt (d : Draw) (x y : Nat) : Pixel :=
  d.image.pixelD (x - d.dest.left.toNat) (y - d.dest.top.toNat)

/-- A pixel under the pixels of several images that lie on it, the last one on top. -/
def layers (draws : List Draw) (x y : Nat) (old : Pixel) : Pixel :=
  draws.foldl (fun under d => (d.pixelAt x y).onto under) old

end Draw

/-- Nothing shows through any pixel of the image. -/
def Image.Solid (im : Image) : Prop := ∀ p ∈ im.pixels, p.a = 255

instance (im : Image) : Decidable im.Solid :=
  inferInstanceAs (Decidable (∀ p ∈ im.pixels, p.a = 255))

theorem Image.Solid.of_pixel? {im : Image} (h : im.Solid) {x y : Nat} {p : Pixel}
    (hp : im.pixel? x y = some p) : p.a = 255 := by
  unfold Image.pixel? at hp
  split at hp
  · cases hp
    exact h _ (Array.getElem_mem _)
  · cases hp

namespace Draw

variable {d : Draw} {width height : UInt32} {x y : Nat}

/-- Wherever the rectangle reaches, the image has a pixel. -/
theorem Unscaled.pixel? (h : d.Unscaled) (hcontains : d.dest.Contains x y) :
    d.image.pixel? (x - d.dest.left.toNat) (y - d.dest.top.toNat) = some (d.pixelAt x y) := by
  obtain ⟨hleft, hright, htop, hbottom⟩ := hcontains
  refine Image.pixel?_eq_pixelD ?_ ?_
  · rw [h.1, Rect.toNat_width]
    omega
  · rw [h.2, Rect.toNat_height]
    omega

/-- What is painted over a pixel of the canvas is the pixel of the image that lies on it. -/
theorem Unscaled.drawn? (h : d.Unscaled) (hcontains : d.dest.Contains x y)
    (hx : x < width.toNat) (hy : y < height.toNat) :
    d.image.drawn? d.dest width height x y = some (d.pixelAt x y) := by
  have hpixel := h.pixel? hcontains
  have hresize : d.image.resize d.dest.width d.dest.height = d.image := if_pos h
  have hsize : ¬(d.image.width = 0 ∨ d.image.height = 0) := by
    -- an image without pixels would have none here
    rw [← UInt32.toNat_inj, ← UInt32.toNat_inj, UInt32.toNat_zero]
    have hsome : d.image.pixel? (x - d.dest.left.toNat) (y - d.dest.top.toNat) ≠ none := by
      simp [hpixel]
    rw [ne_eq, Image.pixel?_eq_none_iff, Classical.not_not] at hsome
    omega
  rw [(Image.Undistorted.unscaled h.1 h.2).drawn?_eq_whole? hx hy, Image.whole?, if_neg hsize,
    hresize, Image.shifted?, if_pos ⟨hcontains.1, hcontains.2.2.1⟩, hpixel]

end Draw

/-! ### Many layers -/

/-- Images that are not scaled are layers: each pixel of the canvas is under those of their pixels
that lie on it. -/
theorem Image.pixel?_drawAll_of_unscaled (im : Image) {draws : List Draw}
    (h : ∀ d ∈ draws, d.Unscaled) (x y : Nat) :
    (im.drawAll draws).pixel? x y =
      (im.pixel? x y).map (Draw.layers (draws.filter fun d => d.dest.Contains x y) x y) := by
  rw [pixel?_drawAll]
  by_cases hinside : x < im.width.toNat ∧ y < im.height.toNat
  · congr
    funext old
    refine List.foldl_ext _ _ old ?_
    intro under d hd
    obtain ⟨hmem, hcontains⟩ := List.mem_filter.1 hd
    rw [(h d hmem).drawn? (of_decide_eq_true hcontains) hinside.1 hinside.2]
    rfl
  · rw [(pixel?_eq_none_iff im x y).2 hinside]
    rfl

/-- If nothing shows through some layers, the topmost one is seen. -/
theorem Draw.layers_of_solid {draws : List Draw} {x y : Nat}
    (h : ∀ d ∈ draws, (d.pixelAt x y).a = 255) (old : Pixel) :
    Draw.layers draws x y old = (draws.getLast?.map fun d => d.pixelAt x y).getD old := by
  rcases List.eq_nil_or_concat draws with rfl | ⟨before, d, rfl⟩
  · rfl
  · have hd : (d.pixelAt x y).a = 255 := h d (by simp)
    simp [layers, Pixel.onto_of_opaque hd]

/-! ### Canvases and their contexts -/

/-- Canvases, and the contexts that have been taken of them: each is known by its canvas. -/
structure Studio where
  canvases : Canvases
  contexts : List CanvasRef

namespace Studio

/-- Something that is done with canvases. -/
inductive Action where
  /-- A context is taken of a canvas, if it can be drawn on. -/
  | take (ref : CanvasRef)
  /-- Something is drawn through one of the contexts taken so far. -/
  | draw (context : Nat) (d : Draw)
  /-- A canvas is shown elsewhere. -/
  | place (ref : CanvasRef) (geometry : Geometry)

/-- One thing is done. -/
def step (s : Studio) : Action → Studio
  | .take ref =>
    match s.canvases[ref]?.map Canvas.isDrawable with
    | some true => { s with contexts := s.contexts ++ [ref] }
    | _ => s
  | .draw context d =>
    match s.contexts[context]? with
    | some ref => { s with canvases := s.canvases.modify ref fun c => c.draw d }
    | none => s
  | .place ref g => { s with canvases := s.canvases.modify ref fun c => c.place g }

/-- One thing is done after another. -/
def run (s : Studio) (actions : List Action) : Studio := actions.foldl step s

/-- The draw that is made on a canvas, through whichever of its contexts. -/
def drawOn? (s : Studio) (ref : CanvasRef) : Action → Option Draw
  | .draw context d => if s.contexts[context]? = some ref then some d else none
  | _ => none

/-- The draws that are made on a canvas, in order. -/
def draws (s : Studio) (ref : CanvasRef) : List Action → List Draw
  | [] => []
  | a :: rest => (s.drawOn? ref a).toList ++ (s.step a).draws ref rest

/-- The pixels of one of the canvases, if it keeps them. -/
def image? (s : Studio) (ref : CanvasRef) : Option Image := s.canvases[ref]?.bind Canvas.image?

/-- A pixel of one of the canvases. -/
def pixel? (s : Studio) (ref : CanvasRef) (x y : Nat) : Option Pixel :=
  s.canvases[ref]?.bind fun c => c.pixel? x y

theorem pixel?_eq (s : Studio) (ref : CanvasRef) (x y : Nat) :
    s.pixel? ref x y = (s.image? ref).bind fun im => im.pixel? x y := by
  rw [pixel?, image?, Option.bind_assoc]
  congr
  funext c
  exact c.pixel?_eq x y

/-- The pixels of a canvas are changed by a draw on it, and by nothing else. -/
theorem image?_step (s : Studio) (ref : CanvasRef) (a : Action) :
    (s.step a).image? ref =
      (s.image? ref).map fun im => im.drawAll (s.drawOn? ref a).toList := by
  cases a with
  | take taken =>
    have hcanvases : (s.step (.take taken)).canvases = s.canvases := by
      simp only [step]
      split <;> rfl
    simp [image?, hcanvases, drawOn?, Image.drawAll]
  | draw context d =>
    simp only [step, drawOn?]
    cases s.contexts[context]? with
    | none => simp [Image.drawAll]
    | some drawn =>
      by_cases href : drawn = ref
      · subst href
        simp only [image?, List.getElem?_modify_eq, if_pos]
        cases s.canvases[drawn]? with
        | none => rfl
        | some c => exact c.image?_draw d
      · simp [image?, href, List.getElem?_modify_ne, Image.drawAll]
  | place placed g =>
    simp only [image?, step, drawOn?, List.getElem?_modify]
    cases s.canvases[ref]? with
    | none => rfl
    | some c => by_cases href : placed = ref <;> simp [href, Canvas.image?_place, Image.drawAll]

/-- The pixels of a canvas in the end are those at first, and what has been drawn on it since. -/
theorem image?_run (s : Studio) (ref : CanvasRef) (actions : List Action) :
    (s.run actions).image? ref =
      (s.image? ref).map fun im => im.drawAll (s.draws ref actions) := by
  induction actions generalizing s with
  | nil => simp [run, draws, Image.drawAll]
  | cons a rest ih =>
    calc (s.run (a :: rest)).image? ref
        = ((s.step a).image? ref).map fun im => im.drawAll ((s.step a).draws ref rest) :=
          ih (s.step a)
      _ = (s.image? ref).map fun im => im.drawAll (s.draws ref (a :: rest)) := by
          rw [image?_step, Option.map_map]
          simp only [Function.comp_def, draws, Image.drawAll, List.foldl_append]

/-- **Images that are not scaled are seen pixel for pixel, and the last one is on top.**  Whatever
is drawn through any contexts of a canvas, whichever of them are used and wherever the canvas is
shown: if each image has the size of its rectangle, a pixel of the canvas is in the end what it was
at first with those pixels of the images composited over it that lie on it, in order; each image
whose rectangle contains the pixel has one there.  If nothing shows through the images, it is the
pixel of the last of them, or what it was at first if there is none. -/
theorem unscaled_exact (s : Studio) (ref : CanvasRef) (actions : List Action)
    (h : ∀ d ∈ s.draws ref actions, d.Unscaled) (x y : Nat) :
    let seen := (s.draws ref actions).filter fun d => d.dest.Contains x y
    (s.run actions).pixel? ref x y =
        (s.pixel? ref x y).map (fun old =>
          seen.foldl (fun under d => (d.pixelAt x y).onto under) old) ∧
      (∀ d ∈ seen,
        d.image.pixel? (x - d.dest.left.toNat) (y - d.dest.top.toNat) = some (d.pixelAt x y)) ∧
      ((∀ d ∈ s.draws ref actions, d.image.Solid) →
        (s.run actions).pixel? ref x y =
          (s.pixel? ref x y).map fun old =>
            (seen.getLast?.map fun d => d.pixelAt x y).getD old) := by
  intro seen
  have hpixels : (s.run actions).pixel? ref x y =
      (s.pixel? ref x y).map (Draw.layers seen x y) := by
    rw [pixel?_eq, pixel?_eq, image?_run]
    cases s.image? ref with
    | none => rfl
    | some im => exact im.pixel?_drawAll_of_unscaled h x y
  have hseen : ∀ d ∈ seen,
      d.image.pixel? (x - d.dest.left.toNat) (y - d.dest.top.toNat) = some (d.pixelAt x y) := by
    intro d hd
    obtain ⟨hmem, hcontains⟩ := List.mem_filter.1 hd
    exact (h d hmem).pixel? (of_decide_eq_true hcontains)
  refine ⟨hpixels, hseen, ?_⟩
  intro hsolid
  rw [hpixels]
  congr
  funext old
  refine Draw.layers_of_solid ?_ old
  intro d hd
  exact (hsolid d (List.mem_filter.1 hd).1).of_pixel? (hseen d hd)

/-- Two images are drawn over the edge of a canvas, through two contexts of it, and the canvas is
moved between them: where they overlap the second one is seen, to its left the first one, and to the
left of both what was there. -/
theorem unscaled_exact_small :
    let s : Studio := ⟨[.blank (.unscaled 3 1)], []⟩
    let first : Draw := ⟨⟨1, 0, 4, 1⟩, .fill 3 1 ⟨9, 8, 7, 255⟩⟩
    let second : Draw :=
      ⟨⟨2, 0, 4, 1⟩, ⟨2, 1, #[⟨1, 2, 3, 255⟩, ⟨4, 5, 6, 255⟩], rfl⟩⟩
    let actions : List Action :=
      [.take 0, .take 0, .draw 1 first, .place 0 (.unscaled 9 9), .draw 0 second]
    s.draws 0 actions = [first, second] ∧ (∀ d ∈ s.draws 0 actions, d.Unscaled) ∧
      (∀ d ∈ s.draws 0 actions, d.image.Solid) ∧
      (s.run actions).pixel? 0 0 0 = some .clear ∧
      (s.run actions).pixel? 0 1 0 = some ⟨9, 8, 7, 255⟩ ∧
      (s.run actions).pixel? 0 2 0 = some ⟨1, 2, 3, 255⟩ := by
  intro s first second actions
  have hdraws : s.draws 0 actions = [first, second] := by decide
  have hunscaled : ∀ d ∈ s.draws 0 actions, d.Unscaled := by decide
  have hsolid : ∀ d ∈ s.draws 0 actions, d.image.Solid := by decide
  have hlast : ∀ x y, (s.run actions).pixel? 0 x y =
      (s.pixel? 0 x y).map fun old =>
        ((([first, second].filter fun d => d.dest.Contains x y)).getLast?.map
          fun d => d.pixelAt x y).getD old := by
    intro x y
    rw [← hdraws]
    exact (unscaled_exact s 0 actions hunscaled x y).2.2 hsolid
  refine ⟨hdraws, hunscaled, hsolid, ?_, ?_, ?_⟩
  · rw [hlast]
    decide
  · rw [hlast]
    decide
  · rw [hlast]
    decide

end Studio

end RemoteDisplay
