/-
**What goes wrong in a draw.**

The bounds of a rectangle come from the display host and can be any four words.  A draw computes
with them, and words can fail to hold a result: a difference may be less than zero, a product too
large, a divisor zero.  None of this ever happens, and no more than its visible part is made of an
image, however large the rectangle is.  What keeps the words in range is that a rectangle of which
anything is visible begins on the canvas, so that its visible part is a span of it that is not
empty.  Nor does anything go wrong when what is made is painted: the composition of two pixels is
nearly exact, and so it does not leave the range of bytes.

Only resizing can go wrong.  Halfway through it, an image is as high as what is visible and still as
wide as the source pixels under it, so the canvas does not bound its size.  And in single precision
the place of a new sample may come out so far off that no old sample is near it.  Both take a canvas
of millions of pixels in a row.

Main definitions:

* `RemoteDisplay.InRange` — the words that the source pixels under a span may be computed from;
* `RemoteDisplay.Image.Resized` — an image is resized when it is drawn.

Main results:

* `RemoteDisplay.held_bounds`, `RemoteDisplay.sourceSpan_inside` — there are source pixels under
  every span, and all of them are pixels of the source;
* `RemoteDisplay.Checked.sourceSpan_eq`, `RemoteDisplay.Checked.visiblePart_eq`,
  `RemoteDisplay.Checked.paintAt_ok` — the parts of a draw that never go wrong;
* `RemoteDisplay.Checked.draw_ok` — nor does any other on a canvas that is not very large;
* `RemoteDisplay.Checked.draw_fails_only_in_resize` — **nothing goes wrong in a draw but its
  resizing**, and exactly when that does;
* `RemoteDisplay.Checked.not_draw_never_fails` — **it can**.
-/
import RemoteDisplay.Proofs.Raster.Blending
import RemoteDisplay.Proofs.Raster.Covering
import RemoteDisplay.Proofs.Raster.Span
import RemoteDisplay.Raster.Checked

set_option relaxedAutoImplicit false
set_option autoImplicit false

namespace RemoteDisplay

namespace Checked

/-! ### Words -/

theorem ok_bind {α β : Type} (a : α) (f : α → Except Fault β) : (Except.ok a >>= f) = f a := rfl

theorem error_bind {α β : Type} (fault : Fault) (f : α → Except Fault β) :
    (Except.error fault >>= f) = .error fault := rfl

theorem sub32_ok {a b : UInt32} (h : b ≤ a) : sub32 a b = .ok (a - b) := if_pos h

theorem sub_ok {a b : UInt64} (h : b ≤ a) : sub a b = .ok (a - b) := if_pos h

theorem add_ok {a b : UInt64} (h : a.toNat + b.toNat < UInt64.size) : add a b = .ok (a + b) :=
  if_pos h

/-- The product of two 32-bit words is no fault. -/
theorem mul_ok (a b : UInt32) :
    mul a.toUInt64 b.toUInt64 = .ok (a.toUInt64 * b.toUInt64) := by
  refine if_pos ?_
  rw [UInt32.toNat_toUInt64, UInt32.toNat_toUInt64, ← toNat_mul_toUInt64]
  exact UInt64.toNat_lt _

theorem div_ok {b : UInt64} (h : b ≠ 0) (a : UInt64) : div a b = .ok (a / b) := if_neg h

theorem divUp_ok {b : UInt64} (h : b ≠ 0) (a : UInt64) : divUp a b = .ok (ceilDiv a b) := if_neg h

theorem clamp_ok {lo hi : UInt64} (h : lo ≤ hi) (x : UInt64) :
    clamp lo hi x = .ok (clampWord lo hi x) := if_pos h

theorem narrow_ok {a : UInt64} (h : a.toNat < UInt32.size) : narrow a = .ok a.toUInt32 := if_pos h

end Checked

/-! ### Spans -/

/-- Source pixels are looked for under a span that is not empty and lies in the rectangle, and there
are some. -/
structure InRange (start stop dest source : UInt32) : Prop where
  start_lt : start < stop
  stop_le : stop ≤ dest
  source_pos : 0 < source

/-- A word that is held between bounds in the right order lies between them. -/
theorem clampWord_bounds {lo hi : UInt64} (h : lo.toNat ≤ hi.toNat) (x : UInt64) :
    lo.toNat ≤ (clampWord lo hi x).toNat ∧ (clampWord lo hi x).toNat ≤ hi.toNat := by
  unfold clampWord
  simp only [UInt64.lt_iff_toNat_lt]
  split
  · omega
  · split <;> omega

/-- Whatever the quotients are, the first source pixel and the end of the last one are held inside
the source, one behind the other. -/
theorem held_bounds {source : UInt32} (hsource : 0 < source.toNat) (quotient rounded : UInt64) :
    let first := min quotient (source.toUInt64 - 1)
    let last := clampWord (first + 1) source.toUInt64 rounded
    (first + 1).toNat = first.toNat + 1 ∧ first + 1 ≤ source.toUInt64 ∧
      first.toNat < last.toNat ∧ last.toNat ≤ source.toNat := by
  intro first last
  have hlt := source.toNat_lt
  have hfirst : first.toNat < source.toNat := by
    rw [toNat_min64, toNat_toUInt64_sub_one hsource]
    omega
  have hsucc : (first + 1).toNat = first.toNat + 1 := by
    rw [UInt64.toNat_add, UInt64.toNat_one]
    omega
  have hbounds : (first + 1).toNat ≤ source.toUInt64.toNat := by
    rw [hsucc, UInt32.toNat_toUInt64]
    exact hfirst
  obtain ⟨hlo, hhi⟩ := clampWord_bounds hbounds rounded
  rw [hsucc] at hlo
  rw [UInt32.toNat_toUInt64] at hhi
  exact ⟨hsucc, UInt64.le_iff_toNat_le.2 hbounds, hlo, hhi⟩

/-- There is at least one source pixel under a span, and all of them are pixels of the source. -/
theorem sourceSpan_inside (start stop dest : UInt32) {source : UInt32}
    (hsource : 0 < source.toNat) :
    0 < (sourceSpan start stop dest source).length.toNat ∧
      (sourceSpan start stop dest source).offset.toNat +
        (sourceSpan start stop dest source).length.toNat ≤ source.toNat := by
  have hlt := source.toNat_lt
  obtain ⟨-, -, hlast, hsource'⟩ := held_bounds hsource
    (start.toUInt64 * source.toUInt64 / dest.toUInt64)
    (ceilDiv (stop.toUInt64 * source.toUInt64) dest.toUInt64)
  have hlength := UInt64.toNat_sub_of_le _ _ (UInt64.le_iff_toNat_le.2 (Nat.le_of_lt hlast))
  simp only [sourceSpan, UInt64.toNat_toUInt32, hlength]
  omega

namespace Rect.Clipped

variable {dest visible : Rect} {width height : UInt32}

/-- What is visible of a rectangle begins where the rectangle does, and ends behind it. -/
theorem corner_le (h : dest.Clipped width height visible) :
    dest.left ≤ visible.left ∧ dest.left ≤ visible.right ∧
      dest.top ≤ visible.top ∧ dest.top ≤ visible.bottom := by
  have hleft := h.left_lt
  have htop := h.top_lt
  simp only [UInt32.le_iff_toNat_le, ← h.left, ← h.top]
  omega

/-- No more is visible of a rectangle than there is of the canvas. -/
theorem size_le (h : dest.Clipped width height visible) :
    visible.width ≤ width ∧ visible.height ≤ height := by
  rw [UInt32.le_iff_toNat_le, UInt32.le_iff_toNat_le, Rect.toNat_width, Rect.toNat_height, h.right,
    h.bottom]
  omega

/-- What is visible of a rectangle is a span of it along each axis, and not empty. -/
theorem inRange (h : dest.Clipped width height visible) {columns rows : UInt32}
    (hcolumns : columns ≠ 0) (hrows : rows ≠ 0) :
    InRange (visible.left - dest.left) (visible.right - dest.left) dest.width columns ∧
      InRange (visible.top - dest.top) (visible.bottom - dest.top) dest.height rows := by
  obtain ⟨hwidth, hwidth'⟩ := h.toNat_width
  obtain ⟨hheight, hheight'⟩ := h.toNat_height
  rw [h.width_eq, h.height_eq, h.left, h.top, UInt32.sub_self, UInt32.sub_self]
  exact ⟨⟨UInt32.lt_iff_toNat_lt.2 hwidth, UInt32.le_iff_toNat_le.2 hwidth',
      UInt32.pos_iff_ne_zero.2 hcolumns⟩,
    ⟨UInt32.lt_iff_toNat_lt.2 hheight, UInt32.le_iff_toNat_le.2 hheight',
      UInt32.pos_iff_ne_zero.2 hrows⟩⟩

end Rect.Clipped

namespace Checked

/-! ### Nothing goes wrong -/

/-- Nothing goes wrong when source pixels are looked for under a span in range. -/
theorem sourceSpan_eq {start stop dest source : UInt32} (h : InRange start stop dest source) :
    sourceSpan start stop dest source = .ok (RemoteDisplay.sourceSpan start stop dest source) := by
  have hsource : 0 < source.toNat := UInt32.lt_iff_toNat_lt.1 h.source_pos
  have hlt := source.toNat_lt_size
  have hdest : dest.toUInt64 ≠ 0 := by
    have hstart := UInt32.lt_iff_toNat_lt.1 h.start_lt
    have hstop := UInt32.le_iff_toNat_le.1 h.stop_le
    rw [ne_eq, ← UInt64.toNat_inj, UInt32.toNat_toUInt64, UInt64.toNat_zero]
    omega
  have hone : 1 ≤ source.toUInt64 := by
    rw [UInt64.le_iff_toNat_le, UInt32.toNat_toUInt64, UInt64.toNat_one]
    omega
  obtain ⟨hsucc, hbounds, hlast, hsource'⟩ := held_bounds hsource
    (start.toUInt64 * source.toUInt64 / dest.toUInt64)
    (ceilDiv (stop.toUInt64 * source.toUInt64) dest.toUInt64)
  simp only [sourceSpan, RemoteDisplay.sourceSpan, mul_ok, ok_bind, div_ok hdest, divUp_ok hdest,
    sub_ok hone]
  generalize min (start.toUInt64 * source.toUInt64 / dest.toUInt64) (source.toUInt64 - 1) = first
    at *
  have hadd : add first 1 = .ok (first + 1) := by
    refine add_ok ?_
    rw [UInt64.toNat_one, ← hsucc]
    exact UInt64.toNat_lt_size _
  rw [hadd, ok_bind, clamp_ok hbounds, ok_bind, narrow_ok (by omega), ok_bind]
  generalize clampWord (first + 1) source.toUInt64 _ = last at *
  have hle : first ≤ last := UInt64.le_iff_toNat_le.2 (Nat.le_of_lt hlast)
  have hlength : (last - first).toNat < UInt32.size := by
    rw [UInt64.toNat_sub_of_le _ _ hle]
    omega
  rw [sub_ok hle, ok_bind, narrow_ok hlength]
  rfl

/-- What the visible part of an image is made of can always be cut out of it.  So only resizing is
left that can go wrong. -/
theorem visiblePart_eq {im : Image} {dest visible : Rect} {width height : UInt32}
    (h : dest.Clipped width height visible) (hwidth : im.width ≠ 0) (hheight : im.height ≠ 0) :
    visiblePart im dest visible =
      resize (im.part dest visible) visible.width visible.height := by
  obtain ⟨hcolumns, hrows⟩ := h.inRange hwidth hheight
  obtain ⟨hleft, hright, htop, hbottom⟩ := h.corner_le
  obtain ⟨hlength, hinside⟩ := sourceSpan_inside (visible.left - dest.left)
    (visible.right - dest.left) dest.width (UInt32.lt_iff_toNat_lt.1 hcolumns.source_pos)
  obtain ⟨hlength', hinside'⟩ := sourceSpan_inside (visible.top - dest.top)
    (visible.bottom - dest.top) dest.height (UInt32.lt_iff_toNat_lt.1 hrows.source_pos)
  simp only [visiblePart, sub32_ok hleft, sub32_ok hright, sub32_ok htop, sub32_ok hbottom, ok_bind,
    sourceSpan_eq hcolumns, sourceSpan_eq hrows]
  rw [crop, if_pos ⟨UInt32.lt_iff_toNat_lt.2 hlength, hinside, UInt32.lt_iff_toNat_lt.2 hlength',
    hinside'⟩]
  rfl

/-- An image has the size that is asked for, and is not resized. -/
theorem resize_of_eq {im : Image} {width height : UInt32}
    (h : im.width = width ∧ im.height = height) :
    resize im width height = .ok (im.resize width height) := by
  rw [resize, Image.resize, if_pos h, if_pos h]

/-! ### Painting -/

/-- A number near a fraction of 255 can be made a byte. -/
theorem ofFraction_ok {x : Float32} {a : ℝ} (hx : Single.Near (255 * x) (255 * a) (1 / 512))
    (ha : 0 ≤ a ∧ a ≤ 1) : ofFraction x = .ok (Pixel.ofFraction x) := by
  obtain ⟨b, hvalue, hb⟩ := hx
  obtain ⟨hlo, hhi⟩ := abs_le.1 hb
  refine if_pos ⟨?_, ?_⟩
  · exact (Single.hasValue_one.neg (by norm_num)).lt_iff hvalue |>.2 (by linarith)
  · exact (hvalue.lt_iff Single.hasValue_256).2 (by linarith)

/-- Nothing goes wrong when one pixel is painted over another. -/
theorem onto_ok (fg bg : Pixel) : onto fg bg = .ok (fg.onto bg) := by
  unfold onto Pixel.onto
  split
  · rfl
  next htransparent =>
    split
    · rfl
    · obtain ⟨halpha, hcolour⟩ := Pixel.near_blend htransparent bg
      have hbounds := Pixel.colourOnto_bounds htransparent bg
      simp only [blend, ofFraction_ok (hcolour _ _) (hbounds _ _),
        ofFraction_ok halpha (Pixel.alphaOnto_bounds htransparent bg), ok_bind]
      rfl

theorem mapPixels_ok (im : Image) (f : ℕ → ℕ → Pixel → Pixel) :
    (mapPixels im fun x y old => .ok (f x y old)) = .ok (im.mapPixels f) := by
  have hpure := Vector.ofFnM_pure_comp (m := Except Fault) (n := im.pixels.size)
    (f := fun i => f (i.val % im.width.toNat) (i.val / im.width.toNat) im.pixels[i])
  refine (congrArg (· >>= _) hpure).trans ?_
  refine congrArg Except.ok ?_
  simp only [Image.mapPixels, Image.mk.injEq, true_and]
  exact Array.ext (by simp) fun i _ _ => by simp

/-- Nothing goes wrong when an image is painted over a canvas. -/
theorem paintAt_ok (canvas im : Image) (left top : UInt32) :
    paintAt canvas im left top = .ok (canvas.paintAt im left top) := by
  rw [paintAt, Image.paintAt, ← mapPixels_ok]
  congr 1
  funext x y old
  split
  · cases im.pixel? (x - left.toNat) (y - top.toNat) with
    | none => rfl
    | some p => exact onto_ok p old
  · rfl

/-! ### Resizing -/

/-- Resizing goes wrong in two ways. -/
theorem resize_cases (im : Image) (width height : UInt32) :
    resize im width height = .ok (im.resize width height) ∨
      resize im width height = .error .tooLarge ∨ resize im width height = .error .notAByte := by
  unfold resize Image.resize ofSamples
  split
  · exact .inl rfl
  · split
    · exact .inr (.inl rfl)
    · split
      · exact .inl rfl
      · exact .inr (.inr rfl)

theorem resize_eq_tooLarge_iff {im : Image} {width height : UInt32} :
    resize im width height = .error .tooLarge ↔
      ¬(im.width = width ∧ im.height = height) ∧ Image.maxBytes < columnBytes im height := by
  unfold resize ofSamples
  split
  next hsame => simp [hsame]
  next hdiffer =>
    split
    next hlarge => simp [hlarge, hdiffer]
    next hfits => split <;> simp [hfits]

theorem resize_eq_notAByte_iff {im : Image} {width height : UInt32}
    (him : 0 < im.width.toNat ∧ 0 < im.height.toNat)
    (hsize : 0 < width.toNat ∧ 0 < height.toNat) :
    resize im width height = .error .notAByte ↔
      ¬(im.width = width ∧ im.height = height) ∧ columnBytes im height ≤ Image.maxBytes ∧
        (Resample.Uncovered im.height height ∨ Resample.Uncovered im.width width) := by
  unfold resize ofSamples
  split
  next hsame => simp [hsame]
  next hdiffer =>
    split
    next hlarge => simp [hdiffer, Nat.not_le.2 hlarge]
    next hfits =>
      rw [Nat.not_lt] at hfits
      by_cases hcovered :
        Resample.Uncovered im.height height ∨ Resample.Uncovered im.width width
      · rw [if_neg fun hnumber => (Resample.all_isNumber_iff him hsize).1 hnumber hcovered]
        exact iff_of_true rfl ⟨hdiffer, hfits, hcovered⟩
      · rw [if_pos ((Resample.all_isNumber_iff him hsize).2 hcovered)]
        simp [hcovered]

end Checked

/-- An image is resized when it is drawn: it has pixels, some of its rectangle is visible, and its
part under that has another size. -/
structure Image.Resized (canvas im : Image) (dest visible : Rect) : Prop where
  clip : dest.clip canvas.width canvas.height = some visible
  width_ne : im.width ≠ 0
  height_ne : im.height ≠ 0
  differs : ¬((dest.sourceColumns visible im.width).length = visible.width ∧
    (dest.sourceRows visible im.height).length = visible.height)

section

variable {canvas im : Image} {dest visible : Rect}

/-- What is resized has pixels. -/
theorem Image.Resized.part_pos (h : canvas.Resized im dest visible) :
    0 < (im.part dest visible).width.toNat ∧ 0 < (im.part dest visible).height.toNat := by
  obtain ⟨hcolumns, hrows⟩ := (Rect.clipped_of_clip h.clip).inRange h.width_ne h.height_ne
  exact ⟨(sourceSpan_inside _ _ _ (UInt32.lt_iff_toNat_lt.1 hcolumns.source_pos)).1,
    (sourceSpan_inside _ _ _ (UInt32.lt_iff_toNat_lt.1 hrows.source_pos)).1⟩

/-- What is made of it has pixels. -/
theorem Image.Resized.visible_pos (h : canvas.Resized im dest visible) :
    0 < visible.width.toNat ∧ 0 < visible.height.toNat :=
  ⟨(Rect.clipped_of_clip h.clip).toNat_width.1, (Rect.clipped_of_clip h.clip).toNat_height.1⟩

end

namespace Checked

/-- If something is visible of a rectangle, a draw paints what resizing makes of it. -/
theorem draw_of_visible {canvas im : Image} {dest visible : Rect}
    (hclip : dest.clip canvas.width canvas.height = some visible) (hwidth : im.width ≠ 0)
    (hheight : im.height ≠ 0) :
    draw canvas im dest =
      resize (im.part dest visible) visible.width visible.height >>= fun made =>
        .ok (canvas.paintAt made visible.left visible.top) := by
  have hvisible := Rect.clipped_of_clip hclip
  have hdrawn : ¬(dest.isEmpty || im.width == 0 || im.height == 0) = true := by
    simp [hvisible.not_isEmpty, hwidth, hheight]
  rw [draw, if_neg hdrawn, hclip, ← visiblePart_eq hvisible hwidth hheight]
  simp only [paintAt_ok]

/-- A draw of which nothing is visible changes nothing. -/
theorem draw_of_not_visible {canvas im : Image} {dest : Rect}
    (h : dest.clip canvas.width canvas.height = none ∨ im.width = 0 ∨ im.height = 0) :
    draw canvas im dest = .ok (canvas.draw im dest) := by
  unfold draw Image.draw
  split
  · rfl
  next hdrawn =>
    simp only [Bool.or_eq_true, beq_iff_eq, not_or] at hdrawn
    obtain ⟨⟨-, hwidth⟩, hheight⟩ := hdrawn
    have hclip := h.resolve_right (not_or.2 ⟨hwidth, hheight⟩)
    rw [hclip]
    rfl

/-- A draw ends with an error exactly if its resizing does. -/
theorem draw_eq_error_iff {canvas im : Image} {dest : Rect} {fault : Fault} :
    draw canvas im dest = .error fault ↔
      ∃ visible, canvas.Resized im dest visible ∧
        resize (im.part dest visible) visible.width visible.height = .error fault := by
  constructor
  · intro hdraw
    have hshown :
        ¬(dest.clip canvas.width canvas.height = none ∨ im.width = 0 ∨ im.height = 0) := by
      intro hnone
      rw [draw_of_not_visible hnone] at hdraw
      exact nomatch hdraw
    simp only [not_or] at hshown
    obtain ⟨hclip, hwidth, hheight⟩ := hshown
    obtain ⟨visible, hvisible⟩ := Option.ne_none_iff_exists'.1 hclip
    rw [draw_of_visible hvisible hwidth hheight] at hdraw
    rcases hresize : resize (im.part dest visible) visible.width visible.height with fault' | made
    · rw [hresize] at hdraw
      refine ⟨visible, ⟨hvisible, hwidth, hheight, ?_⟩, ?_⟩
      · intro hsame
        rw [resize_of_eq hsame] at hresize
        exact nomatch hresize
      · obtain rfl : fault' = fault := Except.error.inj hdraw
        exact hresize
    · rw [hresize] at hdraw
      exact nomatch hdraw
  · rintro ⟨visible, hresized, hresize⟩
    rw [draw_of_visible hresized.clip hresized.width_ne hresized.height_ne, hresize]
    rfl

/-- A draw that does not end with an error is the draw. -/
theorem draw_eq_ok_iff {canvas im : Image} {dest : Rect} :
    draw canvas im dest = .ok (canvas.draw im dest) ↔
      draw canvas im dest ≠ .error .tooLarge ∧ draw canvas im dest ≠ .error .notAByte := by
  by_cases hnone : dest.clip canvas.width canvas.height = none ∨ im.width = 0 ∨ im.height = 0
  · simp [draw_of_not_visible hnone]
  · simp only [not_or] at hnone
    obtain ⟨hclip, hwidth, hheight⟩ := hnone
    obtain ⟨visible, hvisible⟩ := Option.ne_none_iff_exists'.1 hclip
    have hdraw : canvas.draw im dest =
        canvas.paintAt ((im.part dest visible).resize visible.width visible.height)
          visible.left visible.top := by
      have hdrawn : ¬(dest.isEmpty || im.width == 0 || im.height == 0) = true := by
        simp [(Rect.clipped_of_clip hvisible).not_isEmpty, hwidth, hheight]
      rw [Image.draw, if_neg hdrawn, hvisible]
      rfl
    rw [draw_of_visible hvisible hwidth hheight, hdraw]
    rcases resize_cases (im.part dest visible) visible.width visible.height with h | h | h <;>
      simp [h, ok_bind, error_bind]

/-- A draw asks for too much memory exactly if the columns of what it resizes do not fit. -/
theorem draw_eq_tooLarge_iff {canvas im : Image} {dest : Rect} :
    draw canvas im dest = .error .tooLarge ↔
      ∃ visible, canvas.Resized im dest visible ∧
        Image.maxBytes <
          16 * ((dest.sourceColumns visible im.width).length.toNat * visible.height.toNat) := by
  rw [draw_eq_error_iff]
  refine exists_congr fun visible => and_congr_right fun hresized => ?_
  rw [resize_eq_tooLarge_iff]
  exact and_iff_right hresized.differs

/-- A draw arrives at what is no number exactly if an axis is not covered when it is resized. -/
theorem draw_eq_notAByte_iff {canvas im : Image} {dest : Rect} :
    draw canvas im dest = .error .notAByte ↔
      ∃ visible, canvas.Resized im dest visible ∧
        16 * ((dest.sourceColumns visible im.width).length.toNat * visible.height.toNat) ≤
          Image.maxBytes ∧
        (Resample.Uncovered (dest.sourceRows visible im.height).length visible.height ∨
          Resample.Uncovered (dest.sourceColumns visible im.width).length visible.width) := by
  rw [draw_eq_error_iff]
  refine exists_congr fun visible => and_congr_right fun hresized => ?_
  rw [resize_eq_notAByte_iff hresized.part_pos hresized.visible_pos]
  exact and_iff_right hresized.differs

/-- Nothing goes wrong in a draw on a canvas that is not very large, whatever the image and the
rectangle. -/
theorem draw_ok {canvas : Image} (hwidth : canvas.width.toNat ≤ 2 ^ 21)
    (hheight : canvas.height.toNat ≤ 2 ^ 21) (im : Image) (dest : Rect) :
    draw canvas im dest = .ok (canvas.draw im dest) := by
  rw [draw_eq_ok_iff, ne_eq, ne_eq, draw_eq_tooLarge_iff, draw_eq_notAByte_iff]
  constructor
  · rintro ⟨visible, hresized, hlarge⟩
    obtain ⟨-, hsize⟩ := (Rect.clipped_of_clip hresized.clip).size_le
    have hlength := (dest.sourceColumns visible im.width).length.toNat_lt
    have hrows := UInt32.le_iff_toNat_le.1 hsize
    have hbytes := Nat.mul_le_mul hlength.le (hrows.trans hheight)
    rw [Image.maxBytes] at hlarge
    omega
  · rintro ⟨visible, hresized, -, huncovered⟩
    obtain ⟨hcolumns, hrows⟩ := (Rect.clipped_of_clip hresized.clip).size_le
    rw [UInt32.le_iff_toNat_le] at hcolumns hrows
    obtain ⟨hpos, hpos'⟩ := hresized.part_pos
    rcases huncovered with h | h
    · exact Resample.not_uncovered hpos' (hrows.trans hheight) h
    · exact Resample.not_uncovered hpos (hcolumns.trans hwidth) h

/-- **Nothing goes wrong in a draw but its resizing**, whatever the image, the canvas and the
rectangle.  Resizing goes wrong exactly if its columns, as many as those of the source and as high
as what is visible, do not fit into memory, or if the weights of a new sample add up to nothing; on
a canvas of up to `2 ^ 21` pixels each way it never does. -/
theorem draw_fails_only_in_resize (canvas im : Image) (dest : Rect) :
    (draw canvas im dest = .ok (canvas.draw im dest) ↔
      draw canvas im dest ≠ .error .tooLarge ∧ draw canvas im dest ≠ .error .notAByte) ∧
    (draw canvas im dest = .error .tooLarge ↔
      ∃ visible, canvas.Resized im dest visible ∧
        Image.maxBytes <
          16 * ((dest.sourceColumns visible im.width).length.toNat * visible.height.toNat)) ∧
    (draw canvas im dest = .error .notAByte ↔
      ∃ visible, canvas.Resized im dest visible ∧
        16 * ((dest.sourceColumns visible im.width).length.toNat * visible.height.toNat) ≤
          Image.maxBytes ∧
        (Resample.Uncovered (dest.sourceRows visible im.height).length visible.height ∨
          Resample.Uncovered (dest.sourceColumns visible im.width).length visible.width)) ∧
    (canvas.width.toNat ≤ 2 ^ 21 → canvas.height.toNat ≤ 2 ^ 21 →
      draw canvas im dest = .ok (canvas.draw im dest)) ∧
    ∀ visible, dest.clip canvas.width canvas.height = some visible →
      im.width ≠ 0 → im.height ≠ 0 →
        let columns := dest.sourceColumns visible im.width
        let rows := dest.sourceRows visible im.height
        let made := im.visiblePart dest visible
        (dest.left ≤ visible.left ∧ dest.left ≤ visible.right ∧
          dest.top ≤ visible.top ∧ dest.top ≤ visible.bottom) ∧
        InRange (visible.left - dest.left) (visible.right - dest.left) dest.width im.width ∧
        InRange (visible.top - dest.top) (visible.bottom - dest.top) dest.height im.height ∧
        (0 < columns.length.toNat ∧
          columns.offset.toNat + columns.length.toNat ≤ im.width.toNat) ∧
        (0 < rows.length.toNat ∧ rows.offset.toNat + rows.length.toNat ≤ im.height.toNat) ∧
        (made.width = visible.width ∧ visible.width ≤ canvas.width ∧
          made.height = visible.height ∧ visible.height ≤ canvas.height) := by
  refine ⟨draw_eq_ok_iff, draw_eq_tooLarge_iff, draw_eq_notAByte_iff,
    fun hwidth hheight => draw_ok hwidth hheight im dest, ?_⟩
  intro visible hclip hwidth hheight columns rows made
  have hvisible := Rect.clipped_of_clip hclip
  obtain ⟨hcolumns, hrows⟩ := hvisible.inRange hwidth hheight
  obtain ⟨hwidth', hheight'⟩ := hvisible.size_le
  exact ⟨hvisible.corner_le, hcolumns, hrows,
    sourceSpan_inside _ _ _ (UInt32.lt_iff_toNat_lt.1 hcolumns.source_pos),
    sourceSpan_inside _ _ _ (UInt32.lt_iff_toNat_lt.1 hrows.source_pos),
    Image.width_resize _ _ _, hwidth', Image.height_resize _ _ _, hheight'⟩

/-- A rectangle that reaches from the last pixels of a canvas as far as words do: what is visible of
it is two pixels, and the image is scaled to these and not to the rectangle. -/
theorem draw_fails_only_in_resize_small :
    let canvas : Image := .fill 8 8 .clear
    let im : Image := .fill 1 1 ⟨9, 8, 7, 255⟩
    let dest : Rect := ⟨7, 6, 0xffffffff, 0xffffffff⟩
    let visible : Rect := ⟨7, 6, 8, 8⟩
    canvas.width.toNat ≤ 2 ^ 21 ∧ canvas.height.toNat ≤ 2 ^ 21 ∧
      draw canvas im dest = .ok (canvas.draw im dest) ∧
      dest.clip canvas.width canvas.height = some visible ∧ im.width ≠ 0 ∧ im.height ≠ 0 ∧
      InRange (visible.left - dest.left) (visible.right - dest.left) dest.width im.width ∧
      InRange (visible.top - dest.top) (visible.bottom - dest.top) dest.height im.height ∧
      (im.visiblePart dest visible).width = visible.width ∧ visible.width ≤ canvas.width := by
  intro canvas im dest visible
  have hcanvas : canvas.width.toNat ≤ 2 ^ 21 ∧ canvas.height.toNat ≤ 2 ^ 21 := by decide
  have hclip : dest.clip canvas.width canvas.height = some visible := by decide
  have hwidth : im.width ≠ 0 := by decide
  have hheight : im.height ≠ 0 := by decide
  obtain ⟨-, -, -, hok, hvisible⟩ := draw_fails_only_in_resize canvas im dest
  obtain ⟨-, hcolumns, hrows, -, -, hsize⟩ := hvisible visible hclip hwidth hheight
  exact ⟨hcanvas.1, hcanvas.2, hok hcanvas.1 hcanvas.2, hclip, hwidth, hheight, hcolumns, hrows,
    hsize.1, hsize.2.1⟩

/-- **A draw can go wrong.**  An image with a row of 8388610 pixels is drawn on a canvas with a row
of two more.  The middle of the last column of the canvas lies 8388611.5 columns from its left edge,
which no single-precision number does; it is taken to be 8388612, and its place on the image comes
out as 8388610, which is the right edge.  Half a column less than that is 8388610 once more, and no
column of the image is less than one away from there. -/
theorem not_draw_never_fails :
    draw (.fill 8388612 1 .clear) (.fill 8388610 1 ⟨9, 8, 7, 255⟩) ⟨0, 0, 8388612, 1⟩ =
      .error .notAByte := by
  refine draw_eq_notAByte_iff.2 ⟨⟨0, 0, 8388612, 1⟩, ⟨?_, ?_, ?_, ?_⟩, ?_, .inr ?_⟩
  · decide
  · decide
  · decide
  · decide
  · decide
  · exact ⟨8388611, by decide, by decide +kernel⟩

end Checked

end RemoteDisplay
