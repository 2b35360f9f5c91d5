/-
**Frames are read exactly as they are written.**

A message is a frame if and only if writing that frame gives the message, its rectangle is not
inverted and its payload is not empty.  So writing and reading undo each other, and every byte of a
message counts.  A message that is no frame is refused for a reason that its length and its header
determine.

The header is described here by numbers: a word is the sum of its bytes, each weighted with a power
of 256.  The words of a message are put together from bits instead, and the two descriptions are
compared first.

Main definitions:

* `RemoteDisplay.Bytes.littleEndian` — the number that some bytes stand for;
* `RemoteDisplay.Frame.wordAt`, `RemoteDisplay.Frame.rectAt` — the word that begins at an offset of
  a message, and the rectangle that the first four of them bound.

Main results:

* `RemoteDisplay.Bytes.toNat_word`, `RemoteDisplay.Bytes.littleEndian_ofWord` — the bytes of a word
  and its value;
* `RemoteDisplay.Bytes.ofWord_eq_iff` — four bytes make one word, and a word has four bytes;
* `RemoteDisplay.Frame.splitHeader_eq_some_iff` — a header is read exactly where one is written;
* `RemoteDisplay.Frame.decode_exact` — **reading accepts exactly what writing produces**, and why
  all else is refused.
-/
import RemoteDisplay.Frame.Wire

set_option relaxedAutoImplicit false
set_option autoImplicit false

namespace RemoteDisplay

namespace Bytes

/-! ### The value of four bytes -/

/-- The number that some bytes stand for, least significant first. -/
def littleEndian (bytes : List UInt8) : Nat := bytes.foldr (fun b n => b.toNat + 256 * n) 0

theorem littleEndian_four (a b c d : UInt8) :
    littleEndian [a, b, c, d] = a.toNat + 256 * (b.toNat + 256 * (c.toNat + 256 * d.toNat)) := by
  simp [littleEndian]

/-- Bits that do not meet are put together by adding. -/
theorem or_shiftLeft_eq_add {low k : Nat} (h : low < 1 <<< k) (high : Nat) :
    low ||| high <<< k = low + high <<< k := by
  rw [Nat.one_shiftLeft] at h
  rw [Nat.or_comm, ← Nat.shiftLeft_add_eq_or_of_lt h, Nat.add_comm]

/-- The value of a word is that of its bytes. -/
theorem toNat_word (a b c d : UInt8) : (word a b c d).toNat = littleEndian [a, b, c, d] := by
  have ha := a.toNat_lt
  have hb := b.toNat_lt
  have hc := c.toNat_lt
  have hd := d.toNat_lt
  -- no shift moves a bit out of the word
  have hword : (word a b c d).toNat =
      a.toNat ||| b.toNat <<< 8 ||| c.toNat <<< 16 ||| d.toNat <<< 24 := by
    have hfit : ∀ n k, n * 2 ^ k < 2 ^ 32 → n <<< k % 2 ^ 32 = n <<< k := by
      intro n k h
      rw [Nat.shiftLeft_eq, Nat.mod_eq_of_lt h]
    simp only [word, UInt32.toNat_or, UInt32.toNat_shiftLeft, UInt8.toNat_toUInt32]
    rw [← hfit b.toNat 8 (by omega), ← hfit c.toNat 16 (by omega), ← hfit d.toNat 24 (by omega)]
    rfl
  -- each byte is put above the bits that are there already
  have hab : a.toNat ||| b.toNat <<< 8 = a.toNat + b.toNat <<< 8 := or_shiftLeft_eq_add ha _
  have habc : (a.toNat + b.toNat <<< 8) ||| c.toNat <<< 16 =
      a.toNat + b.toNat <<< 8 + c.toNat <<< 16 := or_shiftLeft_eq_add (by omega) _
  rw [hword, hab, habc, or_shiftLeft_eq_add (by omega), littleEndian_four]
  omega

/-- The bytes of a word have its value. -/
theorem littleEndian_ofWord (w : UInt32) : littleEndian (ofWord w) = w.toNat := by
  have hw := w.toNat_lt
  simp only [ofWord, littleEndian_four, UInt32.toNat_toUInt8, UInt32.toNat_shiftRight,
    Nat.shiftRight_eq_div_pow]
  simp only [UInt32.reduceToNat, Nat.reduceMod, Nat.reducePow]
  omega

/-- Four bytes are determined by their value. -/
theorem littleEndian_four_inj {a b c d a' b' c' d' : UInt8}
    (h : littleEndian [a, b, c, d] = littleEndian [a', b', c', d']) :
    [a, b, c, d] = [a', b', c', d'] := by
  have ha := a.toNat_lt
  have ha' := a'.toNat_lt
  have hb := b.toNat_lt
  have hb' := b'.toNat_lt
  have hc := c.toNat_lt
  have hc' := c'.toNat_lt
  have hd := d.toNat_lt
  have hd' := d'.toNat_lt
  simp only [littleEndian_four] at h
  simp only [List.cons.injEq, and_true, ← UInt8.toNat_inj]
  omega

/-- Four bytes make one word, and a word has four bytes. -/
theorem ofWord_eq_iff (w : UInt32) (a b c d : UInt8) :
    [a, b, c, d] = ofWord w ↔ word a b c d = w := by
  constructor
  · intro h
    rw [← UInt32.toNat_inj, toNat_word, h, littleEndian_ofWord]
  · rintro rfl
    have h := littleEndian_ofWord (word a b c d)
    rw [toNat_word] at h
    exact littleEndian_four_inj h.symm

end Bytes

namespace Frame

/-! ### The header -/

/-- The word that begins at an offset of a message. -/
def wordAt (bytes : List UInt8) (offset : Nat) : UInt32 :=
  UInt32.ofNat (Bytes.littleEndian ((bytes.drop offset).take 4))

/-- The rectangle that the first four words of a message bound. -/
def rectAt (bytes : List UInt8) : Rect :=
  ⟨wordAt bytes 0, wordAt bytes 4, wordAt bytes 8, wordAt bytes 12⟩

/-- A header is read exactly where one is written. -/
theorem splitHeader_eq_some_iff (bytes : List UInt8) (r : Rect) (payload : List UInt8) :
    splitHeader bytes = some (r, payload) ↔ bytes = header r ++ payload := by
  constructor
  · intro h
    unfold splitHeader at h
    split at h
    next l₀ l₁ l₂ l₃ t₀ t₁ t₂ t₃ r₀ r₁ r₂ r₃ b₀ b₁ b₂ b₃ rest =>
      cases h
      have hl := (Bytes.ofWord_eq_iff _ l₀ l₁ l₂ l₃).2 rfl
      have ht := (Bytes.ofWord_eq_iff _ t₀ t₁ t₂ t₃).2 rfl
      have hr := (Bytes.ofWord_eq_iff _ r₀ r₁ r₂ r₃).2 rfl
      have hb := (Bytes.ofWord_eq_iff _ b₀ b₁ b₂ b₃).2 rfl
      simp only [header, ← hl, ← ht, ← hr, ← hb]
      rfl
    · cases h
  · rintro rfl
    have hword : ∀ w : UInt32, Bytes.word w.toUInt8 (w >>> 8).toUInt8 (w >>> 16).toUInt8
        (w >>> 24).toUInt8 = w := fun w => (Bytes.ofWord_eq_iff w _ _ _ _).1 rfl
    simp [header, Bytes.ofWord, splitHeader, hword]

theorem wordAt_append (before : List UInt8) (w : UInt32) (rest : List UInt8) :
    wordAt (before ++ (Bytes.ofWord w ++ rest)) before.length = w := by
  have htake : (Bytes.ofWord w ++ rest).take 4 = Bytes.ofWord w := rfl
  rw [wordAt, List.drop_left, htake, Bytes.littleEndian_ofWord, UInt32.ofNat_toNat]

/-- The rectangle in front of a message is the one whose header stands there. -/
theorem rectAt_header_append (r : Rect) (payload : List UInt8) :
    rectAt (header r ++ payload) = r := by
  -- each word stands behind the words before it, and their bytes are its offset
  have hl := wordAt_append [] r.left
    (Bytes.ofWord r.top ++ Bytes.ofWord r.right ++ Bytes.ofWord r.bottom ++ payload)
  have ht := wordAt_append (Bytes.ofWord r.left) r.top
    (Bytes.ofWord r.right ++ Bytes.ofWord r.bottom ++ payload)
  have hr := wordAt_append (Bytes.ofWord r.left ++ Bytes.ofWord r.top) r.right
    (Bytes.ofWord r.bottom ++ payload)
  have hb := wordAt_append (Bytes.ofWord r.left ++ Bytes.ofWord r.top ++ Bytes.ofWord r.right)
    r.bottom payload
  simp only [List.append_assoc, List.nil_append, List.length_append, List.length_nil,
    Bytes.length_ofWord, Nat.reduceAdd] at hl ht hr hb
  simp only [rectAt, header, List.append_assoc, hl, ht, hr, hb]

/-- A message is shorter than a header, or it is a header and what follows. -/
theorem short_or_header (bytes : List UInt8) :
    bytes.length < headerSize ∨ ∃ payload, bytes = header (rectAt bytes) ++ payload := by
  cases h : splitHeader bytes with
  | none => exact .inl ((splitHeader_eq_none_iff bytes).1 h)
  | some parts =>
    obtain ⟨r, payload⟩ := parts
    have hbytes := (splitHeader_eq_some_iff bytes r payload).1 h
    refine .inr ⟨payload, ?_⟩
    rw [hbytes, rectAt_header_append]

/-! ### Reading -/

theorem decode_header_append (r : Rect) (payload : List UInt8) :
    decode (header r ++ payload) =
      if r.isInverted then .error (.invertedRect r)
      else if payload = [] then .error (.emptyPayload r)
      else .ok ⟨r, payload⟩ := by
  simp [decode, (splitHeader_eq_some_iff _ r payload).2 rfl, List.isEmpty_iff]

/-- Reading a message by offsets instead of taking it apart. -/
theorem decode_eq_by_offset (bytes : List UInt8) :
    decode bytes =
      if bytes.length < 16 then .error (.insufficientData 16 bytes.length)
      else if (rectAt bytes).isInverted then .error (.invertedRect (rectAt bytes))
      else if bytes.length = 16 then .error (.emptyPayload (rectAt bytes))
      else .ok ⟨rectAt bytes, bytes.drop 16⟩ := by
  rcases short_or_header bytes with hshort | ⟨payload, hbytes⟩
  · have hlt : bytes.length < 16 := hshort
    rw [if_pos hlt, decode, (splitHeader_eq_none_iff bytes).2 hshort]
    rfl
  · have hlength : bytes.length = 16 + payload.length := by
      rw [hbytes, List.length_append, length_header]
      rfl
    have hdrop : bytes.drop 16 = payload := by
      rw [hbytes]
      exact List.drop_left' (length_header _)
    -- the boundary: sixteen bytes are a header and nothing else
    have hempty : bytes.length = 16 ↔ payload = [] := by
      rw [← List.length_eq_zero_iff]
      omega
    have hdecode := decode_header_append (rectAt bytes) payload
    rw [← hbytes] at hdecode
    have hlong : ¬ bytes.length < 16 := by omega
    rw [hdecode, if_neg hlong, hdrop]
    simp only [hempty]

/-- Writing a frame and reading it gives the frame, if its rectangle is not inverted and its payload
is not empty. -/
theorem decode_encode {f : Frame} (hr : f.rect.isInverted = false) (hp : f.payload ≠ []) :
    decode f.encode = .ok f := by
  simp [encode, decode_header_append, hr, hp]

/-- Reading a frame and writing it gives the message, byte by byte; and only a frame with a payload
and a rectangle that is not inverted is ever read. -/
theorem encode_of_decode {bytes : List UInt8} {f : Frame} (h : decode bytes = .ok f) :
    f.encode = bytes ∧ f.rect.isInverted = false ∧ f.payload ≠ [] := by
  rcases short_or_header bytes with hshort | ⟨payload, hbytes⟩
  · rw [decode, (splitHeader_eq_none_iff bytes).2 hshort] at h
    cases h
  · rw [hbytes, decode_header_append] at h
    split at h
    · cases h
    next hr =>
      split at h
      · cases h
      next hp =>
        cases h
        exact ⟨hbytes.symm, Bool.eq_false_iff.2 hr, hp⟩

theorem decode_eq_ok_iff (bytes : List UInt8) (f : Frame) :
    decode bytes = .ok f ↔ bytes = f.encode ∧ f.rect.isInverted = false ∧ f.payload ≠ [] := by
  constructor
  · intro h
    obtain ⟨hbytes, hr, hp⟩ := encode_of_decode h
    exact ⟨hbytes.symm, hr, hp⟩
  · rintro ⟨rfl, hr, hp⟩
    exact decode_encode hr hp

/-! ### Refusing -/

theorem decode_eq_insufficientData_iff (bytes : List UInt8) (needed available : Nat) :
    decode bytes = .error (.insufficientData needed available) ↔
      bytes.length < 16 ∧ needed = 16 ∧ available = bytes.length := by
  rw [decode_eq_by_offset]
  constructor
  · intro h
    split at h
    next hshort =>
      cases h
      exact ⟨hshort, rfl, rfl⟩
    · split at h
      · cases h
      · split at h <;> cases h
  · rintro ⟨hshort, rfl, rfl⟩
    exact if_pos hshort

theorem decode_eq_invertedRect_iff (bytes : List UInt8) (r : Rect) :
    decode bytes = .error (.invertedRect r) ↔
      16 ≤ bytes.length ∧ r = rectAt bytes ∧ r.isInverted = true := by
  rw [decode_eq_by_offset]
  constructor
  · intro h
    split at h
    · cases h
    next hlong =>
      split at h
      next hr =>
        cases h
        exact ⟨Nat.not_lt.1 hlong, rfl, hr⟩
      · split at h <;> cases h
  · rintro ⟨hlong, rfl, hr⟩
    rw [if_neg (Nat.not_lt.2 hlong), if_pos hr]

theorem decode_eq_emptyPayload_iff (bytes : List UInt8) (r : Rect) :
    decode bytes = .error (.emptyPayload r) ↔
      bytes.length = 16 ∧ r = rectAt bytes ∧ r.isInverted = false := by
  rw [decode_eq_by_offset]
  constructor
  · intro h
    split at h
    · cases h
    · split at h
      · cases h
      next hr =>
        split at h
        next hempty =>
          cases h
          exact ⟨hempty, rfl, Bool.eq_false_iff.2 hr⟩
        · cases h
  · rintro ⟨hempty, rfl, hr⟩
    rw [if_neg (by omega), if_neg (Bool.eq_false_iff.1 hr), if_pos hempty]

/-- **Reading accepts exactly what writing produces**, so that no byte of a message is lost and no
two messages are the same frame; and a message that is refused is refused for the first of three
reasons that applies. -/
theorem decode_exact (bytes : List UInt8) :
    (∀ f : Frame, decode bytes = .ok f ↔
      bytes = f.encode ∧ f.rect.isInverted = false ∧ f.payload ≠ []) ∧
    (∀ f : Frame, f.rect.isInverted = false → f.payload ≠ [] → decode f.encode = .ok f) ∧
    (∀ f : Frame, decode bytes = .ok f → f.encode = bytes) ∧
    (∀ (other : List UInt8) (f : Frame), decode bytes = .ok f → decode other = .ok f →
      bytes = other) ∧
    (∀ needed available, decode bytes = .error (.insufficientData needed available) ↔
      bytes.length < 16 ∧ needed = 16 ∧ available = bytes.length) ∧
    (∀ r, decode bytes = .error (.invertedRect r) ↔
      16 ≤ bytes.length ∧ r = rectAt bytes ∧ r.isInverted = true) ∧
    (∀ r, decode bytes = .error (.emptyPayload r) ↔
      bytes.length = 16 ∧ r = rectAt bytes ∧ r.isInverted = false) := by
  refine ⟨decode_eq_ok_iff bytes, fun f => decode_encode, fun f h => (encode_of_decode h).1, ?_,
    decode_eq_insufficientData_iff bytes, decode_eq_invertedRect_iff bytes,
    decode_eq_emptyPayload_iff bytes⟩
  intro other f h h'
  rw [← (encode_of_decode h).1, (encode_of_decode h').1]

end Frame

end RemoteDisplay
