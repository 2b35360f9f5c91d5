/-
**Texts written in bytes.**

In UTF-8 a character of ASCII is written as one byte below 128, and every byte of another character
is 128 or more.  So bytes can be cut at a byte below 128 without tearing a character apart: they are
a text just if what stands before it and what stands behind it are.

Main definitions:

* `RemoteDisplay.Text.utf8`, `RemoteDisplay.Text.IsUtf8` — the bytes of a text;
* `RemoteDisplay.Text.ofUtf8?` — the text that some bytes are, if they are one.

Main results:

* `RemoteDisplay.Text.ofUtf8?_eq_some_iff` — reading finds the text that was written;
* `RemoteDisplay.Text.isUtf8_append_cons_iff` — bytes can be cut at a character of ASCII.
-/
set_option relaxedAutoImplicit false
set_option autoImplicit false

namespace RemoteDisplay.Text

/-- The bytes of a text. -/
def utf8 (s : List Char) : List UInt8 := s.flatMap String.utf8EncodeChar

/-- The bytes are those of a text. -/
def IsUtf8 (bytes : List UInt8) : Prop := ∃ s, bytes = utf8 s

/-- The text that some bytes are, if they are one. -/
def ofUtf8? (bytes : List UInt8) : Option String := String.fromUTF8? ⟨bytes.toArray⟩

theorem utf8_toList (s : String) : s.toByteArray = ⟨(utf8 s.toList).toArray⟩ := by
  refine ByteArray.ext (Array.toList_inj.1 ?_)
  rw [← String.utf8Encode_toList, List.utf8Encode, List.toList_data_toByteArray]
  rfl

/-- Reading finds the text that was written. -/
theorem ofUtf8?_eq_some_iff {bytes : List UInt8} {s : String} :
    ofUtf8? bytes = some s ↔ bytes = utf8 s.toList := by
  have hbytes : (⟨bytes.toArray⟩ : ByteArray) = s.toByteArray ↔ bytes = utf8 s.toList := by
    rw [utf8_toList]
    simp
  rw [← hbytes, ofUtf8?, String.fromUTF8?]
  split
  next hvalid => rw [Option.some_inj, ← String.toByteArray_inj, String.fromUTF8]
  next hinvalid =>
    constructor
    · intro h
      cases h
    · intro h
      rw [h] at hinvalid
      exact absurd s.isValidUTF8 hinvalid

theorem isSome_ofUtf8?_iff {bytes : List UInt8} : (ofUtf8? bytes).isSome ↔ IsUtf8 bytes := by
  simp only [Option.isSome_iff_exists, ofUtf8?_eq_some_iff]
  constructor
  · rintro ⟨s, hs⟩
    exact ⟨s.toList, hs⟩
  · rintro ⟨s, hs⟩
    exact ⟨String.ofList s, by rwa [String.toList_ofList]⟩

theorem ofUtf8?_eq_none_iff {bytes : List UInt8} : ofUtf8? bytes = none ↔ ¬ IsUtf8 bytes := by
  rw [← isSome_ofUtf8?_iff, Option.not_isSome_iff_eq_none]

instance (bytes : List UInt8) : Decidable (IsUtf8 bytes) := decidable_of_iff _ isSome_ofUtf8?_iff

theorem utf8_cons (c : Char) (s : List Char) :
    utf8 (c :: s) = String.utf8EncodeChar c ++ utf8 s := List.flatMap_cons

theorem utf8_append (s t : List Char) : utf8 (s ++ t) = utf8 s ++ utf8 t := List.flatMap_append

/-- A byte below 128 is a character on its own. -/
theorem utf8EncodeChar_of_mem {c : Char} {b : UInt8} (hb : b.toNat < 128)
    (h : b ∈ String.utf8EncodeChar c) : String.utf8EncodeChar c = [b] := by
  unfold String.utf8EncodeChar at h ⊢
  dsimp only at h ⊢
  split at h
  next hone => rw [if_pos hone, List.mem_singleton.1 h]
  next =>
    -- every byte of a longer character is 128 or more
    exfalso
    split at h
    · simp only [List.mem_cons, List.not_mem_nil, or_false] at h
      rcases h with rfl | rfl <;> rw [UInt8.toNat_ofNat'] at hb <;> omega
    · split at h
      · simp only [List.mem_cons, List.not_mem_nil, or_false] at h
        rcases h with rfl | rfl | rfl <;> rw [UInt8.toNat_ofNat'] at hb <;> omega
      · simp only [List.mem_cons, List.not_mem_nil, or_false] at h
        rcases h with rfl | rfl | rfl | rfl <;> rw [UInt8.toNat_ofNat'] at hb <;> omega

/-- Where a byte below 128 stands, one character ends and another begins. -/
theorem exists_of_utf8_eq_append_cons {b : UInt8} (hb : b.toNat < 128) {s : List Char}
    {before after : List UInt8} (h : utf8 s = before ++ b :: after) :
    ∃ s₁ c s₂, s = s₁ ++ c :: s₂ ∧ utf8 s₁ = before ∧ String.utf8EncodeChar c = [b] ∧
      utf8 s₂ = after := by
  induction s generalizing before with
  | nil => simp [utf8] at h
  | cons c s ih =>
    -- the byte is the first character, or it stands behind it
    have hfirst : (before = [] ∧ String.utf8EncodeChar c = [b] ∧ utf8 s = after) ∨
        ∃ front, before = String.utf8EncodeChar c ++ front ∧ utf8 s = front ++ b :: after := by
      rw [utf8_cons, List.append_eq_append_iff] at h
      rcases h with ⟨front, hbefore, htail⟩ | ⟨back, hchar, htail⟩
      · exact .inr ⟨front, hbefore, htail⟩
      · cases back with
        | nil => exact .inr ⟨[], by simpa using hchar.symm, htail.symm⟩
        | cons b' back =>
          obtain ⟨rfl, hafter⟩ := List.cons.inj htail
          have hsingle := utf8EncodeChar_of_mem (c := c) hb (by simp [hchar])
          rw [hsingle, eq_comm, List.append_eq_singleton_iff] at hchar
          simp only [List.cons_ne_nil, and_false, or_false, List.cons.injEq, true_and] at hchar
          obtain ⟨rfl, rfl⟩ := hchar
          exact .inl ⟨rfl, hsingle, hafter.symm⟩
    rcases hfirst with ⟨rfl, hchar, hafter⟩ | ⟨front, rfl, htail⟩
    · exact ⟨[], c, s, rfl, rfl, hchar, hafter⟩
    · obtain ⟨s₁, d, s₂, rfl, rfl, hd, hafter⟩ := ih htail
      exact ⟨c :: s₁, d, s₂, rfl, utf8_cons c s₁, hd, hafter⟩

/-- Every byte below 128 is a character. -/
theorem utf8EncodeChar_ofUInt8 {b : UInt8} (hb : b.toNat < 128) :
    String.utf8EncodeChar (Char.ofUInt8 b) = [b] := by
  have hval : (Char.ofUInt8 b).val.toNat = b.toNat := UInt8.toNat_toUInt32 b
  simp only [String.utf8EncodeChar, hval]
  rw [if_pos (by omega), UInt8.ofNat_toNat]

/-- Bytes can be cut at a character of ASCII: they are a text just if both parts are. -/
theorem isUtf8_append_cons_iff {b : UInt8} (hb : b.toNat < 128) (before after : List UInt8) :
    IsUtf8 (before ++ b :: after) ↔ IsUtf8 before ∧ IsUtf8 after := by
  constructor
  · rintro ⟨s, hs⟩
    obtain ⟨s₁, c, s₂, -, rfl, -, rfl⟩ := exists_of_utf8_eq_append_cons hb hs.symm
    exact ⟨⟨s₁, rfl⟩, ⟨s₂, rfl⟩⟩
  · rintro ⟨⟨s₁, rfl⟩, ⟨s₂, rfl⟩⟩
    refine ⟨s₁ ++ Char.ofUInt8 b :: s₂, ?_⟩
    rw [utf8_append, utf8_cons, utf8EncodeChar_ofUInt8 hb]
    rfl

theorem isUtf8_concat_iff {b : UInt8} (hb : b.toNat < 128) (bytes : List UInt8) :
    IsUtf8 (bytes ++ [b]) ↔ IsUtf8 bytes := by
  have hnil : IsUtf8 [] := ⟨[], rfl⟩
  rw [isUtf8_append_cons_iff hb, and_iff_left hnil]

end RemoteDisplay.Text
