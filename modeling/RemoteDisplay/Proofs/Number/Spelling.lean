/-
**How a whole number may be spelled.**

A number is spelled by its digits in base ten, most significant first, with any number of zeros in
front and with a plus, a minus or nothing before them.  What is read as a number is exactly what
spells one, and a word of 32 bits is read from what spells its value.

Main definitions:

* `RemoteDisplay.Number.Digits` — the spellings of a natural number;
* `RemoteDisplay.Number.Spells` — the spellings of an integer.

Main results:

* `RemoteDisplay.Number.value_eq_ofDigits` — digits are weighted by the powers of ten;
* `RemoteDisplay.Number.readInt?_eq_some_iff` — an integer is read from its spellings only;
* `RemoteDisplay.Number.readInt32?_eq_some_iff` — and so is a word of 32 bits.
-/
import Mathlib.Data.List.Induction
import Mathlib.Data.Nat.Digits.Defs
import RemoteDisplay.Number.Decimal

set_option relaxedAutoImplicit false
set_option autoImplicit false

namespace RemoteDisplay.Number

/-- Digits are weighted by the powers of ten, the last one by one. -/
theorem value_eq_ofDigits (ds : List Char) :
    value ds = Nat.ofDigits 10 (ds.reverse.map digitValue) := by
  induction ds using List.reverseRecOn with
  | nil => rfl
  | append_singleton ds c ih =>
    rw [value_concat, ih, List.reverse_append, List.reverse_singleton, List.singleton_append,
      List.map_cons, Nat.ofDigits_cons]
    exact Nat.add_comm _ _

/-- The characters are the digits of a number: one or more, most significant first. -/
structure Digits (ds : List Char) (n : Nat) : Prop where
  ne_nil : ds ≠ []
  isDigit : ∀ c ∈ ds, isDigit c = true
  eq_ofDigits : n = Nat.ofDigits 10 (ds.reverse.map digitValue)

/-- A text spells an integer: a sign or none, then the digits of its size. -/
inductive Spells : List Char → Int → Prop
  | unsigned {ds : List Char} {n : Nat} (h : Digits ds n) : Spells ds n
  | plus {ds : List Char} {n : Nat} (h : Digits ds n) : Spells ('+' :: ds) n
  | minus {ds : List Char} {n : Nat} (h : Digits ds n) : Spells ('-' :: ds) (-n)

/-- A number is read from its digits only. -/
theorem readNat?_eq_some_iff {s : List Char} {n : Nat} : readNat? s = some n ↔ Digits s n := by
  constructor
  · intro h
    unfold readNat? at h
    split at h
    · cases h
    next hs =>
      obtain ⟨hne, hdigits⟩ : s ≠ [] ∧ s.all isDigit = true := by simpa using hs
      cases h
      exact ⟨hne, List.all_eq_true.1 hdigits, value_eq_ofDigits s⟩
  · rintro ⟨hne, hdigits, rfl⟩
    have hall : s.all isDigit = true := List.all_eq_true.2 hdigits
    simp [readNat?, hne, hall, value_eq_ofDigits]

/-- No sign is a digit, so a text that begins with one is no list of digits. -/
theorem Digits.not_sign {c : Char} {s : List Char} {n : Nat} (h : Digits (c :: s) n) :
    c ≠ '+' ∧ c ≠ '-' := by
  have hc := h.isDigit c List.mem_cons_self
  constructor
  · rintro rfl
    cases hc
  · rintro rfl
    cases hc

theorem readInt?_of_digits {s : List Char} {n : Nat} (h : Digits s n) :
    readInt? s = some (n : Int) := by
  have hread : readNat? s = some n := readNat?_eq_some_iff.2 h
  cases s with
  | nil => exact absurd rfl h.ne_nil
  | cons c s =>
    obtain ⟨hplus, hminus⟩ := h.not_sign
    unfold readInt?
    split
    next heq => exact absurd (List.cons.inj heq).1 hminus
    next heq => exact absurd (List.cons.inj heq).1 hplus
    next => rw [hread]; rfl

/-- An integer is read from its spellings only. -/
theorem readInt?_eq_some_iff {s : List Char} {n : Int} : readInt? s = some n ↔ Spells s n := by
  constructor
  · intro h
    unfold readInt? at h
    split at h
    next ds =>
      obtain ⟨m, hm, rfl⟩ := Option.map_eq_some_iff.1 h
      exact .minus (readNat?_eq_some_iff.1 hm)
    next ds =>
      obtain ⟨m, hm, rfl⟩ := Option.map_eq_some_iff.1 h
      exact .plus (readNat?_eq_some_iff.1 hm)
    next =>
      obtain ⟨m, hm, rfl⟩ := Option.map_eq_some_iff.1 h
      exact .unsigned (readNat?_eq_some_iff.1 hm)
  · intro h
    cases h with
    | unsigned h => exact readInt?_of_digits h
    | plus h => simp [readInt?, readNat?_eq_some_iff.2 h]
    | minus h => simp [readInt?, readNat?_eq_some_iff.2 h]

/-- A word of 32 bits is read from the spellings of its value only. -/
theorem readInt32?_eq_some_iff {s : List Char} {w : Int32} :
    readInt32? s = some w ↔ Spells s w.toInt := by
  rw [← readInt?_eq_some_iff]
  constructor
  · intro h
    obtain ⟨n, hn, hw⟩ := Option.bind_eq_some_iff.1 h
    split at hw
    next hrange =>
      cases hw
      rw [hn, Int32.toInt_ofInt_of_le hrange.1 (by omega)]
    · cases hw
  · intro h
    have hle := w.le_toInt
    have hlt := w.toInt_lt
    rw [readInt32?, h, Option.bind_some, if_pos ⟨hle, Int.le_of_lt_add_one hlt⟩, Int32.ofInt_toInt]

end RemoteDisplay.Number
