/-
**How a real number may be spelled.**

The size of a number is spelled by digits with an optional point among them, before them or behind
them, and an optional exponent of ten after the letter e; an infinity and what is no number have
names, in any case of their letters.  A plus, a minus or nothing stands in front.  What is read as a
real number is exactly what spells one, and it is read as the nearest double.

Main definitions:

* `RemoteDisplay.Number.Mantissa`, `RemoteDisplay.Number.Exponent` — the two parts of a numeral;
* `RemoteDisplay.Number.Magnitude` — the spellings of a size;
* `RemoteDisplay.Number.SpellsReal` — the spellings of a double.

Main result:

* `RemoteDisplay.Number.readReal?_eq_some_iff` — **a double is read from its spellings only**.
-/
import RemoteDisplay.Proofs.Double.Decimal
import RemoteDisplay.Proofs.Number.Spelling
import RemoteDisplay.Proofs.Text.Letters

set_option relaxedAutoImplicit false
set_option autoImplicit false

namespace RemoteDisplay.Number

open Float.Model.UnpackedFloat Double

/-! ### Spellings -/

/-- The digits of a number with an optional point, of which some stand behind the point. -/
inductive Mantissa : List Char → ℕ → ℕ → Prop
  | whole {ds : List Char} {n : ℕ} (h : Digits ds n) : Mantissa ds n 0
  | point {ds fs : List Char} {n : ℕ} (h : Digits (ds ++ fs) n) :
    Mantissa (ds ++ '.' :: fs) n fs.length

/-- An optional exponent of ten after the letter e. -/
inductive Exponent : List Char → ℤ → Prop
  | none : Exponent [] 0
  | letter {c : Char} {s : List Char} {e : ℤ} (hc : c = 'e' ∨ c = 'E') (h : Spells s e) :
    Exponent (c :: s) e

/-- A text spells a size, or what is no number. -/
inductive Magnitude : List Char → Option EReal → Prop
  | number {ds s : List Char} {n k : ℕ} {e : ℤ} (hdigits : Mantissa ds n k) (hs : Exponent s e) :
    Magnitude (ds ++ s) (some ((n * 10 ^ (e - k) : ℝ) : EReal))
  | infinity {s : List Char}
    (h : Text.Respells s "inf".toList ∨ Text.Respells s "infinity".toList) : Magnitude s (some ⊤)
  | notANumber {s : List Char} (h : Text.Respells s "nan".toList) : Magnitude s none

/-- A text spells a double: a sign or none, then the size to which it is the nearest one. -/
inductive SpellsReal : List Char → Float → Prop
  | unsigned {s : List Char} {a : Option EReal} {x : Float} (h : Magnitude s a)
    (hx : IsNearest .positive a x) : SpellsReal s x
  | plus {s : List Char} {a : Option EReal} {x : Float} (h : Magnitude s a)
    (hx : IsNearest .positive a x) : SpellsReal ('+' :: s) x
  | minus {s : List Char} {a : Option EReal} {x : Float} (h : Magnitude s a)
    (hx : IsNearest .negative a x) : SpellsReal ('-' :: s) x

/-! ### Digits and points -/

section

variable {ds s : List Char}

/-- The digits in front end where something else follows. -/
theorem takeDigits_append (hds : ∀ c ∈ ds, isDigit c = true)
    (hs : ∀ c ∈ s.head?, isDigit c = false) : takeDigits (ds ++ s) = (ds, s) := by
  have htake : s.takeWhile isDigit = [] ∧ s.dropWhile isDigit = s := by
    cases s with
    | nil => exact ⟨rfl, rfl⟩
    | cons c s =>
      have hc : isDigit c = false := hs c rfl
      simp [hc]
  rw [takeDigits, List.span_eq_takeWhile_dropWhile, List.takeWhile_append_of_pos hds,
    List.dropWhile_append_of_pos hds, htake.1, htake.2, List.append_nil]

/-- What is split off in front are digits. -/
theorem takeDigits_eq {t : List Char} (h : takeDigits t = (ds, s)) :
    t = ds ++ s ∧ ∀ c ∈ ds, isDigit c = true := by
  rw [takeDigits, List.span_eq_takeWhile_dropWhile, Prod.mk.injEq] at h
  obtain ⟨rfl, rfl⟩ := h
  exact ⟨(List.takeWhile_append_dropWhile).symm, fun c hc => List.mem_takeWhile_imp hc⟩

end

theorem digits_value {ds : List Char} (hne : ds ≠ []) (h : ∀ c ∈ ds, isDigit c = true) :
    Digits ds (value ds) :=
  ⟨hne, h, value_eq_ofDigits ds⟩

theorem Digits.value_eq {ds : List Char} {n : ℕ} (h : Digits ds n) : value ds = n := by
  rw [h.eq_ofDigits, value_eq_ofDigits]

theorem readExponent?_eq_some_iff {s : List Char} {e : ℤ} :
    readExponent? s = some e ↔ Exponent s e := by
  constructor
  · intro h
    cases s with
    | nil =>
      cases h
      exact .none
    | cons c s =>
      rw [readExponent?] at h
      split at h
      · exact .letter ‹_› (readInt?_eq_some_iff.1 h)
      · cases h
  · intro h
    cases h with
    | none => rfl
    | letter hc h => rw [readExponent?, if_pos hc, readInt?_eq_some_iff.2 h]

/-- An exponent begins with no digit and no point. -/
theorem Exponent.head {s : List Char} {e : ℤ} (h : Exponent s e) :
    ∀ c ∈ s.head?, isDigit c = false ∧ c ≠ '.' := by
  intro c hc
  cases h with
  | none => cases hc
  | letter hletter h =>
    obtain rfl := Option.some.inj hc
    rcases hletter with rfl | rfl <;> exact ⟨rfl, by decide⟩

theorem takeFraction_of_ne {s : List Char} (h : ∀ c ∈ s.head?, c ≠ '.') :
    takeFraction s = ([], s) := by
  cases s with
  | nil => rfl
  | cons c s =>
    have hc : c ≠ '.' := h c rfl
    rw [takeFraction]
    intro t ht
    exact hc (List.cons.inj ht).1

/-- A numeral is read from its two parts. -/
theorem readUnsigned?_append (negative : Bool) {ds s : List Char} {n k : ℕ} {e : ℤ}
    (hdigits : Mantissa ds n k) (hs : Exponent s e) :
    readUnsigned? negative (ds ++ s) = some ⟨negative, n, e - k⟩ := by
  have hread := readExponent?_eq_some_iff.2 hs
  have hhead := hs.head
  cases hdigits with
  | whole h =>
    have hempty : ds.isEmpty = false := List.isEmpty_eq_false_iff.2 h.ne_nil
    have htake := takeDigits_append h.isDigit fun c hc => (hhead c hc).1
    have hfraction := takeFraction_of_ne fun c hc => (hhead c hc).2
    simp [readUnsigned?, htake, hfraction, hempty, hread, Decimal.ofDigits, h.value_eq]
  | @point ds fs n h =>
    have hempty : (ds.isEmpty && fs.isEmpty) = false := by
      simpa using h.ne_nil
    have htake : takeDigits (ds ++ '.' :: (fs ++ s)) = (ds, '.' :: (fs ++ s)) := by
      refine takeDigits_append (fun c hc => h.isDigit c (List.mem_append_left fs hc)) ?_
      intro c hc
      obtain rfl := Option.some.inj hc
      rfl
    have hfraction : takeFraction ('.' :: (fs ++ s)) = (fs, s) :=
      takeDigits_append (fun c hc => h.isDigit c (List.mem_append_right ds hc))
        fun c hc => (hhead c hc).1
    simp [readUnsigned?, htake, hfraction, hempty, hread, Decimal.ofDigits, h.value_eq]

/-- After a point there are digits, and without one there are none. -/
theorem takeFraction_eq {fs s t : List Char} (h : takeFraction t = (fs, s)) :
    (t = s ∧ fs = []) ∨ (t = '.' :: (fs ++ s) ∧ ∀ c ∈ fs, isDigit c = true) := by
  unfold takeFraction at h
  split at h
  next t =>
    obtain ⟨rfl, hfs⟩ := takeDigits_eq h
    exact .inr ⟨rfl, hfs⟩
  next t hpoint =>
    rw [Prod.mk.injEq] at h
    exact .inl ⟨h.2, h.1.symm⟩

/-- What is read as a numeral has its two parts. -/
theorem exists_of_readUnsigned? {negative : Bool} {t : List Char} {d : Decimal}
    (h : readUnsigned? negative t = some d) : ∃ ds s k e, t = ds ++ s ∧ Mantissa ds d.digits k ∧
      Exponent s e ∧ d = ⟨negative, d.digits, e - k⟩ := by
  unfold readUnsigned? at h
  rcases hwhole : takeDigits t with ⟨ds, s⟩
  rcases hfraction : takeFraction s with ⟨fs, s'⟩
  simp only [hwhole, hfraction] at h
  split at h
  · cases h
  next hempty =>
    obtain ⟨e, he, rfl⟩ := Option.map_eq_some_iff.1 h
    have hexponent := readExponent?_eq_some_iff.1 he
    obtain ⟨rfl, hds⟩ := takeDigits_eq hwhole
    rcases takeFraction_eq hfraction with ⟨rfl, rfl⟩ | ⟨rfl, hfs⟩
    · have hne : ds ≠ [] := by simpa using hempty
      refine ⟨ds, s, 0, e, rfl, ?_, hexponent, rfl⟩
      rw [Decimal.ofDigits, List.append_nil]
      exact .whole (digits_value hne hds)
    · have hne : ds ++ fs ≠ [] := by simpa using hempty
      have hdigits : ∀ c ∈ ds ++ fs, isDigit c = true := by
        intro c hc
        exact (List.mem_append.1 hc).elim (hds c) (hfs c)
      have hpoint : Mantissa (ds ++ '.' :: fs) (value (ds ++ fs)) fs.length :=
        .point (digits_value hne hdigits)
      exact ⟨ds ++ '.' :: fs, s', fs.length, e, by simp, hpoint, hexponent, rfl⟩

/-! ### Names -/

/-- The characters of a numeral are the same in lower case. -/
theorem toLower_eq_self {c : Char} (h : isDigit c = true ∨ c = '.') : c.toLower = c := by
  refine Char.toLower_eq_of_not_isUpper ?_
  rcases h with h | rfl
  · intro hupper
    simp only [isDigit, Char.isUpper, Bool.and_eq_true, decide_eq_true_eq] at h hupper
    have hle : 65 ≤ c.toNat := UInt32.le_iff_toNat_le.1 hupper.1
    omega
  · decide

/-- A numeral begins with a digit or a point. -/
theorem Mantissa.exists_cons {ds : List Char} {n k : ℕ} (h : Mantissa ds n k) :
    ∃ c t, ds = c :: t ∧ (isDigit c = true ∨ c = '.') := by
  cases h with
  | whole h =>
    obtain ⟨c, t, rfl⟩ := List.exists_cons_of_ne_nil h.ne_nil
    exact ⟨c, t, rfl, .inl (h.isDigit c List.mem_cons_self)⟩
  | @point ds fs n h =>
    cases ds with
    | nil => exact ⟨'.', fs, rfl, .inr rfl⟩
    | cons c ds => exact ⟨c, ds ++ '.' :: fs, rfl, .inl (h.isDigit c List.mem_cons_self)⟩

/-- Nothing else begins a numeral. -/
theorem ne_of_begins {c d : Char} (h : isDigit c = true ∨ c = '.')
    (hd : isDigit d = false ∧ d ≠ '.') : c ≠ d := by
  rintro rfl
  rcases h with h | h
  · rw [hd.1] at h
    cases h
  · exact hd.2 h

/-- A numeral is no name. -/
theorem named?_of_mantissa {ds : List Char} {n k : ℕ} (h : Mantissa ds n k) (s : List Char) :
    named? (ds ++ s) = none := by
  obtain ⟨c, t, rfl, hc⟩ := h.exists_cons
  have hi : c ≠ 'i' := ne_of_begins hc (by decide)
  have hn : c ≠ 'n' := ne_of_begins hc (by decide)
  simp [named?, toLower_eq_self hc, hi, hn]

section

variable {s name : List Char}

theorem map_toLower_eq_iff (hname : name.map Char.toLower = name) :
    s.map Char.toLower = name ↔ Text.Respells s name := by
  rw [← Text.sameLetters_iff, Text.sameLetters, beq_iff_eq, hname]

theorem named?_of_infinity (h : Text.Respells s "inf".toList ∨ Text.Respells s "infinity".toList) :
    named? s = some (1 / 0) := by
  rw [← map_toLower_eq_iff rfl, ← map_toLower_eq_iff rfl] at h
  exact if_pos h

theorem named?_of_notANumber (h : Text.Respells s "nan".toList) : named? s = some (0 / 0) := by
  rw [← map_toLower_eq_iff rfl] at h
  simp [named?, h]

/-- What has a name spells an infinity or what is no number. -/
theorem exists_of_named? {x : Float} (h : named? s = some x) : ∃ a, Magnitude s a := by
  unfold named? at h
  dsimp only at h
  split at h
  next hname =>
    rw [map_toLower_eq_iff rfl, map_toLower_eq_iff rfl] at hname
    exact ⟨some ⊤, .infinity hname⟩
  next =>
    split at h
    next hname => exact ⟨none, .notANumber ((map_toLower_eq_iff rfl).1 hname)⟩
    next => cases h

end

/-! ### Reading -/

section

variable {negative : Bool} {s : List Char} {a : Option EReal} {x : Float}

theorem isNearest_infinity (negative : Bool) :
    IsNearest (signFor negative) (some ⊤) (if negative then -(1 / 0) else 1 / 0) :=
  IsDouble.ite_neg ⟨rfl, rfl⟩ negative

theorem isNearest_notANumber (negative : Bool) :
    IsNearest (signFor negative) none (if negative then -(0 / 0) else 0 / 0) := by
  cases negative <;> rfl

/-- What spells a size is read as the nearest double. -/
theorem Magnitude.exists_read (h : Magnitude s a) (negative : Bool) :
    ∃ x, readMagnitude? negative s = some x ∧ IsNearest (signFor negative) a x := by
  cases h with
  | number hdigits hs =>
    refine ⟨_, ?_, isDouble_toFloat ⟨negative, _, _⟩⟩
    simp only [readMagnitude?, named?_of_mantissa hdigits, readUnsigned?_append negative hdigits hs,
      Option.map_some]
  | infinity h =>
    refine ⟨_, ?_, isNearest_infinity negative⟩
    simp only [readMagnitude?, named?_of_infinity h]
  | notANumber h =>
    refine ⟨_, ?_, isNearest_notANumber negative⟩
    simp only [readMagnitude?, named?_of_notANumber h]

/-- What is read as a size spells one. -/
theorem exists_magnitude (h : readMagnitude? negative s = some x) : ∃ a, Magnitude s a := by
  unfold readMagnitude? at h
  split at h
  next hname => exact exists_of_named? hname
  next hname =>
    obtain ⟨d, hd, -⟩ := Option.map_eq_some_iff.1 h
    obtain ⟨ds, t, k, e, rfl, hdigits, ht, -⟩ := exists_of_readUnsigned? hd
    exact ⟨_, .number hdigits ht⟩

/-- A size is read from its spellings only. -/
theorem readMagnitude?_eq_some_iff : readMagnitude? negative s = some x ↔
    ∃ a, Magnitude s a ∧ IsNearest (signFor negative) a x := by
  constructor
  · intro h
    obtain ⟨a, ha⟩ := exists_magnitude h
    obtain ⟨y, hy, hnearest⟩ := ha.exists_read negative
    obtain rfl := Option.some.inj (h.symm.trans hy)
    exact ⟨a, ha, hnearest⟩
  · rintro ⟨a, ha, hx⟩
    obtain ⟨y, hy, hnearest⟩ := ha.exists_read negative
    rw [hy, hnearest.unique hx]

end

/-- No sign is a letter, so a text that begins with one is no name. -/
theorem not_sign_of_eitherCase {c d : Char} (h : Text.EitherCase c d) (hd : d = 'i' ∨ d = 'n') :
    c ≠ '+' ∧ c ≠ '-' := by
  rcases hd with rfl | rfl <;> rcases h with rfl | rfl <;> decide

/-- A size has no sign. -/
theorem Magnitude.not_sign {c : Char} {s : List Char} {a : Option EReal}
    (h : Magnitude (c :: s) a) : c ≠ '+' ∧ c ≠ '-' := by
  generalize ht : c :: s = t at h
  cases h with
  | number hdigits hs =>
    obtain ⟨d, t, rfl, hd⟩ := hdigits.exists_cons
    obtain ⟨rfl, -⟩ := List.cons.inj ht
    exact ⟨ne_of_begins hd (by decide), ne_of_begins hd (by decide)⟩
  | infinity h =>
    subst ht
    rcases h with h | h
    · exact not_sign_of_eitherCase (List.forall₂_cons.1 h).1 (.inl rfl)
    · exact not_sign_of_eitherCase (List.forall₂_cons.1 h).1 (.inl rfl)
  | notANumber h =>
    subst ht
    exact not_sign_of_eitherCase (List.forall₂_cons.1 h).1 (.inr rfl)

/-- **A double is read from its spellings only.** -/
theorem readReal?_eq_some_iff {s : List Char} {x : Float} :
    readReal? s = some x ↔ SpellsReal s x := by
  constructor
  · intro h
    unfold readReal? at h
    split at h
    next s =>
      obtain ⟨a, ha, hx⟩ := readMagnitude?_eq_some_iff.1 h
      exact .minus ha hx
    next s =>
      obtain ⟨a, ha, hx⟩ := readMagnitude?_eq_some_iff.1 h
      exact .plus ha hx
    next =>
      obtain ⟨a, ha, hx⟩ := readMagnitude?_eq_some_iff.1 h
      exact .unsigned ha hx
  · intro h
    cases h with
    | @unsigned s a x h hx =>
      -- the reader looks for a sign first, and a size has none
      have hread : readMagnitude? false s = some x := readMagnitude?_eq_some_iff.2 ⟨a, h, hx⟩
      unfold readReal?
      split
      next s => exact absurd rfl h.not_sign.2
      next s => exact absurd rfl h.not_sign.1
      next => exact hread
    | plus h hx => exact readMagnitude?_eq_some_iff.2 ⟨_, h, hx⟩
    | minus h hx => exact readMagnitude?_eq_some_iff.2 ⟨_, h, hx⟩

example : readReal? "+.25E1".toList = some 2.5 := by decide +kernel

end RemoteDisplay.Number
