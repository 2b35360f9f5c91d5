/-
**Letters in either case.**

The case maps of a character change the ASCII letters and nothing else.  One text respells another
if it has the characters of the other at their places, each in upper or in lower case.

Main definitions:

* `RemoteDisplay.Text.EitherCase` — a character in upper or in lower case;
* `RemoteDisplay.Text.Respells` — a text with the case of any of its letters changed.

Main results:

* `RemoteDisplay.Text.toLower_eq_toLower_iff` — characters that agree in lower case are the same in
  either case;
* `RemoteDisplay.Text.sameLetters_iff` — texts have the same letters if one respells the other.
-/
import Mathlib
import RemoteDisplay.Command.Reader

set_option relaxedAutoImplicit false
set_option autoImplicit false

namespace RemoteDisplay.Text

/-- The one character is the other in upper or in lower case. -/
def EitherCase (c d : Char) : Prop := c = d.toUpper ∨ c = d.toLower

/-- Characters that agree in lower case are the same in either case. -/
theorem toLower_eq_toLower_iff {c d : Char} : c.toLower = d.toLower ↔ EitherCase c d := by
  constructor
  · intro h
    cases hupper : c.isUpper with
    | true =>
      have hlower : ¬ c.isLower := fun hl => Char.not_isUpper_of_isLower hl hupper
      left
      calc c = c.toUpper := (Char.toUpper_eq_of_not_isLower hlower).symm
        _ = c.toLower.toUpper := (Char.toUpper_toLower_eq_toUpper c).symm
        _ = d.toUpper := by rw [h, Char.toUpper_toLower_eq_toUpper]
    | false =>
      right
      rw [← h, Char.toLower_eq_of_not_isUpper (by simp [hupper])]
  · rintro (rfl | rfl)
    · exact Char.toLower_toUpper_eq_toLower d
    · exact Char.toLower_toLower_eq_toLower d

/-- The one text is the other with the case of any of its letters changed. -/
def Respells (s t : List Char) : Prop := List.Forall₂ EitherCase s t

/-- Texts have the same letters if the one respells the other. -/
theorem sameLetters_iff {s t : List Char} : sameLetters s t = true ↔ Respells s t := by
  rw [sameLetters, beq_iff_eq, ← List.forall₂_eq_eq_eq, List.forall₂_map_left_iff,
    List.forall₂_map_right_iff]
  simp only [toLower_eq_toLower_iff]
  rfl

/-- A text respells itself. -/
theorem Respells.refl (t : List Char) : Respells t t := sameLetters_iff.1 (by simp [sameLetters])

end RemoteDisplay.Text
