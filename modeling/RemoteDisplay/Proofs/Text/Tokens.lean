/-
**Cutting a text into tokens.**

What stands in front of a text decides its first token: a blank is no part of any token, and a word
that ends there, or that a blank follows, is a token.  These two rules, read as a relation between
texts and lists of words, say what the maximal runs of characters between blanks are, and the tokens
are these runs.

Main definitions:

* `RemoteDisplay.Text.trim` — a text without the blanks at its ends;
* `RemoteDisplay.Text.Runs` — the maximal runs of characters that are no blanks.

Main results:

* `RemoteDisplay.Text.tokens_cons_of_isBlank`, `RemoteDisplay.Text.tokens_concat_of_isBlank` — a
  blank in front or at the end is not looked at;
* `RemoteDisplay.Text.tokens_append_cons` — a blank in between parts the tokens;
* `RemoteDisplay.Text.tokens_append` — a word in front is the first token;
* `RemoteDisplay.Text.tokens_trim` — the blanks at the ends of a text are no part of its tokens;
* `RemoteDisplay.Text.runs_iff` — the tokens of a text are its runs.
-/
import Mathlib.Data.List.DropRight
import RemoteDisplay.Text.Blank

set_option relaxedAutoImplicit false
set_option autoImplicit false

namespace RemoteDisplay.Text

/-- The text is empty or begins with a blank, so that a word in front of it ends there. -/
def EndsWord (s : List Char) : Prop := ∀ c ∈ s.head?, isBlank c = true

theorem endsWord_nil : EndsWord [] := by
  intro c hc
  cases hc

theorem endsWord_cons {c : Char} (h : isBlank c = true) (s : List Char) : EndsWord (c :: s) := by
  intro d hd
  cases hd
  exact h

/-- A blank in front is not looked at. -/
theorem tokens_cons_of_isBlank {c : Char} (h : isBlank c = true) (s : List Char) :
    tokens (c :: s) = tokens s := by
  simp [tokens, cut_cons, h]

theorem cut_ne_nil (s : List Char) : cut s ≠ [] := by
  cases s with
  | nil => simp [cut]
  | cons c s =>
    rw [cut_cons]
    split
    · simp
    · cases cut s <;> simp [extendFirst]

/-- What stands before a blank and what stands behind it are cut up on their own. -/
theorem cut_append_cons {b : Char} (hb : isBlank b = true) (s rest : List Char) :
    cut (s ++ b :: rest) = cut s ++ cut rest := by
  induction s with
  | nil => simp [cut, hb]
  | cons c s ih =>
    rw [List.cons_append, cut_cons, cut_cons, ih]
    split
    · rfl
    · cases hs : cut s with
      | nil => exact absurd hs (cut_ne_nil s)
      | cons piece pieces => rfl

/-- The tokens before a blank and those behind it are all there are. -/
theorem tokens_append_cons {b : Char} (hb : isBlank b = true) (s rest : List Char) :
    tokens (s ++ b :: rest) = tokens s ++ tokens rest := by
  rw [tokens, cut_append_cons hb, List.filter_append]
  rfl

/-- A blank at the end is not looked at. -/
theorem tokens_concat_of_isBlank {b : Char} (hb : isBlank b = true) (s : List Char) :
    tokens (s ++ [b]) = tokens s := by
  have hnil : tokens [] = [] := rfl
  rw [tokens_append_cons hb, hnil, List.append_nil]

/-- A text without blanks is one piece. -/
theorem cut_of_no_blank {word : List Char} (hword : ∀ c ∈ word, isBlank c = false) :
    cut word = [word] := by
  induction word with
  | nil => rfl
  | cons c word ih =>
    have hc : isBlank c = false := hword c List.mem_cons_self
    have hcut := ih fun d hd => hword d (List.mem_cons_of_mem c hd)
    simp [cut_cons, hc, hcut, extendFirst]

/-- A word in front is the first token, if it ends there. -/
theorem tokens_append {word : List Char} (hne : word ≠ [])
    (hword : ∀ c ∈ word, isBlank c = false) {rest : List Char} (hrest : EndsWord rest) :
    tokens (word ++ rest) = word :: tokens rest := by
  have hempty : word.isEmpty = false := List.isEmpty_eq_false_iff.2 hne
  -- a word at the end is cut off by nothing, any other word by a blank
  cases rest with
  | nil =>
    have hnil : tokens [] = [] := rfl
    rw [List.append_nil, hnil]
    simp [tokens, cut_of_no_blank hword, hempty]
  | cons b rest =>
    have hb : isBlank b = true := hrest b rfl
    rw [tokens_append_cons hb, tokens_cons_of_isBlank hb]
    simp [tokens, cut_of_no_blank hword, hempty]

/-- A character that is no blank begins the first token. -/
theorem exists_tokens_cons {c : Char} (hc : isBlank c = false) (s : List Char) :
    ∃ word rest, tokens (c :: s) = (c :: word) :: rest := by
  rw [tokens, cut_cons, hc, if_neg Bool.false_ne_true]
  cases cut s with
  | nil => exact ⟨[], [], rfl⟩
  | cons piece pieces => exact ⟨piece, pieces.filter fun piece => !piece.isEmpty, rfl⟩

/-! ### Trimming -/

/-- The text without the blanks at its ends. -/
def trim (s : List Char) : List Char := (s.rdropWhile isBlank).dropWhile isBlank

theorem tokens_dropWhile (s : List Char) : tokens (s.dropWhile isBlank) = tokens s := by
  induction s with
  | nil => rfl
  | cons c s ih =>
    cases hc : isBlank c with
    | true => rw [List.dropWhile_cons_of_pos hc, ih, tokens_cons_of_isBlank hc]
    | false => rw [List.dropWhile_cons_of_neg (by simp [hc])]

theorem tokens_rdropWhile (s : List Char) : tokens (s.rdropWhile isBlank) = tokens s := by
  induction s using List.reverseRecOn with
  | nil => rfl
  | append_singleton s c ih =>
    cases hc : isBlank c with
    | true => rw [List.rdropWhile_concat_pos _ _ _ hc, ih, tokens_concat_of_isBlank hc]
    | false => rw [List.rdropWhile_concat_neg _ _ _ (by simp [hc])]

/-- The blanks at the ends of a text are no part of its tokens. -/
theorem tokens_trim (s : List Char) : tokens (trim s) = tokens s := by
  rw [trim, tokens_dropWhile, tokens_rdropWhile]

/-- What is left begins with no blank. -/
theorem not_isBlank_of_trim {s rest : List Char} {c : Char} (h : trim s = c :: rest) :
    isBlank c = false := by
  have hhead := List.head?_dropWhile_not isBlank (s.rdropWhile isBlank)
  rw [trim] at h
  simpa [h] using hhead

/-! ### Runs -/

/-- The maximal runs of characters that are no blanks, in the order in which they stand. -/
inductive Runs : List Char → List (List Char) → Prop
  /-- An empty text has none. -/
  | nil : Runs [] []
  /-- A blank in front is part of none. -/
  | blank {c : Char} {s : List Char} {runs : List (List Char)} (hc : isBlank c = true)
      (h : Runs s runs) : Runs (c :: s) runs
  /-- A word in front is the first, if it ends there. -/
  | word {word rest : List Char} {runs : List (List Char)} (hne : word ≠ [])
      (hword : ∀ c ∈ word, isBlank c = false) (hrest : EndsWord rest) (h : Runs rest runs) :
      Runs (word ++ rest) (word :: runs)

/-- A character that is no blank begins a new run, or goes to the run that it touches. -/
theorem Runs.exists_cons {c : Char} (hc : isBlank c = false) {s : List Char}
    {runs : List (List Char)} (h : Runs s runs) : ∃ runs, Runs (c :: s) runs := by
  cases h with
  | nil =>
    refine ⟨[[c]], .word (List.cons_ne_nil c []) ?_ endsWord_nil .nil⟩
    simpa using hc
  | @blank b s _ hb h =>
    refine ⟨[c] :: runs, .word (List.cons_ne_nil c []) ?_ (endsWord_cons hb s) (.blank hb h)⟩
    simpa using hc
  | @word word rest runs _ hword hrest h =>
    refine ⟨(c :: word) :: runs, .word (List.cons_ne_nil c word) ?_ hrest h⟩
    intro d hd
    rcases List.mem_cons.1 hd with rfl | hd
    · exact hc
    · exact hword d hd

/-- Every text has its runs. -/
theorem exists_runs (s : List Char) : ∃ runs, Runs s runs := by
  induction s with
  | nil => exact ⟨[], .nil⟩
  | cons c s ih =>
    obtain ⟨runs, h⟩ := ih
    cases hc : isBlank c with
    | true => exact ⟨runs, .blank hc h⟩
    | false => exact h.exists_cons hc

theorem Runs.tokens_eq {s : List Char} {runs : List (List Char)} (h : Runs s runs) :
    tokens s = runs := by
  induction h with
  | nil => rfl
  | blank hc _ ih => rw [tokens_cons_of_isBlank hc, ih]
  | word hne hword hrest _ ih => rw [tokens_append hne hword hrest, ih]

/-- The tokens of a text are its runs. -/
theorem runs_iff {s : List Char} {runs : List (List Char)} : Runs s runs ↔ tokens s = runs := by
  constructor
  · exact Runs.tokens_eq
  · rintro rfl
    obtain ⟨runs, h⟩ := exists_runs s
    rwa [h.tokens_eq]

end RemoteDisplay.Text
