/-
**The grammar of commands.**

A text is a command if it begins with a verb, in any case of its letters, and a space, and if the
first words after that spell the arguments of the verb, one word each.  Words stand between blanks
of any kind, and the words that follow the arguments may be anything.  What is read as a command is
exactly what the grammar has, and every other text is refused for one reason: it has no space, or
what stands before the first space is no verb, or the arguments are not there.

Main definitions:

* `RemoteDisplay.Command.Grammar` — the texts of a command.

Main results:

* `RemoteDisplay.Verb.ofText?_eq_some_iff` — a verb is known by its letters;
* `RemoteDisplay.Command.readArgs?_eq_some_iff` — arguments are read from the words that spell them;
* `RemoteDisplay.Command.read_eq_ok_iff` — a command is read from its texts only;
* `RemoteDisplay.Command.read_classifies` — **which texts are commands, and why the others are
  not**.
-/
import RemoteDisplay.Proofs.Lists
import RemoteDisplay.Proofs.Number.Spelling
import RemoteDisplay.Proofs.Text.Letters
import RemoteDisplay.Proofs.Text.Tokens

set_option relaxedAutoImplicit false
set_option autoImplicit false

namespace RemoteDisplay

/-! ### Verbs -/

namespace Verb

/-- A verb is known by its letters. -/
theorem ofText?_eq_some_iff {s : List Char} {v : Verb} :
    ofText? s = some v ↔ Text.Respells s v.text.toList := by
  rw [← Text.sameLetters_iff]
  constructor
  · intro h
    simpa using List.find?_some h
  · intro h
    have hletters : s.map Char.toLower = v.text.toList.map Char.toLower := by
      simpa [Text.sameLetters] using h
    have hspelling : ofText? v.text.toList = some v := by
      cases v <;> decide
    rw [← hspelling]
    simp only [ofText?, Text.sameLetters, hletters]

/-- A verb holds no space, in any case of its letters. -/
theorem space_not_mem {s : List Char} {v : Verb} (h : Text.Respells s v.text.toList) : ' ' ∉ s := by
  intro hs
  have hletters : s.map Char.toLower = v.text.toList.map Char.toLower := by
    simpa [Text.sameLetters] using Text.sameLetters_iff.2 h
  have hlower : ' ' ∈ s.map Char.toLower := List.mem_map.2 ⟨' ', hs, rfl⟩
  rw [hletters] at hlower
  revert hlower
  cases v <;> decide

/-- A command is put together from its own verb and its own arguments only. -/
theorem command?_eq_some_iff {v : Verb} {args : List Int32} {c : Command} :
    v.command? args = some c ↔ c.verb = v ∧ c.args = args := by
  constructor
  · intro h
    unfold command? at h
    split at h <;> cases h <;> exact ⟨rfl, rfl⟩
  · rintro ⟨rfl, rfl⟩
    exact command?_args c

end Verb

/-! ### Arguments -/

namespace Command

/-- The words spell some arguments, one each. -/
def SpellArgs (words : List (List Char)) (args : List Int32) : Prop :=
  List.Forall₂ (fun word n => Number.Spells word n.toInt) words args

/-- The arguments of a command are read from the words that spell them, whatever more there are. -/
theorem readArgs?_eq_some_iff {v : Verb} {words : List (List Char)} {c : Command} :
    readArgs? v words = some c ↔
      c.verb = v ∧ ∃ numerals more, words = numerals ++ more ∧ SpellArgs numerals c.args := by
  have hspell : ∀ numerals, SpellArgs numerals c.args ↔
      numerals.mapM Number.readInt32? = some c.args := by
    intro numerals
    rw [mapM_eq_some_iff]
    simp only [SpellArgs, Number.readInt32?_eq_some_iff]
  constructor
  · intro h
    obtain ⟨args, hargs, hc⟩ := Option.bind_eq_some_iff.1 h
    obtain ⟨hverb, rfl⟩ := Verb.command?_eq_some_iff.1 hc
    exact ⟨hverb, words.take v.arity, words.drop v.arity, (List.take_append_drop _ _).symm,
      (hspell _).2 hargs⟩
  · rintro ⟨rfl, numerals, more, rfl, h⟩
    -- a command has as many arguments as its verb takes, so the words taken are the numerals
    have hlength : numerals.length = c.verb.arity := by
      rw [← c.length_args]
      exact h.length_eq
    have htake : (numerals ++ more).take c.verb.arity = numerals := by
      rw [← hlength, List.take_left]
    rw [readArgs?, htake, (hspell numerals).1 h, Option.bind_some, Verb.command?_args]

/-! ### Texts -/

/-- The texts of a command: its verb in any case of its letters, a space, and words of which the
first spell its arguments. -/
inductive Grammar : List Char → Command → Prop
  | text {c : Command} {verb rest : List Char} {numerals more : List (List Char)}
      (hverb : Text.Respells verb c.verb.text.toList) (hspace : ' ' ∉ verb)
      (hwords : Text.Runs rest (numerals ++ more)) (hargs : SpellArgs numerals c.args) :
      Grammar (verb ++ ' ' :: rest) c

theorem ne_space {s : List Char} (h : ' ' ∉ s) : ∀ c ∈ s, decide (c ≠ ' ') = true := by
  intro c hc
  exact decide_eq_true (ne_of_mem_of_not_mem hc h)

/-- The verb ends at the first space. -/
theorem span_space {verb : List Char} (h : ' ' ∉ verb) (rest : List Char) :
    (verb ++ ' ' :: rest).span (· ≠ ' ') = (verb, ' ' :: rest) := by
  rw [List.span_eq_takeWhile_dropWhile, List.takeWhile_append_of_pos (ne_space h),
    List.dropWhile_append_of_pos (ne_space h)]
  simp

/-- A text without a space names no verb. -/
theorem read_of_no_space {s : String} (h : ' ' ∉ s.toList) :
    read s = .error (.unknownCommand s) := by
  have hspan : s.toList.span (· ≠ ' ') = (s.toList, []) := by
    rw [List.span_eq_takeWhile_dropWhile, List.takeWhile_eq_self_iff.2 (ne_space h),
      List.dropWhile_eq_nil_iff.2 (ne_space h)]
  rw [read, hspan]

section

variable {s : String} {verb rest : List Char}

/-- A text may begin with something else than a verb. -/
theorem read_of_no_verb (hs : s.toList = verb ++ ' ' :: rest) (hspace : ' ' ∉ verb)
    (hverb : Verb.ofText? verb = none) :
    read s = .error (.unknownCommand (String.ofList verb)) := by
  simp only [read, hs, span_space hspace, hverb]

/-- After a verb the arguments are read. -/
theorem read_of_verb (hs : s.toList = verb ++ ' ' :: rest) (hspace : ' ' ∉ verb) {v : Verb}
    (hverb : Verb.ofText? verb = some v) :
    read s = match readArgs? v (Text.tokens rest) with
      | none => .error (.malformedCommand s)
      | some c => .ok c := by
  cases hargs : readArgs? v (Text.tokens rest) with
  | none => simp only [read, hs, span_space hspace, hverb, hargs]
  | some c => simp only [read, hs, span_space hspace, hverb, hargs]

end

/-- A command is read from its texts. -/
theorem read_of_grammar {s : String} {c : Command} (h : Grammar s.toList c) : read s = .ok c := by
  generalize hs : s.toList = text at h
  cases h with
  | @text _ verb rest numerals more hverb hspace hwords hargs =>
    have hargs : readArgs? c.verb (Text.tokens rest) = some c :=
      readArgs?_eq_some_iff.2 ⟨rfl, numerals, more, Text.runs_iff.1 hwords, hargs⟩
    rw [read_of_verb hs hspace (Verb.ofText?_eq_some_iff.2 hverb), hargs]

/-- A command is read from its texts only. -/
theorem read_eq_ok_iff {s : String} {c : Command} : read s = .ok c ↔ Grammar s.toList c := by
  constructor
  · intro h
    by_cases hmem : ' ' ∈ s.toList
    · obtain ⟨verb, rest, hs, hspace⟩ := List.eq_append_cons_of_mem hmem
      cases hverb : Verb.ofText? verb with
      | none =>
        rw [read_of_no_verb hs hspace hverb] at h
        cases h
      | some v =>
        rw [read_of_verb hs hspace hverb] at h
        split at h
        · cases h
        next d hd =>
          cases h
          obtain ⟨rfl, numerals, more, hwords, hargs⟩ := readArgs?_eq_some_iff.1 hd
          rw [hs]
          exact .text (Verb.ofText?_eq_some_iff.1 hverb) hspace (Text.runs_iff.2 hwords) hargs
    · rw [read_of_no_space hmem] at h
      cases h
  · exact read_of_grammar

example : read "keyUp \u2003+007\u00a0and more" = .ok (.keyUp 7) := by decide +kernel

/-- **Which texts are commands, and why the others are not.**  A text is read as a command exactly
if the grammar has it.  Otherwise it is refused as a whole if it has no space; by what stands before
the first space, if that is no verb; and as malformed in all other cases. -/
theorem read_classifies (s : String) :
    (∀ c, read s = .ok c ↔ Grammar s.toList c) ∧
      (read s = .error (.unknownCommand s) ↔ ' ' ∉ s.toList) ∧
      ∀ verb rest, s.toList = verb ++ ' ' :: rest → ' ' ∉ verb →
        (read s = .error (.unknownCommand (String.ofList verb)) ↔
          ∀ v : Verb, ¬ Text.Respells verb v.text.toList) ∧
        (read s = .error (.malformedCommand s) ↔
          (∃ v : Verb, Text.Respells verb v.text.toList) ∧ ∀ c, ¬ Grammar s.toList c) := by
  refine ⟨fun c => read_eq_ok_iff, ⟨?_, read_of_no_space⟩, ?_⟩
  · intro h hmem
    obtain ⟨verb, rest, hs, hspace⟩ := List.eq_append_cons_of_mem hmem
    cases hverb : Verb.ofText? verb with
    | none =>
      -- what is refused then is the verb, and the text is longer than it
      rw [read_of_no_verb hs hspace hverb] at h
      have hsame : String.ofList verb = s := by simpa using h
      rw [← hsame, String.toList_ofList] at hmem
      exact hspace hmem
    | some v =>
      rw [read_of_verb hs hspace hverb] at h
      split at h <;> cases h
  · intro verb rest hs hspace
    simp only [← Verb.ofText?_eq_some_iff, ← read_eq_ok_iff]
    cases hverb : Verb.ofText? verb with
    | none => simp [read_of_no_verb hs hspace hverb]
    | some v =>
      rw [read_of_verb hs hspace hverb]
      cases readArgs? v (Text.tokens rest) <;> simp

/-- A move with one argument is a command in none of its texts, and is refused as malformed. -/
theorem read_classifies_small :
    let s := "MouseMove +7"
    let verb := "MouseMove".toList
    let rest := "+7".toList
    s.toList = verb ++ ' ' :: rest ∧ ' ' ∉ verb ∧
      read s = .error (.malformedCommand s) ∧ ∀ c, ¬ Grammar s.toList c := by
  intro s verb rest
  have hs : s.toList = verb ++ ' ' :: rest := by decide
  have hspace : ' ' ∉ verb := by decide
  have hread : read s = .error (.malformedCommand s) := by decide +kernel
  obtain ⟨-, -, hcases⟩ := read_classifies s
  obtain ⟨-, hmalformed⟩ := hcases verb rest hs hspace
  exact ⟨hs, hspace, hread, (hmalformed.1 hread).2⟩

end Command

end RemoteDisplay
