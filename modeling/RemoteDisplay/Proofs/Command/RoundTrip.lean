/-
**A command that was written is read back.**

A host takes a command from its text, whatever the case of the letters of the verb, and whatever
follows the last argument after a blank.

Main definitions:

* `RemoteDisplay.Command.argsText` — the arguments of a command, each after a space.

Main results:

* `RemoteDisplay.Text.tokens_argsText` — the arguments of a command are its tokens;
* `RemoteDisplay.Command.grammar_spelled` — the verb of a command, in any case of its letters, and
  its arguments are one of its texts;
* `RemoteDisplay.Command.read_text` — a command is read from its text;
* `RemoteDisplay.Command.read_back` — **a command that was written is read back**.
-/
import RemoteDisplay.Proofs.Command.Grammar

set_option relaxedAutoImplicit false
set_option autoImplicit false

namespace RemoteDisplay

/-! ### Arguments -/

namespace Number

/-- A digit is no blank. -/
theorem not_isBlank_of_isDigit {c : Char} (h : isDigit c = true) : Text.isBlank c = false := by
  simp only [isDigit, Bool.and_eq_true, decide_eq_true_eq] at h
  simp only [Text.isBlank, Text.blanks, Text.Ranges.has, List.any_cons, List.any_nil,
    Bool.or_eq_false_iff, Bool.and_eq_false_iff, decide_eq_false_iff_not, and_true]
  omega

/-- A numeral with its sign holds no blank. -/
theorem not_isBlank_of_mem_signed {n : Int} {c : Char} (h : c ∈ signed n) :
    Text.isBlank c = false := by
  cases n with
  | ofNat n => exact not_isBlank_of_isDigit (isDigit_of_mem_numeral h)
  | negSucc n =>
    rcases List.mem_cons.1 h with rfl | h
    · decide
    · exact not_isBlank_of_isDigit (isDigit_of_mem_numeral h)

theorem signed_ne_nil (n : Int) : signed n ≠ [] := by
  cases n with
  | ofNat n => exact numeral_ne_nil n
  | negSucc n => exact List.cons_ne_nil _ _

end Number

namespace Command

/-- The arguments of a command, each after a space. -/
def argsText (args : List Int32) : List Char := args.flatMap fun n => ' ' :: Number.signed n.toInt

end Command

/-- The arguments of a command are its tokens, and what follows them is cut on its own. -/
theorem Text.tokens_argsText (args : List Int32) {rest : List Char} (hrest : Text.EndsWord rest) :
    Text.tokens (Command.argsText args ++ rest) =
      args.map (fun n => Number.signed n.toInt) ++ Text.tokens rest := by
  have hspace : Text.isBlank ' ' = true := by decide
  induction args with
  | nil => rfl
  | cons n args ih =>
    -- the next argument begins with a space, and the rest ends a word by assumption
    have hends : Text.EndsWord (Command.argsText args ++ rest) := by
      cases args with
      | nil => exact hrest
      | cons m args => exact Text.endsWord_cons hspace _
    have htext : Command.argsText (n :: args) ++ rest =
        ' ' :: (Number.signed n.toInt ++ (Command.argsText args ++ rest)) := by
      simp [Command.argsText]
    rw [htext, Text.tokens_cons_of_isBlank hspace,
      Text.tokens_append (Number.signed_ne_nil _) (fun _ => Number.not_isBlank_of_mem_signed) hends,
      ih]
    rfl

namespace Command

/-- Words that are written spell their arguments. -/
theorem spellArgs_signed (args : List Int32) :
    SpellArgs (args.map fun n => Number.signed n.toInt) args := by
  rw [SpellArgs, List.forall₂_map_left_iff, List.forall₂_same]
  intro n _
  exact Number.readInt32?_eq_some_iff.1 (Number.readInt32?_signed n)

/-! ### Texts -/

theorem text_eq (c : Command) :
    c.text = String.ofList (c.verb.text.toList ++ argsText c.args) := rfl

/-- The verb of a command in any case of its letters, its arguments, and anything after a blank are
one of its texts. -/
theorem grammar_spelled {c : Command} {spelling rest : List Char}
    (hletters : Text.Respells spelling c.verb.text.toList) (hrest : Text.EndsWord rest) :
    Grammar (spelling ++ argsText c.args ++ rest) c := by
  -- every command has an argument, so a space stands behind the verb
  obtain ⟨more, hmore⟩ : ∃ more, argsText c.args ++ rest = ' ' :: more := by
    cases c <;> exact ⟨_, rfl⟩
  have htokens : Text.tokens more =
      c.args.map (fun n => Number.signed n.toInt) ++ Text.tokens rest := by
    rw [← Text.tokens_argsText c.args hrest, hmore, Text.tokens_cons_of_isBlank (by decide)]
  rw [List.append_assoc, hmore]
  exact .text hletters (Verb.space_not_mem hletters) (Text.runs_iff.2 htokens)
    (spellArgs_signed c.args)

/-- A command is read from its verb, in any case of its letters, and its arguments, whatever follows
them after a blank. -/
theorem read_spelled {c : Command} {spelling rest : List Char}
    (hletters : Text.Respells spelling c.verb.text.toList) (hrest : Text.EndsWord rest) :
    read (String.ofList (spelling ++ argsText c.args ++ rest)) = .ok c := by
  rw [read_eq_ok_iff, String.toList_ofList]
  exact grammar_spelled hletters hrest

/-- A command is read from its text. -/
theorem read_text (c : Command) : read c.text = .ok c := by
  have h := read_spelled (Text.Respells.refl c.verb.text.toList) Text.endsWord_nil
  rwa [List.append_nil, ← text_eq] at h

/-- **A command that was written is read back**, so no two commands have the same text; it is read
back even if letters of its verb are written in the other case and anything follows after a
blank. -/
theorem read_back :
    (∀ c : Command, read c.text = .ok c) ∧ Function.Injective text ∧
      ∀ (c : Command) (args spelling rest : String), c.text = c.verb.text ++ args →
        Text.Respells spelling.toList c.verb.text.toList → Text.EndsWord rest.toList →
        read (spelling ++ args ++ rest) = .ok c := by
  refine ⟨read_text, ?_, ?_⟩
  · intro c d htext
    have hread : read c.text = .ok d := by rw [htext, read_text]
    rw [read_text] at hread
    exact Except.ok.inj hread
  · intro c args spelling rest htext hletters hrest
    have hargs : argsText c.args = args.toList := by
      have hlists := congrArg String.toList htext
      rw [text_eq, String.toList_ofList, String.toList_append] at hlists
      exact List.append_cancel_left hlists
    have h := read_spelled hletters hrest
    rwa [hargs, ← String.toList_append, ← String.toList_append, String.ofList_toList] at h

/-- The least number is read back, after a verb in mixed case and before more words. -/
theorem read_back_small :
    let c : Command := .press (-2147483648) 0
    let spelling := "mouseDOWN"
    let args := " -2147483648 0"
    let rest := "\t9 x"
    c.text = c.verb.text ++ args ∧ Text.Respells spelling.toList c.verb.text.toList ∧
      Text.EndsWord rest.toList ∧ read (spelling ++ args ++ rest) = .ok c := by
  intro c spelling args rest
  have htext : c.text = c.verb.text ++ args := by decide +kernel
  have hletters : Text.Respells spelling.toList c.verb.text.toList :=
    Text.sameLetters_iff.1 (by decide)
  have htab : rest.toList = '\t' :: "9 x".toList := by decide
  have hrest : Text.EndsWord rest.toList := by
    rw [htab]
    exact Text.endsWord_cons (by decide) _
  exact ⟨htext, hletters, hrest, read_back.2.2 c args spelling rest htext hletters hrest⟩

end Command

end RemoteDisplay
