/-
**The grammar of input lines.**

What a line says is said by its tokens, the maximal runs of characters between blanks.  Whether they
stand for an event, or for which reason they do not, is written down as a relation with a rule for
each case: no tokens, or a number sign in front; a verb in any case of its letters with what it
takes; no verb; a verb with more or fewer arguments than it takes, whatever they are; and the first
argument that is no number of the kind taken.  Every list of tokens is under one rule, and a line is
read as the rule says.

A line is taken apart in passes.  The blanks at its ends are dropped, and if nothing is left, or
what is left starts with a number sign, the line is passed over; otherwise it is split, and the case
of the first piece is dropped.  Dropping the blanks leaves the tokens as they are, and what is left
begins with the first one, so the tokens tell everything.

Main definitions:

* `RemoteDisplay.Input.Means` — what a list of tokens stands for;
* `RemoteDisplay.Input.inPasses` — the reading of a line in passes.

Main results:

* `RemoteDisplay.Input.ofTokens_eq_iff` — tokens are read by the rules;
* `RemoteDisplay.Input.ofLine_eq_inPasses` — the passes come to the same;
* `RemoteDisplay.Input.line_grammar` — **which lines are events, and why the others are not**.
-/
import RemoteDisplay.Input.Line
import RemoteDisplay.Proofs.Lists
import RemoteDisplay.Proofs.Number.Literal
import RemoteDisplay.Proofs.Text.Tokens

set_option relaxedAutoImplicit false
set_option autoImplicit false

namespace RemoteDisplay

/-! ### Verbs -/

namespace InputVerb

/-- The spelling of a verb in lower case. -/
def text : InputVerb → String
  | pointer .down => "down"
  | pointer .up => "up"
  | pointer .move => "move"
  | key .down => "keydown"
  | key .up => "keyup"

/-- A verb is known by its spelling. -/
theorem ofText?_eq_some_iff {s : String} {v : InputVerb} : ofText? s = some v ↔ s = v.text := by
  constructor
  · intro h
    unfold ofText? at h
    split at h <;> cases h <;> rfl
  · rintro rfl
    rcases v with (_ | _ | _) | (_ | _) <;> rfl

/-- The argument is a number of the kind that the verb takes. -/
def Accepts : InputVerb → List Char → Prop
  | pointer _, arg => ∃ x, Number.SpellsReal arg x
  | key _, arg => ∃ code : Int32, Number.Spells arg code.toInt

end InputVerb

namespace Input

/-- A token in lower case. -/
def lower (token : List Char) : String := String.ofList (token.map Char.toLower)

/-- A verb begins with no number sign. -/
theorem head?_ne_of_lower {verb : List Char} {v : InputVerb} (h : lower verb = v.text) :
    verb.head? ≠ some '#' := by
  intro hhead
  obtain ⟨s, rfl⟩ := List.head?_eq_some_iff.1 hhead
  have hletters : '#' :: s.map Char.toLower = v.text.toList := by
    rw [← h, lower, String.toList_ofList]
    rfl
  revert hletters
  rcases v with (_ | _ | _) | (_ | _) <;> simp [InputVerb.text]

/-! ### Rules -/

/-- What the tokens of a line stand for. -/
inductive Means : List (List Char) → Except LineError (Option Input) → Prop
  /-- Nothing is said. -/
  | blank : Means [] (.ok none)
  /-- After a number sign nothing counts. -/
  | comment {s : List Char} {args : List (List Char)} : Means (('#' :: s) :: args) (.ok none)
  /-- A pointer event has two coordinates. -/
  | pointer {verb xs ys : List Char} {kind : PointerEvent.Kind} {x y : Float}
    (hverb : lower verb = (InputVerb.pointer kind).text) (hx : Number.SpellsReal xs x)
    (hy : Number.SpellsReal ys y) : Means [verb, xs, ys] (.ok (some (.pointer ⟨kind, ⟨x, y⟩⟩)))
  /-- A key event has one code. -/
  | key {verb cs : List Char} {kind : KeyEvent.Kind} {code : Int32}
    (hverb : lower verb = (InputVerb.key kind).text) (hcode : Number.Spells cs code.toInt) :
    Means [verb, cs] (.ok (some (.key ⟨kind, code⟩)))
  /-- The first token is no verb. -/
  | unknownVerb {verb : List Char} {args : List (List Char)} (hcomment : verb.head? ≠ some '#')
    (hverb : ∀ v : InputVerb, lower verb ≠ v.text) :
    Means (verb :: args) (.error (.unknownVerb (lower verb)))
  /-- A verb has more or fewer arguments than it takes. -/
  | wrongArity {verb : List Char} {args : List (List Char)} {v : InputVerb}
    (hverb : lower verb = v.text) (hcount : args.length ≠ v.arity) :
    Means (verb :: args) (.error (.wrongArity (lower verb) v.arity args.length))
  /-- An argument is not what the verb takes, and all before it are. -/
  | invalidArgument {verb arg : List Char} {before after : List (List Char)} {v : InputVerb}
    (hverb : lower verb = v.text) (hcount : (before ++ arg :: after).length = v.arity)
    (hbefore : ∀ a ∈ before, v.Accepts a) (harg : ¬ v.Accepts arg) :
    Means (verb :: (before ++ arg :: after))
      (.error (.invalidArgument (lower verb) (String.ofList arg)))

/-! ### Arguments -/

section

variable {α : Type} {read? : List Char → Option α} {verb : String} {arg : List Char}

theorem readArg_of_some {a : α} (h : read? arg = some a) : readArg read? verb arg = .ok a := by
  rw [readArg, h]

theorem readArg_of_none (h : read? arg = none) :
    readArg read? verb arg = .error (.invalidArgument verb (String.ofList arg)) := by
  rw [readArg, h]

/-- An argument that spells nothing is not read. -/
theorem read?_eq_none {spelled : α → Prop} (hread : ∀ {a}, read? arg = some a ↔ spelled a)
    (h : ¬ ∃ a, spelled a) : read? arg = none := by
  rw [Option.eq_none_iff_forall_ne_some]
  exact fun a ha => h ⟨a, hread.1 ha⟩

end

section

variable {v : InputVerb} {args : List (List Char)} (verb : String)

/-- The arguments are counted before they are looked at. -/
theorem readArgs_of_length_ne (h : args.length ≠ v.arity) :
    readArgs verb v args = .error (.wrongArity verb v.arity args.length) := by
  unfold readArgs
  split
  · exact absurd rfl h
  · exact absurd rfl h
  · rfl

/-- Two coordinates are a point. -/
theorem readArgs_pointer (kind : PointerEvent.Kind) {xs ys : List Char} {x y : Float}
    (hx : Number.SpellsReal xs x) (hy : Number.SpellsReal ys y) :
    readArgs verb (.pointer kind) [xs, ys] = .ok (.pointer ⟨kind, ⟨x, y⟩⟩) := by
  rw [readArgs, readArg_of_some (Number.readReal?_eq_some_iff.2 hx),
    readArg_of_some (Number.readReal?_eq_some_iff.2 hy)]
  rfl

theorem readArgs_key (kind : KeyEvent.Kind) {cs : List Char} {code : Int32}
    (h : Number.Spells cs code.toInt) :
    readArgs verb (.key kind) [cs] = .ok (.key ⟨kind, code⟩) := by
  rw [readArgs, readArg_of_some (Number.readInt32?_eq_some_iff.2 h)]
  rfl

/-- The first argument that is not taken is refused. -/
theorem readArgs_of_not_accepts {before after : List (List Char)} {arg : List Char}
    (hcount : (before ++ arg :: after).length = v.arity) (hbefore : ∀ a ∈ before, v.Accepts a)
    (harg : ¬ v.Accepts arg) : readArgs verb v (before ++ arg :: after) =
      .error (.invalidArgument verb (String.ofList arg)) := by
  rw [List.length_append, List.length_cons] at hcount
  cases v with
  | pointer kind =>
    have hcount : before.length + (after.length + 1) = 2 := hcount
    have hnone : Number.readReal? arg = none := read?_eq_none Number.readReal?_eq_some_iff harg
    -- it is the first coordinate or the second
    cases before with
    | nil =>
      obtain ⟨ys, rfl⟩ := List.length_eq_one_iff.1 (by simpa using hcount : after.length = 1)
      rw [List.nil_append, readArgs, readArg_of_none hnone]
      rfl
    | cons xs before =>
      obtain ⟨x, hx⟩ := hbefore xs List.mem_cons_self
      rw [List.length_cons] at hcount
      obtain rfl : before = [] := List.eq_nil_of_length_eq_zero (by omega)
      obtain rfl : after = [] := List.eq_nil_of_length_eq_zero (by omega)
      rw [List.cons_append, List.nil_append, readArgs,
        readArg_of_some (Number.readReal?_eq_some_iff.2 hx), readArg_of_none hnone]
      rfl
  | key kind =>
    have hcount : before.length + (after.length + 1) = 1 := hcount
    have hnone : Number.readInt32? arg = none := read?_eq_none Number.readInt32?_eq_some_iff harg
    obtain rfl : before = [] := List.eq_nil_of_length_eq_zero (by omega)
    obtain rfl : after = [] := List.eq_nil_of_length_eq_zero (by omega)
    rw [List.nil_append, readArgs, readArg_of_none hnone]
    rfl

end

/-! ### Tokens -/

section

variable {verb : List Char} {args : List (List Char)}

theorem ofTokens_cons (hcomment : verb.head? ≠ some '#') : ofTokens (verb :: args) =
    match InputVerb.ofText? (lower verb) with
    | none => .error (.unknownVerb (lower verb))
    | some v => (readArgs (lower verb) v args).map some := by
  unfold ofTokens
  split
  next h => cases h
  next s rest h =>
    obtain ⟨rfl, rfl⟩ := List.cons.inj h
    exact absurd rfl hcomment
  next h =>
    obtain ⟨rfl, rfl⟩ := List.cons.inj h
    rfl

/-- After a verb the arguments are read. -/
theorem ofTokens_of_verb {v : InputVerb} (h : lower verb = v.text) :
    ofTokens (verb :: args) = (readArgs (lower verb) v args).map some := by
  rw [ofTokens_cons (head?_ne_of_lower h), InputVerb.ofText?_eq_some_iff.2 h]

/-- Without a verb nothing else is looked at. -/
theorem ofTokens_of_no_verb (hcomment : verb.head? ≠ some '#')
    (h : ∀ v : InputVerb, lower verb ≠ v.text) :
    ofTokens (verb :: args) = .error (.unknownVerb (lower verb)) := by
  have hnone : InputVerb.ofText? (lower verb) = none := by
    rw [Option.eq_none_iff_forall_ne_some]
    exact fun v hv => h v (InputVerb.ofText?_eq_some_iff.1 hv)
  rw [ofTokens_cons hcomment, hnone]

end

theorem ofTokens_of_means {tokens : List (List Char)} {r : Except LineError (Option Input)}
    (h : Means tokens r) : ofTokens tokens = r := by
  cases h with
  | blank => rfl
  | comment => rfl
  | pointer hverb hx hy =>
    rw [ofTokens_of_verb hverb, readArgs_pointer _ _ hx hy]
    rfl
  | key hverb hcode =>
    rw [ofTokens_of_verb hverb, readArgs_key _ _ hcode]
    rfl
  | unknownVerb hcomment hverb => exact ofTokens_of_no_verb hcomment hverb
  | wrongArity hverb hcount =>
    rw [ofTokens_of_verb hverb, readArgs_of_length_ne _ hcount]
    rfl
  | invalidArgument hverb hcount hbefore harg =>
    rw [ofTokens_of_verb hverb, readArgs_of_not_accepts _ hcount hbefore harg]
    rfl

/-- Arguments that a verb takes make an event. -/
theorem means_of_accepts {verb : List Char} {args : List (List Char)} {v : InputVerb}
    (hverb : lower verb = v.text) (hcount : args.length = v.arity) (h : ∀ a ∈ args, v.Accepts a) :
    ∃ r, Means (verb :: args) r := by
  cases v with
  | pointer kind =>
    obtain ⟨xs, ys, rfl⟩ := List.length_eq_two.1 hcount
    obtain ⟨x, hx⟩ := h xs (by simp)
    obtain ⟨y, hy⟩ := h ys (by simp)
    exact ⟨_, .pointer hverb hx hy⟩
  | key kind =>
    obtain ⟨cs, rfl⟩ := List.length_eq_one_iff.1 hcount
    obtain ⟨code, hcode⟩ := h cs (by simp)
    exact ⟨_, .key hverb hcode⟩

/-- Every list of tokens is under a rule. -/
theorem exists_means (tokens : List (List Char)) : ∃ r, Means tokens r := by
  cases tokens with
  | nil => exact ⟨_, .blank⟩
  | cons verb args =>
    by_cases hcomment : verb.head? = some '#'
    · obtain ⟨s, rfl⟩ := List.head?_eq_some_iff.1 hcomment
      exact ⟨_, .comment⟩
    by_cases hverb : ∃ v : InputVerb, lower verb = v.text
    · obtain ⟨v, hverb⟩ := hverb
      by_cases hcount : args.length = v.arity
      · rcases forall_or_exists_first v.Accepts args with
          h | ⟨before, arg, after, rfl, hbefore, harg⟩
        · exact means_of_accepts hverb hcount h
        · exact ⟨_, .invalidArgument hverb hcount hbefore harg⟩
      · exact ⟨_, .wrongArity hverb hcount⟩
    · exact ⟨_, .unknownVerb hcomment (not_exists.1 hverb)⟩

/-- Tokens are read by the rules. -/
theorem ofTokens_eq_iff {tokens : List (List Char)} {r : Except LineError (Option Input)} :
    ofTokens tokens = r ↔ Means tokens r := by
  constructor
  · rintro rfl
    obtain ⟨r, h⟩ := exists_means tokens
    rwa [ofTokens_of_means h]
  · exact ofTokens_of_means

/-! ### Passes -/

/-- The reading of a line in passes: the blanks at its ends are dropped, and what is left is split,
if it is something and no comment. -/
def inPasses (line : String) : Except LineError (Option Input) :=
  let content := Text.trim line.toList
  if content.isEmpty || content.head? == some '#' then .ok none
  else
    let pieces := Text.tokens content
    let verb := lower (pieces.headD [])
    match InputVerb.ofText? verb with
    | none => .error (.unknownVerb verb)
    | some v => (readArgs verb v pieces.tail).map some

/-- The passes come to the same as the tokens. -/
theorem ofLine_eq_inPasses (line : String) : ofLine line = inPasses line := by
  rw [ofLine, ← Text.tokens_trim, inPasses]
  cases hcontent : Text.trim line.toList with
  | nil => rfl
  | cons c rest =>
    obtain ⟨word, args, htokens⟩ :=
      Text.exists_tokens_cons (Text.not_isBlank_of_trim hcontent) rest
    rw [htokens]
    by_cases hc : c = '#'
    · subst hc
      rfl
    · have hcomment : (c :: word).head? ≠ some '#' := by simpa using hc
      rw [ofTokens_cons hcomment]
      simp [hc]

/-! ### Lines -/

section

variable {verb verb' : List Char}

theorem lower_eq_of_respells (h : Text.Respells verb' verb) : lower verb' = lower verb := by
  have hletters := Text.sameLetters_iff.2 h
  rw [Text.sameLetters, beq_iff_eq] at hletters
  rw [lower, lower, hletters]

/-- A number sign is the same in either case. -/
theorem head?_eq_some_iff : verb.head? = some '#' ↔ (lower verb).toList.head? = some '#' := by
  rw [lower, String.toList_ofList]
  cases verb with
  | nil => rfl
  | cons c s =>
    have hcase : c.toLower = '#' ↔ c = '#' := by
      have heither : c.toLower = '#'.toLower ↔ Text.EitherCase c '#' := Text.toLower_eq_toLower_iff
      exact heither.trans or_self_iff
    simp [hcase]

/-- The case of the first token does not count. -/
theorem ofTokens_respell (h : Text.Respells verb' verb) (args : List (List Char)) :
    ofTokens (verb' :: args) = ofTokens (verb :: args) := by
  have hlower := lower_eq_of_respells h
  have hhead : verb'.head? = some '#' ↔ verb.head? = some '#' := by
    rw [head?_eq_some_iff, hlower]
    exact head?_eq_some_iff.symm
  by_cases hcomment : verb.head? = some '#'
  · obtain ⟨s', rfl⟩ := List.head?_eq_some_iff.1 (hhead.2 hcomment)
    obtain ⟨s, rfl⟩ := List.head?_eq_some_iff.1 hcomment
    rfl
  · rw [ofTokens_cons hcomment, ofTokens_cons (mt hhead.1 hcomment), hlower]

end

/-- **Which lines are events, and why the others are not.**  In whatever passes it is done, a line
is read as its runs of characters between blanks mean, so that every line with these runs is read as
it is, and so is every line in which the first of them has another case. -/
theorem line_grammar {line : String} {tokens : List (List Char)}
    (h : Text.Runs line.toList tokens) :
    ofLine line = inPasses line ∧ (∀ r, ofLine line = r ↔ Means tokens r) ∧
      (∀ line' : String, Text.Runs line'.toList tokens → ofLine line' = ofLine line) ∧
      ∀ (line' : String) (verb verb' : List Char) (args : List (List Char)),
        tokens = verb :: args → Text.Respells verb' verb →
        Text.Runs line'.toList (verb' :: args) → ofLine line' = ofLine line := by
  have hread : ∀ {line : String} {tokens : List (List Char)}, Text.Runs line.toList tokens →
      ofLine line = ofTokens tokens := by
    intro line tokens h
    rw [ofLine, h.tokens_eq]
  refine ⟨ofLine_eq_inPasses line, ?_, ?_, ?_⟩
  · intro r
    rw [hread h, ofTokens_eq_iff]
  · intro line' h'
    rw [hread h, hread h']
  · rintro line' verb verb' args rfl hverb h'
    rw [hread h, hread h', ofTokens_respell hverb]

/-- The first coordinate is one and the second is not, whatever blanks stand around them. -/
theorem line_grammar_small :
    let line := "\u2003DOWN 1.5\t2.x "
    let tokens := ["DOWN".toList, "1.5".toList, "2.x".toList]
    Text.Runs line.toList tokens ∧ ofLine line = .error (.invalidArgument "down" "2.x") ∧
      Means tokens (.error (.invalidArgument "down" "2.x")) := by
  intro line tokens
  have hruns : Text.Runs line.toList tokens := Text.runs_iff.2 (by decide)
  have hread : ofLine line = .error (.invalidArgument "down" "2.x") := by decide +kernel
  exact ⟨hruns, hread, ((line_grammar hruns).2.1 _).1 hread⟩

end Input

end RemoteDisplay
