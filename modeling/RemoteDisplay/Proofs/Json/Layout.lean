/-
**Two ways to write the same tokens.**

A value has its tokens, in order: an array those of its items, with commas between and brackets
around them, an object the same with a key and a colon before each member.  Written in one line or
spread over lines, a value is spelled by these tokens, with nothing but blanks between them.

Main definitions:

* `RemoteDisplay.Json.integral` — all numbers of a value are integers;
* `RemoteDisplay.Json.tokens` — the tokens of a value.

Main results:

* `RemoteDisplay.Json.stands_enclose`, `RemoteDisplay.Json.stands_encloseLines` — texts in brackets,
  in both layouts;
* `RemoteDisplay.Json.spells_compact`, `RemoteDisplay.Json.spells_prettyAt` — a value that was
  written is found as its tokens.
-/
import Mathlib.Data.List.Forall2
import RemoteDisplay.Proofs.Json.Scanning

set_option relaxedAutoImplicit false
set_option autoImplicit false

namespace RemoteDisplay.Json

/-! ### Tokens of a value -/

mutual

/-- All numbers of a value are integers. -/
def integral : Json → Bool
  | null | bool _ | integer _ | string _ => true
  | decimal _ => false
  | array items => integralItems items
  | object members => integralMembers members

/-- All numbers of some items are integers. -/
def integralItems : List Json → Bool
  | [] => true
  | v :: rest => v.integral && integralItems rest

/-- All numbers of some members are integers. -/
def integralMembers : List (Option String × Json) → Bool
  | [] => true
  | (_, v) :: rest => v.integral && integralMembers rest

end

mutual

/-- The tokens of a value. -/
def tokens : Json → List Token
  | string s => [.string s]
  | array items => .openBracket :: List.intercalate [.comma] (itemTokens items) ++ [.closeBracket]
  | object members =>
    .openBrace :: List.intercalate [.comma] (memberTokens members) ++ [.closeBrace]
  | v => [.scalar v]

/-- The tokens of each of some items. -/
def itemTokens : List Json → List (List Token)
  | [] => []
  | v :: rest => tokens v :: itemTokens rest

/-- The tokens of each of some members: a key, a colon and the tokens of a value. -/
def memberTokens : List (Option String × Json) → List (List Token)
  | [] => []
  | (k, v) :: rest => (.string k :: .colon :: tokens v) :: memberTokens rest

end

/-! ### Texts in brackets -/

variable {texts : List (List Char)} {tss : List (List Token)} {first last : Char}
  {opening closing : Token}

/-- A character is a mark of punctuation: it stands for itself, and nothing goes on with it. -/
structure Marks (c : Char) (t : Token) : Prop where
  stands : Stands [c] [t]
  breaks : inNumber c = false ∧ c.isLower = false

theorem marks_comma : Marks ',' .comma := ⟨fun _ _ => rfl, by decide⟩

theorem marks_colon : Marks ':' .colon := ⟨fun _ _ => rfl, by decide⟩

theorem marks_openBracket : Marks '[' .openBracket := ⟨fun _ _ => rfl, by decide⟩

theorem marks_closeBracket : Marks ']' .closeBracket := ⟨fun _ _ => rfl, by decide⟩

theorem marks_openBrace : Marks '{' .openBrace := ⟨fun _ _ => rfl, by decide⟩

theorem marks_closeBrace : Marks '}' .closeBrace := ⟨fun _ _ => rfl, by decide⟩

theorem stands_newLine (level : Nat) : Stands (newLine level) [] := by
  refine stands_of_spaces ?_
  intro c hc
  rcases List.mem_cons.1 hc with rfl | hc
  · rfl
  · rw [List.eq_of_mem_replicate hc]
    rfl

/-- Texts with commas between them, whatever blanks come after each comma. -/
theorem spells_intercalate {blanks : List Char} (hblanks : Stands blanks [])
    (h : List.Forall₂ Spells texts tss) :
    Spells (List.intercalate (',' :: blanks) texts) (List.intercalate [.comma] tss) := by
  induction h with
  | nil => exact Stands.spells fun _ _ => rfl
  | @cons text ts texts tss htext hrest ih =>
    cases hrest with
    | nil => simpa using htext
    | cons _ _ =>
      have hcomma : Stands (text ++ ',' :: blanks) (ts ++ [.comma]) :=
        htext.append (marks_comma.stands.append hblanks) fun rest =>
          breaks_cons marks_comma.breaks _
      rw [List.intercalate_cons_cons, List.intercalate_cons_cons]
      exact hcomma.append_spells ih

/-- Texts in a pair of brackets, commas between them. -/
theorem stands_enclose (hopening : Marks first opening) (hclosing : Marks last closing)
    (h : List.Forall₂ Spells texts tss) :
    Stands (enclose first last [','] texts)
      (opening :: List.intercalate [.comma] tss ++ [closing]) := by
  have htexts : Spells (List.intercalate [','] texts) (List.intercalate [.comma] tss) :=
    spells_intercalate (fun _ _ => rfl) h
  exact (hopening.stands.append_spells htexts).append hclosing.stands
    fun rest => breaks_cons hclosing.breaks _

/-- Texts in a pair of brackets, each on a line of its own. -/
theorem stands_encloseLines (hopening : Marks first opening) (hclosing : Marks last closing)
    (level : Nat) (h : List.Forall₂ Spells texts tss) :
    Stands (encloseLines first last level texts)
      (opening :: List.intercalate [.comma] tss ++ [closing]) := by
  cases h with
  | nil => exact hopening.stands.append hclosing.stands
  | cons htext hrest =>
    have htexts := spells_intercalate (stands_newLine (level + 1)) (.cons htext hrest)
    have hopened := hopening.stands.append (stands_newLine (level + 1))
    have hclosed := (stands_newLine level).append hclosing.stands
    have hbreaks : ∀ rest, Breaks (newLine level ++ [last] ++ rest) :=
      fun rest => breaks_cons (by decide) _
    have hall := (hopened.append_spells htexts).append hclosed hbreaks
    simpa [encloseLines] using hall

/-! ### Values -/

/-- A member is its key, a colon and its value, whatever blanks come after the colon. -/
theorem spells_member (k : Option String) {blanks text : List Char} {ts : List Token}
    (hblanks : Stands blanks []) (h : Spells text ts) :
    Spells (writeString k ++ ':' :: blanks ++ text) (.string k :: .colon :: ts) := by
  have hcolon : Stands (writeString k ++ ':' :: blanks) [.string k, .colon] :=
    (stands_writeString k).append (marks_colon.stands.append hblanks)
  exact hcolon.append_spells h

mutual

/-- A value in one line is found as its tokens. -/
theorem spells_compact (v : Json) (h : v.integral = true) : Spells v.compact v.tokens := by
  cases v with
  | null => exact spells_name rfl
  | bool b =>
    cases b with
    | true | false => exact spells_name rfl
  | integer n => exact spells_signed n
  | decimal d => cases h
  | string s => exact (stands_writeString s).spells
  | array items =>
    exact (stands_enclose marks_openBracket marks_closeBracket
      (spells_compactItems items h)).spells
  | object members =>
    exact (stands_enclose marks_openBrace marks_closeBrace
      (spells_compactMembers members h)).spells

theorem spells_compactItems (items : List Json) (h : integralItems items = true) :
    List.Forall₂ Spells (compactItems items) (itemTokens items) := by
  cases items with
  | nil => exact .nil
  | cons v rest =>
    obtain ⟨hv, hrest⟩ := Bool.and_eq_true_iff.1 h
    exact .cons (spells_compact v hv) (spells_compactItems rest hrest)

theorem spells_compactMembers (members : List (Option String × Json))
    (h : integralMembers members = true) :
    List.Forall₂ Spells (compactMembers members) (memberTokens members) := by
  cases members with
  | nil => exact .nil
  | cons m rest =>
    obtain ⟨k, v⟩ := m
    obtain ⟨hv, hrest⟩ := Bool.and_eq_true_iff.1 h
    exact .cons (spells_member k (fun _ _ => rfl) (spells_compact v hv))
      (spells_compactMembers rest hrest)

end

mutual

/-- A value spread over lines is found as the same tokens. -/
theorem spells_prettyAt (level : Nat) (v : Json) (h : v.integral = true) :
    Spells (v.prettyAt level) v.tokens := by
  cases v with
  | array items =>
    exact (stands_encloseLines marks_openBracket marks_closeBracket level
      (spells_prettyItems (level + 1) items h)).spells
  | object members =>
    exact (stands_encloseLines marks_openBrace marks_closeBrace level
      (spells_prettyMembers (level + 1) members h)).spells
  | null | bool _ | integer _ | decimal _ | string _ => exact spells_compact _ h

theorem spells_prettyItems (level : Nat) (items : List Json) (h : integralItems items = true) :
    List.Forall₂ Spells (prettyItems level items) (itemTokens items) := by
  cases items with
  | nil => exact .nil
  | cons v rest =>
    obtain ⟨hv, hrest⟩ := Bool.and_eq_true_iff.1 h
    exact .cons (spells_prettyAt level v hv) (spells_prettyItems level rest hrest)

theorem spells_prettyMembers (level : Nat) (members : List (Option String × Json))
    (h : integralMembers members = true) :
    List.Forall₂ Spells (prettyMembers level members) (memberTokens members) := by
  cases members with
  | nil => exact .nil
  | cons m rest =>
    obtain ⟨k, v⟩ := m
    obtain ⟨hv, hrest⟩ := Bool.and_eq_true_iff.1 h
    have hblank : Stands [' '] [] := stands_of_spaces (by simp [isSpace])
    exact .cons (spells_member k hblank (spells_prettyAt level v hv))
      (spells_prettyMembers level rest hrest)

end

end RemoteDisplay.Json
