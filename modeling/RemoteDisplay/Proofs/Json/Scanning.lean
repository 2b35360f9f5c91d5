/-
**What a piece of text is cut into.**

A scan goes through a text once, so what it finds in one piece does not depend on what it has found
before.  A string and a mark of punctuation are complete in themselves: whatever follows, they are
found as they are.  A number and a name are complete only before something that does not go on with
them.  Blanks are nothing at all.

Main definitions:

* `RemoteDisplay.Json.Scan.read?` — the tokens found in the rest of a text;
* `RemoteDisplay.Json.Breaks` — a text does not go on with a number or a name;
* `RemoteDisplay.Json.Stands`, `RemoteDisplay.Json.Spells` — a piece of text is found as some
  tokens, whatever follows it, and if nothing goes on with it.

Main results:

* `RemoteDisplay.Json.stands_of_spaces` — blanks are nothing;
* `RemoteDisplay.Json.stands_writeString` — a string that was written is found as it was;
* `RemoteDisplay.Json.spells_name`, `RemoteDisplay.Json.spells_signed` — and so are a name and an
  integer.
-/
import Mathlib.Data.List.TakeDrop
import Mathlib.Data.List.TakeWhile
import RemoteDisplay.Json.Reader
import RemoteDisplay.Json.Writer

set_option relaxedAutoImplicit false
set_option autoImplicit false

namespace RemoteDisplay.Json

/-! ### Pieces of text -/

/-- The tokens found in the rest of a text, after those found already, last first. -/
def Scan.read? (scan : Scan) (s : List Char) : Option (List Token) :=
  (s.foldlM Scan.next? scan).bind Scan.finish?

theorem Scan.read?_cons (scan : Scan) (c : Char) (s : List Char) :
    scan.read? (c :: s) = (scan.next? c).bind fun next => next.read? s := by
  simp only [read?, List.foldlM_cons]
  cases scan.next? c <;> rfl

/-- The tokens of a text are those found from its beginning. -/
theorem tokens?_eq (s : List Char) :
    tokens? s = (Scan.read? ⟨[], .between⟩ s).map List.reverse := rfl

/-- A text does not go on with a number or a name. -/
def Breaks (s : List Char) : Prop := ∀ c ∈ s.head?, inNumber c = false ∧ c.isLower = false

theorem breaks_cons {c : Char} (h : inNumber c = false ∧ c.isLower = false) (s : List Char) :
    Breaks (c :: s) := by
  intro d hd
  cases hd
  exact h

variable {text more : List Char} {ts us : List Token}

/-- A piece of text is found as some tokens, whatever follows it. -/
def Stands (text : List Char) (ts : List Token) : Prop :=
  ∀ found rest, Scan.read? ⟨found, .between⟩ (text ++ rest) =
    Scan.read? ⟨ts.reverse ++ found, .between⟩ rest

/-- A piece of text is found as some tokens if nothing goes on with the last of them. -/
def Spells (text : List Char) (ts : List Token) : Prop :=
  ∀ found rest, Breaks rest → Scan.read? ⟨found, .between⟩ (text ++ rest) =
    Scan.read? ⟨ts.reverse ++ found, .between⟩ rest

theorem Stands.spells (h : Stands text ts) : Spells text ts := fun found rest _ => h found rest

theorem Stands.append (h : Stands text ts) (h' : Stands more us) :
    Stands (text ++ more) (ts ++ us) := by
  intro found rest
  rw [List.append_assoc, h, h', List.reverse_append, List.append_assoc]

theorem Stands.append_spells (h : Stands text ts) (h' : Spells more us) :
    Spells (text ++ more) (ts ++ us) := by
  intro found rest hrest
  rw [List.append_assoc, h, h' _ _ hrest, List.reverse_append, List.append_assoc]

/-- What does not go on with a piece of text may follow it. -/
theorem Spells.append (h : Spells text ts) (h' : Stands more us)
    (hmore : ∀ rest, Breaks (more ++ rest)) : Stands (text ++ more) (ts ++ us) := by
  intro found rest
  rw [List.append_assoc, h _ _ (hmore rest), h', List.reverse_append, List.append_assoc]

/-! ### Blanks -/

/-- Blanks do not go on with anything. -/
theorem breaks_of_spaces (h : ∀ c ∈ text, isSpace c = true) : Breaks text := by
  intro c hc
  have hspace := h c (List.mem_of_mem_head? hc)
  simp only [isSpace, Bool.or_eq_true, beq_iff_eq] at hspace
  rcases hspace with ((rfl | rfl) | rfl) | rfl <;> exact ⟨rfl, rfl⟩

/-- Blanks are nothing. -/
theorem stands_of_spaces (h : ∀ c ∈ text, isSpace c = true) : Stands text [] := by
  intro found rest
  induction text with
  | nil => rfl
  | cons c text ih =>
    have hnext : Scan.next? ⟨found, .between⟩ c = some ⟨found, .between⟩ :=
      if_pos (h c List.mem_cons_self)
    rw [List.cons_append, Scan.read?_cons, hnext]
    exact ih fun d hd => h d (List.mem_cons_of_mem c hd)

/-! ### Strings -/

/-- The characters that are escaped by one letter. -/
def short : List Char := ['"', '\\', '\x08', '\x0c', '\n', '\r', '\t']

/-- What stands for a character in a string that was written. -/
def piece (c : Char) : Piece := if c < ' ' ∧ c ∉ short then .unit c.toNat else .char c

theorem toNat_lt_of_lt_space {c : Char} (h : c < ' ') : c.toNat < 32 := UInt32.lt_iff_toNat_lt.1 h

/-- A character that was written in a string is found as its piece. -/
theorem read?_escapeChar (found : List Token) (pieces : List Piece) (c : Char) (rest : List Char) :
    Scan.read? ⟨found, .text pieces⟩ (escapeChar c ++ rest) =
      Scan.read? ⟨found, .text (piece c :: pieces)⟩ rest := by
  by_cases hshort : c ∈ short
  · simp only [short, List.mem_cons, List.not_mem_nil, or_false] at hshort
    rcases hshort with rfl | rfl | rfl | rfl | rfl | rfl | rfl <;> rfl
  · obtain ⟨hquote, hbackslash, hletters⟩ : c ≠ '"' ∧ c ≠ '\\' ∧
        (c ≠ '\x08' ∧ c ≠ '\x0c' ∧ c ≠ '\n' ∧ c ≠ '\r' ∧ c ≠ '\t') := by
      simpa [short] using hshort
    by_cases hcontrol : c < ' '
    · -- four digits name the character, the first two of them zero
      have hlt := toNat_lt_of_lt_space hcontrol
      have hvalue :
          0x10 * (Text.nibble (c.toNat / 16)).val + (Text.nibble c.toNat).val = c.toNat := by
        simp only [Text.nibble, Fin.ofNat]
        omega
      have hescape : escapeChar c = ['\\', 'u', '0', '0',
          Text.hexDigit (Text.nibble (c.toNat / 16)), Text.hexDigit (Text.nibble c.toNat)] := by
        simp [escapeChar, hquote, hbackslash, hletters, hcontrol]
      have hzero : Text.hexValue? '0' = some 0 := by decide
      rw [hescape, piece, if_pos ⟨hcontrol, hshort⟩]
      simp [Scan.read?_cons, Scan.next?, hzero, hvalue]
    · have hnext :
          Scan.next? ⟨found, .text pieces⟩ c = some ⟨found, .text (.char c :: pieces)⟩ := by
        simp [Scan.next?, hquote, hbackslash, hcontrol]
      have hescape : escapeChar c = [c] := by
        simp [escapeChar, hquote, hbackslash, hletters, hcontrol]
      rw [hescape, List.singleton_append, Scan.read?_cons, hnext, piece,
        if_neg (by simp [hcontrol])]
      rfl

/-- A unit that is no half of a surrogate pair stands for its character. -/
theorem joinPieces_piece (found : List Char) (c : Char) (rest : List Piece) :
    joinPieces found (piece c :: rest) = joinPieces (c :: found) rest := by
  unfold piece
  split
  next h =>
    have hlt := toNat_lt_of_lt_space h.1
    have hhigh : isHighSurrogate c.toNat = false := by simp [isHighSurrogate]; omega
    have hlow : isLowSurrogate c.toNat = false := by simp [isLowSurrogate]; omega
    cases rest with
    | nil => simp [joinPieces, hhigh, hlow]
    | cons p rest => cases p <;> simp [joinPieces, hhigh, hlow]
  · rfl

theorem joinPieces_map_piece (found cs : List Char) :
    joinPieces found (cs.map piece) = some (cs.reverse ++ found) := by
  induction cs generalizing found with
  | nil => rfl
  | cons c cs ih =>
    rw [List.map_cons, joinPieces_piece, ih, List.reverse_cons, List.append_assoc]
    rfl

/-- A string that was written is found as it was. -/
theorem stands_writeString (s : Option String) : Stands (writeString s) [.string s] := by
  cases s with
  | none =>
    intro found rest
    rfl
  | some s =>
    have hpieces : ∀ (found : List Token) (pieces : List Piece) (cs rest : List Char),
        Scan.read? ⟨found, .text pieces⟩ (cs.flatMap escapeChar ++ rest) =
          Scan.read? ⟨found, .text ((cs.map piece).reverse ++ pieces)⟩ rest := by
      intro found pieces cs rest
      induction cs generalizing pieces with
      | nil => rfl
      | cons c cs ih =>
        rw [List.flatMap_cons, List.append_assoc, read?_escapeChar, ih, List.map_cons,
          List.reverse_cons, List.append_assoc]
        rfl
    have htext : textOfPieces (s.toList.map piece).reverse = some s := by
      rw [textOfPieces, List.reverse_reverse, joinPieces_map_piece]
      simp
    intro found rest
    have hwrite : writeString (some s) = '"' :: (s.toList.flatMap escapeChar ++ ['"']) := rfl
    have hbegin : Scan.next? ⟨found, .between⟩ '"' = some ⟨found, .text []⟩ := rfl
    have hend : ∀ pieces, Scan.next? ⟨found, .text pieces⟩ '"' =
        some ⟨.string (textOfPieces pieces) :: found, .between⟩ := fun _ => rfl
    rw [hwrite, List.cons_append, Scan.read?_cons, hbegin, Option.bind_some, List.append_assoc,
      hpieces, List.append_nil, List.singleton_append, Scan.read?_cons, hend, Option.bind_some,
      htext]
    rfl

/-! ### Integers and names -/

/-- A number ends where nothing goes on with it. -/
theorem read?_number {found : List Token} {cs rest : List Char} {v : Json}
    (h : ofNumber? cs.reverse = some v) (hrest : Breaks rest) :
    Scan.read? ⟨found, .number cs⟩ rest = Scan.read? ⟨.scalar v :: found, .between⟩ rest := by
  cases rest with
  | nil => simp [Scan.read?, Scan.finish?, h]
  | cons c rest =>
    obtain ⟨hnumber, -⟩ := hrest c rfl
    simp [Scan.read?_cons, Scan.next?, Scan.finish?, hnumber, h]

/-- A name ends where nothing goes on with it. -/
theorem read?_name {found : List Token} {cs rest : List Char} {v : Json}
    (h : ofName? cs.reverse = some v) (hrest : Breaks rest) :
    Scan.read? ⟨found, .name cs⟩ rest = Scan.read? ⟨.scalar v :: found, .between⟩ rest := by
  cases rest with
  | nil => simp [Scan.read?, Scan.finish?, h]
  | cons c rest =>
    obtain ⟨-, hlower⟩ := hrest c rfl
    simp [Scan.read?_cons, Scan.next?, Scan.finish?, hlower, h]

/-- A name is found as the value that it stands for. -/
theorem spells_name {name : List Char} {v : Json} (h : ofName? name = some v) :
    Spells name [.scalar v] := by
  intro found rest hrest
  have hknown : name = "null".toList ∨ name = "true".toList ∨ name = "false".toList := by
    unfold ofName? at h
    split at h
    next hnull => exact .inl hnull
    next =>
      split at h
      next htrue => exact .inr (.inl htrue)
      next =>
        split at h
        next hfalse => exact .inr (.inr hfalse)
        next => cases h
  have hscan : Scan.read? ⟨found, .between⟩ (name ++ rest) =
      Scan.read? ⟨found, .name name.reverse⟩ rest := by
    rcases hknown with rfl | rfl | rfl <;> rfl
  rw [hscan]
  refine read?_name ?_ hrest
  rw [List.reverse_reverse, h]

/-- A digit begins a number. -/
theorem start?_of_isDigit (found : List Token) {c : Char} (h : Number.isDigit c = true) :
    Scan.start? found c = some ⟨found, .number [c]⟩ := by
  have hspace : isSpace c = false := by
    simp only [isSpace, Bool.or_eq_false_iff, beq_eq_false_iff_ne]
    refine ⟨⟨⟨?_, ?_⟩, ?_⟩, ?_⟩ <;>
      · rintro rfl
        cases h
  have hquote : c ≠ '"' := by
    rintro rfl
    cases h
  simp [Scan.start?, hspace, hquote, h]

/-- Digits go on with a number. -/
theorem read?_digits (found : List Token) (before : List Char) {cs : List Char}
    (h : ∀ c ∈ cs, Number.isDigit c = true) (rest : List Char) :
    Scan.read? ⟨found, .number before⟩ (cs ++ rest) =
      Scan.read? ⟨found, .number (cs.reverse ++ before)⟩ rest := by
  induction cs generalizing before with
  | nil => rfl
  | cons c cs ih =>
    have hnumber : inNumber c = true := by simp [inNumber, h c List.mem_cons_self]
    have hnext : Scan.next? ⟨found, .number before⟩ c = some ⟨found, .number (c :: before)⟩ :=
      if_pos hnumber
    rw [List.cons_append, Scan.read?_cons, hnext, Option.bind_some,
      ih (c :: before) fun d hd => h d (List.mem_cons_of_mem c hd), List.reverse_cons,
      List.append_assoc]
    rfl

/-- A numeral has no zero in front unless it has nothing else. -/
theorem isWhole_numeral (n : Nat) : isWhole (Number.numeral n) = true := by
  fun_induction Number.numeral n with
  | case1 n _ =>
    have hdigit : ∀ d : Fin 10, isWhole [Number.digit d] = true := by decide
    exact hdigit _
  | case2 n hn ih =>
    have hne : Number.numeral (n / 10) ≠ ['0'] := by
      intro hzero
      have hvalue := congrArg Number.value hzero
      rw [Number.value_numeral] at hvalue
      have hten : Number.value ['0'] = 0 := rfl
      omega
    cases hds : Number.numeral (n / 10) with
    | nil => exact absurd hds (Number.numeral_ne_nil _)
    | cons d ds =>
      rw [hds] at ih hne
      have hfirst : d ≠ '0' := by
        rintro rfl
        cases ds with
        | nil => exact hne rfl
        | cons d ds => cases ih
      simp [isWhole, hfirst]

/-- The value of the digits of a number. -/
theorem ofUnsigned?_numeral (negative : Bool) {n : Nat} (h : negative = true → n ≠ 0) :
    ofUnsigned? negative (Number.numeral n) =
      some (integer (if negative then -(n : Int) else n)) := by
  have hdigits : Number.takeDigits (Number.numeral n) = (Number.numeral n, []) := by
    have hall : ∀ c ∈ Number.numeral n, Number.isDigit c = true := fun _ =>
      Number.isDigit_of_mem_numeral
    rw [Number.takeDigits, List.span_eq_takeWhile_dropWhile, List.takeWhile_eq_self_iff.2 hall,
      List.dropWhile_eq_nil_iff.2 hall]
  have hzero : (negative && Number.numeral n == ['0']) = false := by
    cases negative with
    | false => rfl
    | true =>
      rw [Bool.true_and, beq_eq_false_iff_ne]
      intro heq
      have hvalue := congrArg Number.value heq
      rw [Number.value_numeral] at hvalue
      exact h rfl hvalue
  simp [ofUnsigned?, hdigits, isWhole_numeral, hzero, Number.value_numeral]

/-- An integer that was written is read as a number. -/
theorem ofNumber?_signed (n : Int) : ofNumber? (Number.signed n) = some (integer n) := by
  cases n with
  | negSucc n => exact ofUnsigned?_numeral true fun _ => Nat.succ_ne_zero n
  | ofNat n =>
    have hread := ofUnsigned?_numeral false (n := n) (by simp)
    unfold ofNumber?
    split
    next s heq =>
      -- a numeral does not begin with a minus
      have hminus : Number.isDigit '-' = true :=
        Number.isDigit_of_mem_numeral (n := n) (by rw [show Number.numeral n = _ from heq]; simp)
      cases hminus
    next => simpa [Number.signed] using hread

/-- An integer that was written is found as it was. -/
theorem spells_signed (n : Int) : Spells (Number.signed n) [.scalar (integer n)] := by
  intro found rest hrest
  have hdigits : ∀ m, ∀ c ∈ Number.numeral m, Number.isDigit c = true := fun _ _ =>
    Number.isDigit_of_mem_numeral
  have hscan : Scan.read? ⟨found, .between⟩ (Number.signed n ++ rest) =
      Scan.read? ⟨found, .number (Number.signed n).reverse⟩ rest := by
    cases n with
    | negSucc n =>
      have hbegin : Scan.next? ⟨found, .between⟩ '-' = some ⟨found, .number ['-']⟩ := rfl
      rw [Number.signed, List.cons_append, Scan.read?_cons, hbegin, Option.bind_some,
        read?_digits found _ (hdigits _), List.reverse_cons]
    | ofNat n =>
      obtain ⟨c, cs, hcs⟩ := List.exists_cons_of_ne_nil (Number.numeral_ne_nil n)
      have hall := hdigits n
      rw [hcs] at hall
      have hbegin := start?_of_isDigit found (hall c List.mem_cons_self)
      have hnext : Scan.next? ⟨found, .between⟩ c = some ⟨found, .number [c]⟩ := hbegin
      rw [Number.signed, hcs, List.cons_append, Scan.read?_cons, hnext, Option.bind_some,
        read?_digits found _ fun d hd => hall d (List.mem_cons_of_mem c hd), List.reverse_cons]
  rw [hscan]
  refine read?_number ?_ hrest
  rw [List.reverse_reverse]
  exact ofNumber?_signed n

end RemoteDisplay.Json
