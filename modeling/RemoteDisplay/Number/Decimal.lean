/-
**Whole numbers in decimal.**

A numeral is a list of ASCII digits, most significant first; a signed numeral may have a plus or a
minus in front.  Reading takes any number of leading zeros, writing puts none.

Main definitions:

* `RemoteDisplay.Number.numeral`, `RemoteDisplay.Number.readNat?` — writing and reading a number;
* `RemoteDisplay.Number.signed`, `RemoteDisplay.Number.readInt?` — the same with a sign;
* `RemoteDisplay.Number.readInt32?` — a signed number that fits a word of 32 bits.

Main results:

* `RemoteDisplay.Number.readNat?_numeral`, `RemoteDisplay.Number.readInt?_signed` — a number that
  was written is read back;
* `RemoteDisplay.Number.isDigit_of_mem_numeral`, `RemoteDisplay.Number.numeral_ne_nil` — a numeral
  is made of digits and has at least one.
-/

set_option relaxedAutoImplicit false
set_option autoImplicit false

namespace RemoteDisplay.Number

/-! ### Digits -/

/-- One of the ten ASCII digits. -/
def isDigit (c : Char) : Bool := 48 ≤ c.toNat && c.toNat ≤ 57

/-- The digit of a value below ten. -/
def digit (n : Fin 10) : Char := Char.ofNat (48 + n.val)

/-- The value of a digit. -/
def digitValue (c : Char) : Nat := c.toNat - 48

/-- The value of a list of digits, most significant first. -/
def value (ds : List Char) : Nat := ds.foldl (fun n c => 10 * n + digitValue c) 0

@[simp] theorem isDigit_digit (n : Fin 10) : isDigit (digit n) = true := by
  revert n
  decide

@[simp] theorem digitValue_digit (n : Fin 10) : digitValue (digit n) = n.val := by
  revert n
  decide

theorem value_concat (ds : List Char) (c : Char) :
    value (ds ++ [c]) = 10 * value ds + digitValue c := by
  simp [value, List.foldl_append]

/-! ### Numerals -/

/-- The numeral of a number, without leading zeros. -/
def numeral (n : Nat) : List Char :=
  if n < 10 then [digit (Fin.ofNat 10 n)] else numeral (n / 10) ++ [digit (Fin.ofNat 10 n)]

/-- Reads a numeral: one digit or more and nothing else. -/
def readNat? (s : List Char) : Option Nat :=
  if s.isEmpty || !s.all isDigit then none else some (value s)

/-- A numeral has at least one digit. -/
theorem numeral_ne_nil (n : Nat) : numeral n ≠ [] := by
  unfold numeral
  split <;> simp

/-- A numeral is made of digits. -/
theorem isDigit_of_mem_numeral {n : Nat} {c : Char} (h : c ∈ numeral n) : isDigit c = true := by
  fun_induction numeral n with
  | case1 n _ => simp_all
  | case2 n _ ih =>
    rcases List.mem_append.1 h with h | h
    · exact ih h
    · simp_all

/-- A numeral has the value of its number. -/
theorem value_numeral (n : Nat) : value (numeral n) = n := by
  fun_induction numeral n with
  | case1 n h => simp [value, Fin.ofNat, Nat.mod_eq_of_lt h]
  | case2 n _ ih =>
    rw [value_concat, ih, digitValue_digit]
    simp only [Fin.ofNat]
    omega

/-- A number that was written is read back. -/
theorem readNat?_numeral (n : Nat) : readNat? (numeral n) = some n := by
  have h : (numeral n).all isDigit = true := List.all_eq_true.2 fun _ => isDigit_of_mem_numeral
  simp [readNat?, h, numeral_ne_nil, value_numeral]

/-! ### Signs -/

/-- The numeral of an integer, with a minus in front if it is negative. -/
def signed : Int → List Char
  | .ofNat n => numeral n
  | .negSucc n => '-' :: numeral (n + 1)

/-- Reads a numeral with an optional sign in front. -/
def readInt? : List Char → Option Int
  | '-' :: s => (readNat? s).map fun n => -Int.ofNat n
  | '+' :: s => (readNat? s).map Int.ofNat
  | s => (readNat? s).map Int.ofNat

/-- An integer that was written is read back. -/
theorem readInt?_signed (n : Int) : readInt? (signed n) = some n := by
  cases n with
  | ofNat n =>
    have hd : ∀ c ∈ numeral n, isDigit c = true := fun _ => isDigit_of_mem_numeral
    have hr := readNat?_numeral n
    simp only [signed]
    revert hd hr
    cases numeral n with
    | nil => simp [readNat?]
    | cons c s =>
      intro hd hr
      have hc := hd c List.mem_cons_self
      unfold readInt?
      split
      next heq => cases heq; simp [isDigit] at hc
      next heq => cases heq; simp [isDigit] at hc
      next => simp [hr]
  | negSucc n =>
    simp only [signed, readInt?, readNat?_numeral]
    rfl

/-! ### Words -/

/-- Reads a signed numeral whose value fits a word of 32 bits. -/
def readInt32? (s : List Char) : Option Int32 :=
  (readInt? s).bind fun n => if -0x80000000 ≤ n ∧ n ≤ 0x7fffffff then some (Int32.ofInt n) else none

/-- A word that was written is read back. -/
theorem readInt32?_signed (n : Int32) : readInt32? (signed n.toInt) = some n := by
  have h₁ := n.le_toInt
  have h₂ := n.toInt_lt
  simp only [readInt32?, readInt?_signed, Option.bind_some]
  rw [if_pos ⟨h₁, Int.le_of_lt_add_one h₂⟩, Int32.ofInt_toInt]

end RemoteDisplay.Number
