/-
**The tokens of JSON.**

A text is cut into punctuation, names, numbers and strings; blanks between them do not matter.  This
is done one character at a time, in a state that says what kind of token is being read.

A string ends at the next quotation mark that is not escaped and holds no control character.  Its
escapes name a character, or four hexadecimal digits name a unit of UTF-16; two units that form a
surrogate pair stand for one character, and a half of a pair for none.

A number may have any number of digits.  Of very many only the first are read, as many as the number
half way between two doubles may need; all others together count as a one.

Main definitions:

* `RemoteDisplay.Json.Token` — tokens;
* `RemoteDisplay.Json.maxDigits`, `RemoteDisplay.Json.ofDigits` — the value of a number that is no
  integer;
* `RemoteDisplay.Json.Scan`, `RemoteDisplay.Json.Scan.next?` — the state of a scan and its steps;
* `RemoteDisplay.Json.tokens?` — the tokens of a text.
-/
import RemoteDisplay.Json.Basic
import RemoteDisplay.Text.Hex

set_option relaxedAutoImplicit false
set_option autoImplicit false

namespace RemoteDisplay.Json

/-- A token of JSON. -/
inductive Token where
  | openBrace
  | closeBrace
  | openBracket
  | closeBracket
  | comma
  | colon
  /-- A value that is one token. -/
  | scalar (v : Json)
  /-- A string, without its text if it holds half of a surrogate pair. -/
  | string (text : Option String)

/-! ### Strings -/

/-- What stands for a piece of a string: a character, or a unit of UTF-16. -/
inductive Piece where
  | char (c : Char)
  | unit (n : Nat)

/-- The unit begins a surrogate pair. -/
def isHighSurrogate (n : Nat) : Bool := 0xd800 ≤ n && n ≤ 0xdbff

/-- The unit ends a surrogate pair. -/
def isLowSurrogate (n : Nat) : Bool := 0xdc00 ≤ n && n ≤ 0xdfff

/-- The character that a surrogate pair stands for. -/
def surrogatePair (high low : Nat) : Char :=
  Char.ofNat (0x10000 + (high - 0xd800) * 0x400 + (low - 0xdc00))

/-- The characters that some pieces stand for, after those found already, last first. -/
def joinPieces (found : List Char) : List Piece → Option (List Char)
  | [] => some found
  | .char c :: rest => joinPieces (c :: found) rest
  | .unit n :: .unit m :: rest =>
    if isHighSurrogate n && isLowSurrogate m then joinPieces (surrogatePair n m :: found) rest
    else if isHighSurrogate n || isLowSurrogate n then none
    else joinPieces (Char.ofNat n :: found) (.unit m :: rest)
  | .unit n :: rest =>
    if isHighSurrogate n || isLowSurrogate n then none
    else joinPieces (Char.ofNat n :: found) rest

/-- The text of a string whose pieces are given last first. -/
def textOfPieces (pieces : List Piece) : Option String :=
  (joinPieces [] pieces.reverse).map fun cs => String.ofList cs.reverse

/-- The character that an escape of one letter names. -/
def escaped? (c : Char) : Option Char :=
  match c with
  | '"' => some '"'
  | '\\' => some '\\'
  | '/' => some '/'
  | 'b' => some '\x08'
  | 'f' => some '\x0c'
  | 'n' => some '\n'
  | 'r' => some '\r'
  | 't' => some '\t'
  | _ => none

/-! ### Names and numbers -/

/-- The value that a name stands for. -/
def ofName? (s : List Char) : Option Json :=
  if s = "null".toList then some null
  else if s = "true".toList then some (bool true)
  else if s = "false".toList then some (bool false)
  else none

/-- Nothing but a lone zero begins with a zero. -/
def isWhole (ds : List Char) : Bool :=
  match ds with
  | [] => false
  | ['0'] => true
  | d :: _ => d != '0'

/-- The fraction of a number: a point and at least one digit, or nothing. -/
def fraction? : List Char → Option (List Char × List Char)
  | '.' :: s =>
    let (ds, s) := Number.takeDigits s
    if ds.isEmpty then none else some (ds, s)
  | s => some ([], s)

/-- How many digits of a number are read. -/
def maxDigits : Nat := 768

/-- The value of a number with the given digits before and after the point.  Zeros in front and
zeros at the end of the fraction do not count.  Of too many digits the first are read, and a one
stands for the others, even if they are zeros. -/
def ofDigits (negative : Bool) (whole fraction : List Char) (exponent : Int) : Json :=
  let fraction := (fraction.reverse.dropWhile (· = '0')).reverse
  let digits := (whole ++ fraction).dropWhile (· = '0')
  let unread := (digits.drop maxDigits).length
  decimal <|
    if unread = 0 then .ofDigits negative whole fraction exponent
    else .ofDigits negative (digits.take maxDigits) ['1'] (exponent - fraction.length + unread)

/-- The value of an unsigned number. -/
def ofUnsigned? (negative : Bool) (s : List Char) : Option Json :=
  let (whole, s) := Number.takeDigits s
  if isWhole whole then
    if s.isEmpty && !(negative && whole == ['0']) then
      some (integer (if negative then -(Number.value whole : Int) else Number.value whole))
    else
      (fraction? s).bind fun (fraction, s) =>
        (Number.readExponent? s).map fun exponent =>
          ofDigits negative whole fraction exponent
  else none

/-- The value of a number. -/
def ofNumber? : List Char → Option Json
  | '-' :: s => ofUnsigned? true s
  | s => ofUnsigned? false s

/-! ### Scanning -/

/-- What kind of token is being read; its characters are given last first. -/
inductive Mode where
  | between
  | name (letters : List Char)
  | number (characters : List Char)
  | text (pieces : List Piece)
  | escape (pieces : List Piece)
  | unit (pieces : List Piece) (digits : List (Fin 16))

/-- The tokens found so far, last first, and what is being read. -/
structure Scan where
  found : List Token
  mode : Mode

/-- A blank of JSON. -/
def isSpace (c : Char) : Bool := c == ' ' || c == '\t' || c == '\n' || c == '\r'

/-- A character of a number. -/
def inNumber (c : Char) : Bool :=
  Number.isDigit c || c == '-' || c == '+' || c == '.' || c == 'e' || c == 'E'

/-- A token that is one character. -/
def punctuation? (c : Char) : Option Token :=
  match c with
  | '{' => some .openBrace
  | '}' => some .closeBrace
  | '[' => some .openBracket
  | ']' => some .closeBracket
  | ',' => some .comma
  | ':' => some .colon
  | _ => none

namespace Scan

/-- Begins a token, or passes over a blank. -/
def start? (found : List Token) (c : Char) : Option Scan :=
  if isSpace c then some ⟨found, .between⟩
  else if c = '"' then some ⟨found, .text []⟩
  else if c = '-' ∨ Number.isDigit c then some ⟨found, .number [c]⟩
  else if c.isLower then some ⟨found, .name [c]⟩
  else (punctuation? c).map fun t => ⟨t :: found, .between⟩

/-- Ends a name or a number. -/
def finish? (scan : Scan) : Option (List Token) :=
  match scan.mode with
  | .between => some scan.found
  | .name letters => (ofName? letters.reverse).map fun v => .scalar v :: scan.found
  | .number characters => (ofNumber? characters.reverse).map fun v => .scalar v :: scan.found
  | _ => none

/-- Reads one character. -/
def next? (scan : Scan) (c : Char) : Option Scan :=
  match scan.mode with
  | .between => start? scan.found c
  | .name letters =>
    if c.isLower then some { scan with mode := .name (c :: letters) }
    else scan.finish?.bind fun found => start? found c
  | .number characters =>
    if inNumber c then some { scan with mode := .number (c :: characters) }
    else scan.finish?.bind fun found => start? found c
  | .text pieces =>
    if c = '"' then some ⟨.string (textOfPieces pieces) :: scan.found, .between⟩
    else if c = '\\' then some { scan with mode := .escape pieces }
    else if c < ' ' then none
    else some { scan with mode := .text (.char c :: pieces) }
  | .escape pieces =>
    if c = 'u' then some { scan with mode := .unit pieces [] }
    else (escaped? c).map fun c => { scan with mode := .text (.char c :: pieces) }
  | .unit pieces digits =>
    (Text.hexValue? c).map fun d =>
      match digits with
      | [d₃, d₂, d₁] =>
        { scan with
          mode := .text
            (.unit (0x1000 * d₁.val + 0x100 * d₂.val + 0x10 * d₃.val + d.val) :: pieces) }
      | _ => { scan with mode := .unit pieces (d :: digits) }

end Scan

/-- The tokens of a text. -/
def tokens? (s : List Char) : Option (List Token) :=
  ((s.foldlM Scan.next? ⟨[], .between⟩).bind Scan.finish?).map List.reverse

end RemoteDisplay.Json
