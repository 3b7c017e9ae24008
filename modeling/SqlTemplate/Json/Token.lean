import SqlTemplate.Json.Number
import SqlTemplate.Text.Numeral

/-!
# JSON tokens — the first reading of a JSON text

A text is read one character at a time. Blanks are spaces, tabs, line feeds and carriage returns;
words are runs of lower-case letters; numbers are runs of the characters that numbers are made of.
A string refuses control characters and unknown escapes, and its UTF-16 escapes have to make up
characters.

* `Scan` is where a reading stands, with the tokens completed so far;
* `Scan.step` reads one character, and refuses one that cannot come there;
* `Token.ofText?` is the whole reading.
-/

namespace SqlTemplate.Json

/-- A token of a JSON text. -/
inductive Token where
  | openArray
  | closeArray
  | openObject
  | closeObject
  | comma
  | colon
  | string (s : Text)
  /-- A null, a boolean or a number. -/
  | scalar (value : Json)

/-! ## Strings -/

/-- A piece of a string: a character, or a UTF-16 unit given by its number. -/
inductive Piece where
  | char (c : Char)
  | unit (n : Nat)

/-- The text of pieces, in which a unit is a character of its own or half of a pair. -/
def Piece.text? : List Piece → Option Text
  | [] => some []
  | .char c :: rest => (text? rest).map (c :: ·)
  | [.unit n] => if 0xd800 ≤ n ∧ n < 0xe000 then none else some [.ofNat n]
  | .unit n :: .char c :: rest =>
    if 0xd800 ≤ n ∧ n < 0xe000 then none else (text? rest).map (.ofNat n :: c :: ·)
  | .unit high :: .unit low :: rest =>
    if 0xd800 ≤ high ∧ high < 0xe000 then
      if high < 0xdc00 ∧ 0xdc00 ≤ low ∧ low < 0xe000 then
        (text? rest).map (.ofNat (0x10000 + (high - 0xd800) * 0x400 + (low - 0xdc00)) :: ·)
      else none
    else (text? (.unit low :: rest)).map (.ofNat high :: ·)

/-- The character that stands for another after a backslash. -/
def escaped? (c : Char) : Option Char :=
  match c with
  | '\x22' => some '\x22'
  | '\\' => some '\\'
  | '/' => some '/'
  | 'b' => some '\x08'
  | 'f' => some '\x0c'
  | 'n' => some '\n'
  | 'r' => some '\r'
  | 't' => some '\t'
  | _ => none

/-! ## The reading -/

/-- Where a reading stands. Letters, symbols and pieces are kept with the newest first. -/
inductive Place where
  | between
  | word (letters : Text)
  | number (symbols : Text)
  | string (pieces : List Piece)
  | escape (pieces : List Piece)
  /-- After `count` hexadecimal digits of a unit escape, which make up `unit`. -/
  | unit (pieces : List Piece) (count unit : Nat)

/-- A reading under way, with its tokens, the newest first. -/
structure Scan where
  place : Place
  tokens : List Token

namespace Scan

/-- The beginning of a reading. -/
def start : Scan := ⟨.between, []⟩

/-- A character that numbers are made of. -/
def isNumberSymbol (c : Char) : Bool :=
  c.isDigit || c == '-' || c == '+' || c == '.' || c == 'e' || c == 'E'

/-- The token of a word. -/
def word? (letters : Text) : Option Token :=
  if letters = "null".toList then some (.scalar .null)
  else if letters = "true".toList then some (.scalar (.bool true))
  else if letters = "false".toList then some (.scalar (.bool false))
  else none

/-- The token of a number. -/
def number? (symbols : Text) : Option Token :=
  (Number.ofText? symbols).map fun n => .scalar (.number n)

/-- A reading that stands between tokens reads a character. -/
def between (tokens : List Token) (c : Char) : Option Scan :=
  match c with
  | ' ' | '\t' | '\n' | '\r' => some ⟨.between, tokens⟩
  | '[' => some ⟨.between, .openArray :: tokens⟩
  | ']' => some ⟨.between, .closeArray :: tokens⟩
  | '\x7b' => some ⟨.between, .openObject :: tokens⟩
  | '\x7d' => some ⟨.between, .closeObject :: tokens⟩
  | ',' => some ⟨.between, .comma :: tokens⟩
  | ':' => some ⟨.between, .colon :: tokens⟩
  | '\x22' => some ⟨.string [], tokens⟩
  | c =>
    if c.isDigit || c == '-' then some ⟨.number [c], tokens⟩
    else if c.isLower then some ⟨.word [c], tokens⟩
    else none

/-- A reading that stands in a string reads a character. -/
def inString (pieces : List Piece) (tokens : List Token) (c : Char) : Option Scan :=
  if c = '\x22' then
    (Piece.text? pieces.reverse).map fun s => ⟨.between, .string s :: tokens⟩
  else if c = '\\' then some ⟨.escape pieces, tokens⟩
  else if c < ' ' then none
  else some ⟨.string (.char c :: pieces), tokens⟩

/-- A reading reads a character, unless it cannot come there. -/
def step (scan : Scan) (c : Char) : Option Scan :=
  match scan.place with
  | .between => between scan.tokens c
  | .word letters =>
    if c.isLower then some { scan with place := .word (c :: letters) }
    else (word? letters.reverse).bind fun token => between (token :: scan.tokens) c
  | .number symbols =>
    if isNumberSymbol c then some { scan with place := .number (c :: symbols) }
    else (number? symbols.reverse).bind fun token => between (token :: scan.tokens) c
  | .string pieces => inString pieces scan.tokens c
  | .escape pieces =>
    if c = 'u' then some { scan with place := .unit pieces 0 0 }
    else (escaped? c).map fun e => { scan with place := .string (.char e :: pieces) }
  | .unit pieces count unit =>
    (Numeral.hexDigit? c).map fun digit =>
      let longer := 16 * unit + digit
      if count = 3 then { scan with place := .string (.unit longer :: pieces) }
      else { scan with place := .unit pieces (count + 1) longer }

/-- The tokens of a reading that ends here, unless a string is left open. -/
def finish? (scan : Scan) : Option (List Token) :=
  match scan.place with
  | .between => some scan.tokens.reverse
  | .word letters => (word? letters.reverse).map fun token => (token :: scan.tokens).reverse
  | .number symbols =>
    (number? symbols.reverse).map fun token => (token :: scan.tokens).reverse
  | _ => none

end Scan

/-- The tokens of a text. -/
def Token.ofText? (text : Text) : Option (List Token) :=
  (text.foldlM Scan.step Scan.start).bind Scan.finish?

end SqlTemplate.Json
