import SqlTemplate.Text.Numeral

/-!
# Literals — how a server reads what stands for values

What a compilation writes between quotes is read again by a server. A reader starts behind the
opening mark and gives the content up to the closing one, with the text that follows it.

* `Literal.readBackslashed` reads a MySQL string: a backslash pair is one character, and so is a
  quote written twice; `Literal.readString` reads the opening quote too;
* `Literal.readDoubled` reads a standard string or a backticked identifier: the mark written twice
  is one mark, and every other character stands for itself; `Literal.readQuoted` reads the opening
  mark too;
* `Literal.read?` reads a literal of any kind: a `NULL`, a number or a MySQL string, and
  `Literal.readStandard?` one with a standard string in place of the MySQL one.
-/

namespace SqlTemplate.Sql

/-- What a server takes for a value. -/
inductive Literal where
  | null
  | number (numeral : Text)
  | string (content : Text)
deriving DecidableEq, Repr

namespace Literal

/-- What a backslash makes of the character after it. -/
def unescaped (c : Char) : Char :=
  match c with
  | '0' => '\x00'
  | 'n' => '\n'
  | 'r' => '\r'
  | 'Z' => '\x1a'
  | c => c

/-- The content that follows a character, with that character in front. -/
def following (c : Char) : Text × Text → Text × Text
  | (content, rest) => (c :: content, rest)

/-- The content of a MySQL string and the text behind it, unless the string does not end. -/
def readBackslashed : Text → Option (Text × Text)
  | [] => none
  | '\\' :: c :: text => (readBackslashed text).map (following (unescaped c))
  | '\'' :: '\'' :: text => (readBackslashed text).map (following '\'')
  | '\'' :: text => some ([], text)
  | c :: text => (readBackslashed text).map (following c)

/-- The content of a MySQL string that begins with its opening quote, and the text behind it. -/
def readString : Text → Option (Text × Text)
  | '\'' :: text => readBackslashed text
  | _ => none

/-- The content between two marks and the text behind it, unless the second mark is missing. -/
def readDoubled (mark : Char) : Text → Option (Text × Text)
  | [] => none
  | [c] => if c = mark then some ([], []) else none
  | c :: d :: text =>
    if c ≠ mark then (readDoubled mark (d :: text)).map (following c)
    else if d = mark then (readDoubled mark text).map (following mark)
    else some ([], d :: text)

/-- The content of what begins with its opening mark, and the text behind it. -/
def readQuoted (mark : Char) : Text → Option (Text × Text)
  | [] => none
  | c :: text => if c = mark then readDoubled mark text else none

/-- A number and the text behind it: all the characters that a number can have. -/
def readNumber (text : Text) : Option (Text × Text) :=
  let numeral := text.takeWhile Numeral.isNumeric
  if Numeral.isPositional numeral then some (numeral, text.dropWhile Numeral.isNumeric) else none

/-- The literal that a text begins with, and the text behind it. -/
def read? (text : Text) : Option (Literal × Text) :=
  match text.after? "NULL".toList with
  | some rest => some (null, rest)
  | none =>
    if text.head? = some '\'' then
      (readString text).map fun (content, rest) => (string content, rest)
    else (readNumber text).map fun (numeral, rest) => (number numeral, rest)

/-- The literal that a text begins with where strings are standard ones. -/
def readStandard? (text : Text) : Option (Literal × Text) :=
  if text.head? = some '\'' then
    (readQuoted '\'' text).map fun (content, rest) => (string content, rest)
  else read? text

end Literal
end SqlTemplate.Sql
