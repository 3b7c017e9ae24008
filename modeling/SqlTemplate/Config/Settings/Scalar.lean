import SqlTemplate.Text.Numeral

/-!
# Scalars — the single texts of a settings file

A name or value is written bare, between double quotes, or as a block of whole lines. Bare letters
and lines stand for themselves; between quotes a backslash stands before a quote, a backslash, one
of the letters `n`, `r` and `t`, or the letter `u` with a code point: four hexadecimal digits, or
any number of them between braces.

* `Scalar.unescape?` gives the letters between quotes their meaning, and `unescape?_plain` says that
  letters without a backslash mean themselves;
* `Scalar.ofLines` is the text of a block, which loses as many blanks at the beginning of each line
  as its last line has.
-/

namespace SqlTemplate.Config.Settings

/-- How a scalar is written. -/
inductive Form where
  | bare
  /-- Bare, with an opening bracket directly after it. -/
  | joined
  | quoted
  | block
deriving DecidableEq, Repr

namespace Scalar

/-- Where the reading of letters between quotes stands. -/
inductive Place where
  | plain
  | escape
  /-- After the letter that begins a code point. -/
  | code
  /-- After `count` hexadecimal digits, which make up `code`. -/
  | digits (count code : Nat)
  /-- Between braces, after digits that make up a code, if there are any. -/
  | braces (code : Option Nat)

/-- The character that stands for another after a backslash. -/
def escaped? (c : Char) : Option Char :=
  match c with
  | '\x22' => some '\x22'
  | '\\' => some '\\'
  | 'n' => some '\n'
  | 'r' => some '\r'
  | 't' => some '\t'
  | _ => none

/-- The character of a code point. -/
def character? (code : Nat) : Option Char :=
  if code.isValidChar then some (.ofNat code) else none

/-- What the rest of the letters between quotes means. -/
def unescapeFrom? : Place → Text → Option Text
  | .plain, [] => some []
  | _, [] => none
  | .plain, c :: rest =>
    if c = '\\' then unescapeFrom? .escape rest else (unescapeFrom? .plain rest).map (c :: ·)
  | .escape, c :: rest =>
    if c = 'u' then unescapeFrom? .code rest
    else
      match escaped? c with
      | some e => (unescapeFrom? .plain rest).map (e :: ·)
      | none => none
  | .code, c :: rest =>
    if c = '\x7b' then unescapeFrom? (.braces none) rest
    else
      match Numeral.hexDigit? c with
      | some digit => unescapeFrom? (.digits 1 digit) rest
      | none => none
  | .digits count code, c :: rest =>
    match Numeral.hexDigit? c with
    | none => none
    | some digit =>
      let longer := 16 * code + digit
      if count < 3 then unescapeFrom? (.digits (count + 1) longer) rest
      else
        match character? longer with
        | some e => (unescapeFrom? .plain rest).map (e :: ·)
        | none => none
  | .braces code, c :: rest =>
    if c = '\x7d' then
      match code.map character? with
      | none => unescapeFrom? .plain rest
      | some (some e) => (unescapeFrom? .plain rest).map (e :: ·)
      | some none => none
    else
      match Numeral.hexDigit? c with
      | some digit => unescapeFrom? (.braces (some (16 * code.getD 0 + digit))) rest
      | none => none

/-- What the letters between quotes mean. -/
def unescape? (letters : Text) : Option Text :=
  unescapeFrom? .plain letters

/-- Letters without a backslash mean themselves. -/
theorem unescape?_plain {letters : Text} (h : '\\' ∉ letters) :
    unescape? letters = some letters := by
  unfold unescape?
  induction letters with
  | nil => rfl
  | cons c rest ih =>
      simp only [List.mem_cons, not_or] at h
      rw [unescapeFrom?, if_neg (Ne.symm h.1), ih h.2]
      rfl

/-! ## Blocks -/

/-- A blank at the beginning of a line of a block. -/
def isIndent (c : Char) : Bool :=
  c == ' ' || c == '\t'

/-- Whether a line ends the block of a name. -/
def closes (name line : Text) : Bool :=
  line.dropWhile isIndent == name || line.dropWhile isIndent == name ++ ['\r']

/-- A line without a number of blanks at its beginning, or with none if it has fewer. -/
def unindented : Nat → Text → Text
  | 0, line => line
  | _, [] => []
  | n + 1, c :: line => if isIndent c then unindented n line else c :: line

/-- The text of the lines of a block before its last. -/
def ofLines (lines : List Text) (last : Text) : Text :=
  let indentation := (last.takeWhile isIndent).length
  lines.flatMap fun line => unindented indentation line ++ ['\n']

end Scalar
end SqlTemplate.Config.Settings
