import SqlTemplate.Config.Settings.Scalar
import SqlTemplate.Text.Blank

/-!
# Tokens of a settings file

A text is read one character at a time. Spaces and tabs separate, and a line ends with a line feed
that a carriage return may precede; every other blank is refused outside quotes. A bare scalar goes
up to the next blank, comma, bracket, quote or right angle, and begins with none of them nor with an
equals sign or an at sign. No bare scalar follows a tag directly. Two slashes where a token could
begin start a comment up to the end of the line, and three a doc comment.

* `Scan` is where a reading stands, with the tokens completed so far;
* `Scan.step` reads one character, and refuses one that cannot come there;
* `Token.ofText?` is the whole reading.
-/

namespace SqlTemplate.Config.Settings

/-- A token of a settings file. -/
inductive Token where
  | scalar (form : Form) (text : Text)
  /-- A name with a right angle directly after it; its value follows directly. -/
  | attribute (name : Text)
  /-- A name with an at sign before it; if it is `loaded` its content follows directly. -/
  | tag (name : Text) (loaded : Bool)
  /-- An at sign alone. -/
  | unit
  | comma
  | newline
  | openBrace
  | closeBrace
  | openBracket
  | closeBracket
  | docComment
deriving DecidableEq, Repr

/-- Where a reading stands. Letters and lines are kept with the newest first. -/
inductive Place where
  | between
  /-- After a carriage return. -/
  | carriage
  /-- After a slash that may begin a comment. -/
  | slash
  /-- After two slashes. -/
  | slashes
  | comment
  | bare (letters : Text)
  /-- Directly after an attribute. -/
  | angle
  | atSign
  | tag (letters : Text)
  /-- Directly after a tag and a slash, which has to begin a comment. -/
  | tagSlash
  /-- Directly after a tag and a left angle, which has to begin a block. -/
  | tagAngle
  | quoted (letters : Text)
  | escape (letters : Text)
  /-- After the letter `r` and number signs, which may begin a scalar quoted as it stands. -/
  | rawStart (signs : Nat)
  /-- In a scalar that ends with a quote and number signs. -/
  | raw (signs : Nat) (letters : Text)
  /-- After a quote and number signs, which may end such a scalar. -/
  | rawEnd (signs count : Nat) (letters : Text)
  /-- After a left angle that may begin a block. -/
  | leftAngle
  | blockName (letters : Text)
  /-- After the name of a block, in the rest of its line. -/
  | blockHint (name : Text)
  | block (name : Text) (lines : List Text) (line : Text)

/-- A reading under way, with its tokens, the newest first. -/
structure Scan where
  place : Place
  tokens : List Token

namespace Scan

/-- The beginning of a reading. -/
def start : Scan := ⟨.between, []⟩

/-- A character that may go on in a bare scalar. -/
def isBareLetter (c : Char) : Bool :=
  !Text.isBlank c && c ∉ [',', '\x22', '\x7b', '\x7d', '(', ')', '>']

/-- A character that ends an entry or an item. -/
def isEnding (c : Char) : Bool :=
  Text.isBlank c || c ∈ [',', '\x7d', ')']

/-- A character that tags are made of. -/
def isTagLetter (c : Char) : Bool :=
  c.isAlphanum || c == '_' || c == '-'

/-- The greatest length of the name of a block. -/
def blockNameLimit : Nat := 16

/-- A reading that stands between tokens reads a character. -/
def between (tokens : List Token) (c : Char) : Option Scan :=
  match c with
  | ' ' | '\t' => some ⟨.between, tokens⟩
  | '\n' => some ⟨.between, .newline :: tokens⟩
  | '\r' => some ⟨.carriage, tokens⟩
  | ',' => some ⟨.between, .comma :: tokens⟩
  | '\x7b' => some ⟨.between, .openBrace :: tokens⟩
  | '\x7d' => some ⟨.between, .closeBrace :: tokens⟩
  | '(' => some ⟨.between, .openBracket :: tokens⟩
  | ')' => some ⟨.between, .closeBracket :: tokens⟩
  | '/' => some ⟨.slash, tokens⟩
  | '\x22' => some ⟨.quoted [], tokens⟩
  | '@' => some ⟨.atSign, tokens⟩
  | 'r' => some ⟨.rawStart 0, tokens⟩
  | '<' => some ⟨.leftAngle, tokens⟩
  | '=' | '>' => none
  | c => if Text.isBlank c then none else some ⟨.bare [c], tokens⟩

/-- A reading that stands in a bare scalar reads a character. -/
def inBare (letters : Text) (tokens : List Token) (c : Char) : Option Scan :=
  if isBareLetter c then some ⟨.bare (c :: letters), tokens⟩
  else if c = '\x7b' ∨ c = '(' then between (.scalar .joined letters.reverse :: tokens) c
  else if c = '>' then some ⟨.angle, .attribute letters.reverse :: tokens⟩
  else between (.scalar .bare letters.reverse :: tokens) c

/-- A reading that stands in a comment reads a character. -/
def inComment (tokens : List Token) (c : Char) : Option Scan :=
  if c = '\n' ∨ c = '\r' then between tokens c else some ⟨.comment, tokens⟩

/-- A reading that stands directly after an at sign reads a character. -/
def inAtSign (tokens : List Token) (c : Char) : Option Scan :=
  if c.isAlpha ∨ c = '_' then some ⟨.tag [c], tokens⟩
  else if c = '/' then some ⟨.tagSlash, .unit :: tokens⟩
  else if c = '<' then some ⟨.tagAngle, .unit :: tokens⟩
  else if isBareLetter c ∧ c ≠ '@' then none
  else between (.unit :: tokens) c

/-- A reading that stands in a tag reads a character. -/
def inTag (letters : Text) (tokens : List Token) (c : Char) : Option Scan :=
  if isTagLetter c then some ⟨.tag (c :: letters), tokens⟩
  else if isEnding c then between (.tag letters.reverse false :: tokens) c
  else if c = '/' then some ⟨.tagSlash, .tag letters.reverse false :: tokens⟩
  else if c = '<' then some ⟨.tagAngle, .tag letters.reverse true :: tokens⟩
  else if c ∈ ['\x7b', '(', '\x22', '@'] then between (.tag letters.reverse true :: tokens) c
  else none

/-- A reading that stands in a scalar quoted as it stands reads a character. -/
def inRaw (signs : Nat) (letters : Text) (tokens : List Token) (c : Char) : Scan :=
  if c = '\x22' then
    if signs = 0 then ⟨.between, .scalar .quoted letters.reverse :: tokens⟩
    else ⟨.rawEnd signs 0 letters, tokens⟩
  else ⟨.raw signs (c :: letters), tokens⟩

/-- A reading that stands in the name of a block reads a character. -/
def inBlockName (letters : Text) (tokens : List Token) (c : Char) : Option Scan :=
  if c.isUpper ∨ (letters ≠ [] ∧ (c.isDigit ∨ c = '_')) then
    some ⟨.blockName (c :: letters), tokens⟩
  else if letters = [] ∨ blockNameLimit < letters.length then none
  else if c = '\n' then some ⟨.block letters.reverse [] [], tokens⟩
  else if c = ',' ∨ c = '\r' then some ⟨.blockHint letters.reverse, tokens⟩
  else none

/-- A reading that stands in a block reads a character. -/
def inBlock (name : Text) (lines : List Text) (line : Text) (tokens : List Token) (c : Char) :
    Scan :=
  if c = '\n' then
    if Scalar.closes name line.reverse then
      ⟨.between, .newline :: .scalar .block (Scalar.ofLines lines.reverse line.reverse) :: tokens⟩
    else ⟨.block name (line.reverse :: lines) [], tokens⟩
  else ⟨.block name lines (c :: line), tokens⟩

/-- A reading reads a character, unless it cannot come there. -/
def step (scan : Scan) (c : Char) : Option Scan :=
  let tokens := scan.tokens
  match scan.place with
  | .between => between tokens c
  | .carriage => if c = '\n' then between tokens c else none
  | .slash => if c = '/' then some ⟨.slashes, tokens⟩ else inBare ['/'] tokens c
  | .slashes => if c = '/' then some ⟨.comment, .docComment :: tokens⟩ else inComment tokens c
  | .comment => inComment tokens c
  | .bare letters => inBare letters tokens c
  | .angle => if isEnding c then none else between tokens c
  | .atSign => inAtSign tokens c
  | .tag letters => inTag letters tokens c
  | .tagSlash => if c = '/' then some ⟨.slashes, tokens⟩ else none
  | .tagAngle => if c = '<' then some ⟨.blockName [], tokens⟩ else none
  | .quoted letters =>
    if c = '\x22' then
      (Scalar.unescape? letters.reverse).map fun text =>
        ⟨.between, .scalar .quoted text :: tokens⟩
    else if c = '\\' then some ⟨.escape (c :: letters), tokens⟩
    else some ⟨.quoted (c :: letters), tokens⟩
  | .escape letters => some ⟨.quoted (c :: letters), tokens⟩
  | .rawStart signs =>
    if c = '#' then some ⟨.rawStart (signs + 1), tokens⟩
    else if c = '\x22' then some ⟨.raw signs [], tokens⟩
    else inBare (List.replicate signs '#' ++ ['r']) tokens c
  | .raw signs letters => some (inRaw signs letters tokens c)
  | .rawEnd signs count letters =>
    if c = '#' then
      if count + 1 = signs then some ⟨.between, .scalar .quoted letters.reverse :: tokens⟩
      else some ⟨.rawEnd signs (count + 1) letters, tokens⟩
    else some (inRaw signs (List.replicate count '#' ++ '\x22' :: letters) tokens c)
  | .leftAngle => if c = '<' then some ⟨.blockName [], tokens⟩ else inBare ['<'] tokens c
  | .blockName letters => inBlockName letters tokens c
  | .blockHint name => some (if c = '\n' then ⟨.block name [] [], tokens⟩ else scan)
  | .block name lines line => some (inBlock name lines line tokens c)

/-- The tokens of a reading that ends here, unless something is left open. -/
def finish? (scan : Scan) : Option (List Token) :=
  let ending (token : Token) : Option (List Token) := some (token :: scan.tokens).reverse
  match scan.place with
  | .between | .slashes | .comment => some scan.tokens.reverse
  | .slash => ending (.scalar .bare ['/'])
  | .bare letters => ending (.scalar .bare letters.reverse)
  | .rawStart signs => ending (.scalar .bare ('r' :: List.replicate signs '#'))
  | .leftAngle => ending (.scalar .bare ['<'])
  | .atSign => ending .unit
  | .tag letters => ending (.tag letters.reverse false)
  | .block name lines line =>
    if Scalar.closes name line.reverse then
      ending (.scalar .block (Scalar.ofLines lines.reverse line.reverse))
    else none
  | _ => none

end Scan

/-- The tokens of a text. -/
def Token.ofText? (text : Text) : Option (List Token) :=
  (text.foldlM Scan.step Scan.start).bind Scan.finish?

end SqlTemplate.Config.Settings
