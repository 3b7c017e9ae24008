import SqlTemplate.Text.Alphanumeric
import SqlTemplate.Text

/-!
# Values of an environment file

A value may be quoted in whole or in part, and ends at a space or tab, after which only a comment
may follow. Outside single quotes a dollar sign puts in the value of a variable: of the letters and
digits after it, together with the character after those, or of the name between braces. Outside
single quotes a backslash may stand before a quote, a dollar sign, a space or a backslash, and makes
an `n` a line feed.

* `valueFrom?` reads a value one character at a time, and refuses an unknown escape, an open quote
  or brace, and text after the end;
* `value?` is the whole reading.
-/

namespace SqlTemplate.EnvFile

/-- Where the reading of a value stands. Inside double quotes is `quoted`. -/
inductive Place where
  | text (quoted : Bool)
  | single
  | escape (quoted : Bool)
  /-- After a dollar sign and the letters of a name, the newest first. -/
  | name (quoted : Bool) (letters : Text)
  /-- After a dollar sign, a brace and the letters of a name, the newest first. -/
  | bracedName (quoted : Bool) (letters : Text)
  /-- After the blank that ends the value. -/
  | ended

/-- The character that a backslash gives another one. -/
def escaped? (c : Char) : Option Char :=
  if c = 'n' then some '\n'
  else if c ∈ ['\\', '\x27', '\x22', '$', ' '] then some c
  else none

/-- The value in the rest of a text, where `valueOf` gives the values of variables. -/
def valueFrom? (valueOf : Text → Text) : Place → Text → Option Text
  | .text false, [] | .escape false, [] | .ended, [] => some []
  | .name false letters, [] => some (valueOf letters.reverse)
  | _, [] => none
  | .text quoted, c :: rest =>
    if c = '$' then valueFrom? valueOf (.name quoted []) rest
    else if c = '\\' then valueFrom? valueOf (.escape quoted) rest
    else if c = '\x22' then valueFrom? valueOf (.text !quoted) rest
    else if c = '\x27' ∧ !quoted then valueFrom? valueOf .single rest
    else if (c = ' ' ∨ c = '\t') ∧ !quoted then valueFrom? valueOf .ended rest
    else (valueFrom? valueOf (.text quoted) rest).map (c :: ·)
  | .single, c :: rest =>
    if c = '\x27' then valueFrom? valueOf (.text false) rest
    else (valueFrom? valueOf .single rest).map (c :: ·)
  | .escape quoted, c :: rest =>
    match escaped? c with
    | some e => (valueFrom? valueOf (.text quoted) rest).map (e :: ·)
    | none => none
  | .name quoted letters, c :: rest =>
    if Text.isAlphanumeric c then valueFrom? valueOf (.name quoted (c :: letters)) rest
    else if c = '\x7b' ∧ letters = [] then valueFrom? valueOf (.bracedName quoted []) rest
    else if c = '$' then
      (valueFrom? valueOf (.name quoted []) rest).map (valueOf letters.reverse ++ ·)
    else
      (valueFrom? valueOf (.text quoted) rest).map (valueOf letters.reverse ++ c :: ·)
  | .bracedName quoted letters, c :: rest =>
    if c = '\x7d' then
      (valueFrom? valueOf (.text quoted) rest).map (valueOf letters.reverse ++ ·)
    else valueFrom? valueOf (.bracedName quoted (c :: letters)) rest
  | .ended, c :: rest =>
    if c = ' ' ∨ c = '\t' then valueFrom? valueOf .ended rest
    else if c = '#' then some []
    else none

/-- The value that a text gives. -/
def value? (valueOf : Text → Text) (text : Text) : Option Text :=
  match text with
  | [] | '#' :: _ => some []
  | text => valueFrom? valueOf (.text false) text

/-- A value of letters and digits stands for itself. -/
theorem value?_alphanumeric (valueOf : Text → Text) {text : Text}
    (h : ∀ c ∈ text, c.isAlphanum = true) : value? valueOf text = some text := by
  have hplain : ∀ rest : Text, (∀ c ∈ rest, c.isAlphanum = true) →
      valueFrom? valueOf (.text false) rest = some rest := by
    intro rest hrest
    induction rest with
    | nil => rfl
    | cons c rest ih =>
        have hc := hrest c List.mem_cons_self
        have hne (d : Char) (hd : d.isAlphanum = false) : c ≠ d := by
          rintro rfl
          rw [hc] at hd
          exact absurd hd (by decide)
        rw [valueFrom?, if_neg (hne _ (by decide)), if_neg (hne _ (by decide)),
          if_neg (hne _ (by decide)), if_neg fun hand => hne _ (by decide) hand.1,
          if_neg fun hand => hand.1.elim (hne _ (by decide)) (hne _ (by decide)),
          ih fun d hd => hrest d (List.mem_cons_of_mem _ hd)]
        rfl
  unfold value?
  split
  · rfl
  · exact absurd (h _ List.mem_cons_self) (by decide)
  · exact hplain text h

end SqlTemplate.EnvFile
