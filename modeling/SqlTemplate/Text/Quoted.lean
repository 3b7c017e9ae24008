import SqlTemplate.Text
import SqlTemplate.Text.Extending
import SqlTemplate.Text.Unprintable

/-!
# Quoted text — texts on one line of a log

A text is shown between double quotes with escapes, so that it stays on one line and shows what it
holds: a backslash before quotes and backslashes, letters for NUL, tab, line feed and carriage
return, and the hexadecimal code point of every other character that cannot be seen or is shown with
the one before it.

* `Text.quotedChar` writes a character, and `quotedChar_plain` says which stand for themselves;
* `Text.quoted` writes a text.
-/

namespace SqlTemplate.Text

/-- A character as it stands between double quotes. -/
def quotedChar (c : Char) : Text :=
  match c with
  | '\x00' => ['\\', '0']
  | '\t' => ['\\', 't']
  | '\n' => ['\\', 'n']
  | '\r' => ['\\', 'r']
  | '\\' => ['\\', '\\']
  | '\x22' => ['\\', '\x22']
  | c =>
    if isExtending c || isUnprintable c then
      ['\\', 'u', '\x7b'] ++ Nat.toDigits 16 c.toNat ++ ['\x7d']
    else [c]

/-- A text between double quotes. -/
def quoted (text : Text) : Text :=
  '\x22' :: (text.flatMap quotedChar ++ ['\x22'])

/-- A visible ASCII character other than quotes and backslashes stands for itself. -/
theorem quotedChar_plain {c : Char} (hlow : 0x20 ≤ c.toNat) (hhigh : c.toNat ≤ 0x7e)
    (hquote : c ≠ '\x22') (hbackslash : c ≠ '\\') : quotedChar c = [c] := by
  have hextending := isExtending_eq_false (c := c) (by omega)
  have hunprintable := isUnprintable_eq_false hlow hhigh
  unfold quotedChar
  split
  case h_5 => exact absurd rfl hbackslash
  case h_6 => exact absurd rfl hquote
  case h_7 => rw [hextending, hunprintable]; rfl
  all_goals exact absurd hlow (by decide)

end SqlTemplate.Text
