import SqlTemplate.Text.Ranges

/-!
# Blanks — characters that only separate others

A blank is a character with the Unicode property White_Space: spaces of every width, tabs, and what
ends a line or a paragraph.

* `isBlank` is the class, and `isBlank_of_isWhitespace` says that it holds the ASCII blanks.
-/

namespace SqlTemplate.Text

/-- The code points of blanks. -/
def blanks : Ranges :=
  [(0x9, 0xd), (0x20, 0x20), (0x85, 0x85), (0xa0, 0xa0), (0x1680, 0x1680), (0x2000, 0x200a),
    (0x2028, 0x2029), (0x202f, 0x202f), (0x205f, 0x205f), (0x3000, 0x3000)]

/-- Whether a character is a blank. -/
def isBlank (c : Char) : Bool :=
  blanks.contains c

/-- The ASCII blanks are blanks. -/
theorem isBlank_of_isWhitespace {c : Char} (h : c.isWhitespace = true) : isBlank c = true := by
  simp only [Char.isWhitespace, Bool.or_eq_true, decide_eq_true_eq] at h
  rcases h with ((h | h) | h) | h <;> subst h <;> rfl

end SqlTemplate.Text
