import SqlTemplate.Text

/-!
# UTF-8 — texts as bytes

Positions and lengths that the compiler reports count bytes of the UTF-8 form of a text.

* `Text.encode` is that form, one to four bytes a character;
* `Text.byteLength` is its length, counted without building it (`length_encode`).
-/

namespace SqlTemplate.Text

/-- The UTF-8 form of a text. -/
def encode (text : Text) : List UInt8 :=
  text.flatMap String.utf8EncodeChar

/-- The number of bytes in the UTF-8 form of a text. -/
def byteLength : Text → Nat
  | [] => 0
  | c :: text => c.utf8Size + byteLength text

/-- The measure counts the bytes of the form. -/
theorem length_encode (text : Text) : text.encode.length = text.byteLength := by
  induction text with
  | nil => rfl
  | cons c rest ih =>
      rw [byteLength, ← ih]
      simp [encode, String.length_utf8EncodeChar]

/-- The form of two texts in a row is their forms in a row. -/
theorem encode_append (text more : Text) : (text ++ more).encode = text.encode ++ more.encode :=
  List.flatMap_append

/-- The length of two texts in a row is the sum of their lengths. -/
theorem byteLength_append (text more : Text) :
    (text ++ more).byteLength = text.byteLength + more.byteLength := by
  rw [← length_encode, encode_append, List.length_append, length_encode, length_encode]

end SqlTemplate.Text
