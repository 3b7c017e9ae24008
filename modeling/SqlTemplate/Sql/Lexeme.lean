import SqlTemplate.Sql.Literal

/-!
# Lexemes — a text whose string literals are taken as wholes

A server tells string literals from the text around them. `Sql.lexemes` is what it sees of a text
without looking into the literals: each of them is one `Lexeme.string`, whatever its content and
however that is escaped, and every other character stands for itself.

* `Place` is where a reader stands, `Place.next` where one character takes it and `Place.emit` what
  it sees of the character;
* `lexemes_of_readString` says that a literal ends where `Literal.readString` says it does.
-/

namespace SqlTemplate.Sql

/-- What a reader sees of a text. -/
inductive Lexeme where
  | char (c : Char)
  | string
deriving DecidableEq, Repr

/-- Where a reader stands: outside of literals, inside of one, behind a backslash inside of one, or
    behind a quote that ends one unless another quote follows. -/
inductive Place where
  | outside
  | inside
  | escaped
  | closing
deriving DecidableEq, Repr

namespace Place

/-- Where a character takes a reader. -/
def next (place : Place) (c : Char) : Place :=
  match place with
  | outside | closing => if c = '\'' then inside else outside
  | inside => if c = '\\' then escaped else if c = '\'' then closing else inside
  | escaped => inside

/-- What a reader sees of a character: a whole literal at its opening quote, and nothing more of
    it. -/
def emit (place : Place) (c : Char) : List Lexeme :=
  match place with
  | outside => if c = '\'' then [.string] else [.char c]
  | closing => if c = '\'' then [] else [.char c]
  | inside | escaped => []

/-- Where a text takes a reader. -/
def after (place : Place) (text : Text) : Place :=
  text.foldl next place

/-- Whether a literal may end here, or none has begun. -/
def isClosed : Place → Bool
  | outside | closing => true
  | inside | escaped => false

/-- A text takes a reader where its first part and then its second part take it. -/
theorem after_append (place : Place) (text more : Text) :
    place.after (text ++ more) = (place.after text).after more :=
  List.foldl_append

end Place

/-- What a reader sees of a text from some place on. -/
def lexemesFrom (place : Place) : Text → List Lexeme
  | [] => []
  | c :: text => place.emit c ++ lexemesFrom (place.next c) text

/-- What a reader sees of a text. -/
def lexemes (text : Text) : List Lexeme :=
  lexemesFrom .outside text

/-- A reader sees the first part of a text and then, from where that took it, the second. -/
theorem lexemesFrom_append (place : Place) (text more : Text) :
    lexemesFrom place (text ++ more) =
      lexemesFrom place text ++ lexemesFrom (place.after text) more := by
  induction text generalizing place with
  | nil => rfl
  | cons c text ih =>
      rw [List.cons_append, lexemesFrom, ih, lexemesFrom, List.append_assoc]
      rfl

/-- Behind a quote that no other quote follows a reader sees what it sees outside of literals. -/
theorem lexemesFrom_closing {text : Text} (h : text.head? ≠ some '\'') :
    lexemesFrom .closing text = lexemes text := by
  cases text with
  | nil => rfl
  | cons c text =>
      have hc : c ≠ '\'' := fun heq => h (congrArg some heq)
      simp only [lexemes, lexemesFrom, Place.emit, Place.next, if_neg hc]

/-- A character put before what was read leaves the text behind it as it is. -/
theorem Literal.eq_some_of_map_following {c : Char} {read : Option (Text × Text)}
    {content rest : Text} (h : read.map (Literal.following c) = some (content, rest)) :
    ∃ tail, read = some (tail, rest) := by
  obtain ⟨⟨tail, behind⟩, hread, hpair⟩ := Option.map_eq_some_iff.mp h
  have hbehind : behind = rest := (Prod.mk.inj hpair).2
  exact ⟨tail, by rw [hread, hbehind]⟩

/-- A reader sees nothing of the content of a literal, and leaves it behind its closing quote. -/
theorem inside_of_readBackslashed {text content rest : Text}
    (h : Literal.readBackslashed text = some (content, rest)) :
    lexemesFrom .inside text = lexemes rest ∧
      Place.after .inside text = Place.after .closing rest := by
  fun_induction Literal.readBackslashed text generalizing content with
  | case1 => exact nomatch h
  | case2 c text ih =>
      obtain ⟨tail, hread⟩ := Literal.eq_some_of_map_following h
      exact ih hread
  | case3 text ih =>
      obtain ⟨tail, hread⟩ := Literal.eq_some_of_map_following h
      exact ih hread
  | case4 text hnext =>
      obtain ⟨-, rfl⟩ := Prod.mk.inj (Option.some.inj h)
      have hhead : text.head? ≠ some '\'' := by
        intro heq
        obtain ⟨more, rfl⟩ := List.head?_eq_some_iff.mp heq
        exact hnext more rfl
      exact ⟨lexemesFrom_closing hhead, rfl⟩
  | case5 c text hescape _ hquote ih =>
      obtain ⟨tail, hread⟩ := Literal.eq_some_of_map_following h
      have hbackslash : c ≠ '\\' := by
        rintro rfl
        -- a backslash that nothing follows is in no literal that ends
        cases text with
        | nil => exact nomatch hread
        | cons d text => exact hescape d text rfl rfl
      have hnext : Place.next .inside c = .inside := by
        rw [Place.next, if_neg hbackslash, if_neg hquote]
      rw [lexemesFrom, Place.after, List.foldl_cons, hnext]
      exact ih hread

/-- **LITERALS ARE WHOLES**: a reader sees one literal up to where it ends, and then the rest. -/
theorem lexemes_of_readString {text content rest : Text}
    (h : Literal.readString text = some (content, rest)) :
    lexemes text = .string :: lexemes rest ∧
      Place.after .outside text = Place.after .closing rest := by
  unfold Literal.readString at h
  split at h
  · obtain ⟨hshown, hafter⟩ := inside_of_readBackslashed h
    refine ⟨?_, hafter⟩
    rw [← hshown]
    rfl
  · exact nomatch h

/-- Doubled quotes and backslashes keep a literal going. -/
example : lexemes "=1+'it''s \\'?'-2".toList =
    [.char '=', .char '1', .char '+', .string, .char '-', .char '2'] := by decide

end SqlTemplate.Sql
