import SqlTemplate.Proofs.Filling
import SqlTemplate.Proofs.Variants

/-!
# Containment — what a string can change is inside its own literal

A string among the values of a list or map is written as a literal, and by itself changes nothing
outside of it. A later parameter, though, is searched for in the text reached so far, literals
included: a string that holds a placeholder can take a parameter that belongs elsewhere, and then
the text around the literals depends on the string (`not_contained`).

`Compilation.isClear` says of a call that this does not happen: no parameter is put inside a
literal. For two clear calls whose parameters are variants of each other

* `alike_put` is the step: the parameter goes to corresponding places of texts that read alike, and
  the texts still do;
* **`alike_foldl_put`** is the run, by induction on the parameters;
* `lexemes_compile_eq` is the whole compilation.
-/

namespace SqlTemplate

open Dialect Sql

namespace Compilation

/-- Whether the place of a placeholder, if it has one, is outside of literals. -/
def findsOutside (sql : Text) (placeholder : Placeholder) : Bool :=
  match sql.splitFirst? placeholder.token with
  | some (before, _) => (Place.after .outside before).isClosed
  | none => true

/-- Whether texts put in place one after the other are all put outside of literals. -/
def staysOutside (sql : Text) : List (Placeholder × Text) → Bool
  | [] => true
  | filling :: rest => findsOutside sql filling.1 && staysOutside (put sql filling) rest

/-- Whether no parameter of a call is put inside a string literal. -/
def isClear (escape : Escaper) (template : Text) (params : List Value) : Bool :=
  match fillings escape params with
  | .ok pairs => staysOutside (Block.resolve (params.any Value.isSkip) template) pairs
  | .error _ => true

/-! ## Two runs -/

/-- Texts for the same placeholder that read alike. -/
def FillAlike (filling other : Placeholder × Text) : Prop :=
  filling.1 = other.1 ∧ Alike filling.2 other.2

/-- **STEP**: texts that read alike still do when texts that read alike are put in the place of a
    placeholder outside of literals. -/
theorem alike_put {sql other : Text} {filling another : Placeholder × Text} (h : Alike sql other)
    (hfilling : FillAlike filling another) (hclear : findsOutside sql filling.1 = true)
    (hotherclear : findsOutside other another.1 = true) :
    Alike (put sql filling) (put other another) := by
  obtain ⟨hplaceholder, hwritten⟩ := hfilling
  rw [← hplaceholder] at hotherclear
  cases hcut : sql.splitFirst? filling.1.token with
  | some cut =>
      obtain ⟨before, behind⟩ := cut
      rw [findsOutside, hcut] at hclear
      cases hothercut : other.splitFirst? filling.1.token with
      | some othercut =>
          obtain ⟨front, back⟩ := othercut
          rw [findsOutside, hothercut] at hotherclear
          obtain ⟨hbefore, hbehind⟩ := h.cut hcut hclear hothercut hotherclear
          rw [put_of_found hcut, put_of_found (hplaceholder ▸ hothercut)]
          exact hbefore.append (hwritten.append hbehind)
      | none => exact absurd hothercut (h.isSome hcut hclear)
  | none =>
      cases hothercut : other.splitFirst? filling.1.token with
      | some othercut =>
          obtain ⟨front, back⟩ := othercut
          rw [findsOutside, hothercut] at hotherclear
          exact absurd hcut (h.symm.isSome hothercut hotherclear)
      | none =>
          rw [put_of_missing hcut, put_of_missing (hplaceholder ▸ hothercut)]
          exact h

/-- **RUN**: texts that read alike still do at the end of clear runs. -/
theorem alike_foldl_put {sql other : Text} {pairs others : List (Placeholder × Text)}
    (h : Alike sql other) (hpairs : List.Forall₂ FillAlike pairs others)
    (hclear : staysOutside sql pairs = true) (hotherclear : staysOutside other others = true) :
    Alike (pairs.foldl put sql) (others.foldl put other) := by
  induction hpairs generalizing sql other with
  | nil => exact h
  | cons hfirst _ ih =>
      obtain ⟨hfinds, hstays⟩ := Bool.and_eq_true_iff.mp hclear
      obtain ⟨hotherfinds, hotherstays⟩ := Bool.and_eq_true_iff.mp hotherclear
      exact ih (alike_put h hfirst hfinds hotherfinds) hstays hotherstays

/-! ## Variants of a call -/

/-- Variants are skip markers together. -/
theorem isSkip_eq {value other : Value} (h : Value.Variant value other) :
    value.isSkip = other.isSkip := by
  cases h <;> rfl

/-- Variants of a list of parameters hold a skip marker together. -/
theorem any_isSkip_eq {params others : List Value} (h : List.Forall₂ Value.Variant params others) :
    params.any Value.isSkip = others.any Value.isSkip := by
  induction h with
  | nil => rfl
  | cons hfirst _ ih => rw [List.any_cons, List.any_cons, isSkip_eq hfirst, ih]

/-- Parameters with the roles of two values that are variants of each other. -/
def RolesOfVariants (count : Nat) (argument other : Nat × Param) : Prop :=
  ∃ value another, Value.Variant value another ∧
    Param.classify? count value = some argument.2 ∧
    Param.classify? count another = some other.2

/-- Variants of a list of parameters stand at the same positions. -/
theorem zipIdx_variants {params others : List Value} (h : List.Forall₂ Value.Variant params others)
    (index : Nat) :
    List.Forall₂ (fun param other => Value.Variant param.1 other.1)
      (params.zipIdx index) (others.zipIdx index) := by
  induction h generalizing index with
  | nil => exact .nil
  | cons hfirst _ ih => exact .cons hfirst (ih (index + 1))

/-- Variants of a list of parameters have roles of variants, one for one. -/
theorem arguments_variants {params others : List Value}
    (h : List.Forall₂ Value.Variant params others) :
    List.Forall₂ (RolesOfVariants params.length) (arguments params) (arguments others) := by
  rw [arguments, arguments, ← h.length_eq]
  refine List.rel_filterMap ?_ (zipIdx_variants h 0)
  rintro ⟨value, index⟩ ⟨other, position⟩ hvariant
  show Option.Rel _ ((Param.classify? params.length value).map (index, ·))
    ((Param.classify? params.length other).map (position, ·))
  -- both are skip markers, or neither is
  have hrole : Param.classify? params.length value = none ↔
      Param.classify? params.length other = none := by
    rw [Param.classify?_eq_none_iff, Param.classify?_eq_none_iff, isSkip_eq hvariant]
  cases hvalue : Param.classify? params.length value with
  | none =>
      rw [hrole.mp hvalue]
      exact .none
  | some param =>
      cases hother : Param.classify? params.length other with
      | none =>
          rw [hrole.mpr hother] at hvalue
          exact nomatch hvalue
      | some another => exact .some ⟨value, other, hvariant, hvalue, hother⟩

/-- Variants of a list of parameters are written as texts that read alike. -/
theorem fillings_alike {params others : List Value} {pairs another : List (Placeholder × Text)}
    (h : List.Forall₂ Value.Variant params others)
    (hpairs : fillings escapeMysql params = .ok pairs)
    (hothers : fillings escapeMysql others = .ok another) :
    List.Forall₂ FillAlike pairs another := by
  refine forall₂_of_mapM_eq_ok ?_ (arguments_variants h) hpairs hothers
  intro argument other filling filling' hroles hfilling hfilling'
  obtain ⟨value, variant, hvariant, hvalue, hother⟩ := hroles
  obtain ⟨hwritten, hplaceholder⟩ := filling_eq_ok_iff.mp hfilling
  obtain ⟨hwritten', hplaceholder'⟩ := filling_eq_ok_iff.mp hfilling'
  obtain ⟨hsame, halike⟩ := hvariant.alike hvalue hother hwritten hwritten'
  exact ⟨by rw [hplaceholder, hplaceholder', hsame], halike⟩

end Compilation

/-- **CONTAINMENT**: two clear calls on a plain template, with parameters that are variants of each
    other, give texts that differ inside of literals only. -/
theorem lexemes_compile_eq {template sql other : Text} {params others : List Value}
    (htemplate : template.Plain) (hvariants : List.Forall₂ Value.Variant params others)
    (hsql : compile escapeMysql template params = .ok sql)
    (hother : compile escapeMysql template others = .ok other)
    (hclear : Compilation.isClear escapeMysql template params = true)
    (hotherclear : Compilation.isClear escapeMysql template others = true) :
    lexemes sql = lexemes other := by
  cases hvariants with
  | nil =>
      -- without parameters both calls give the template back
      rw [hsql] at hother
      rw [Except.ok.inj hother]
  | cons hfirst hrest =>
      obtain ⟨pairs, hpairs, rfl⟩ := (compile_eq_ok_iff (List.cons_ne_nil _ _)).mp hsql
      obtain ⟨another, hanother, rfl⟩ := (compile_eq_ok_iff (List.cons_ne_nil _ _)).mp hother
      rw [Compilation.isClear, hpairs] at hclear
      rw [Compilation.isClear, hanother] at hotherclear
      rw [← Compilation.any_isSkip_eq (.cons hfirst hrest)] at hotherclear ⊢
      have hresolved (dropping : Bool) :
          Alike (Block.resolve dropping template) (Block.resolve dropping template) :=
        alike_self fun hmem => htemplate.no_quote (Block.mem_of_mem_resolve hmem)
      have hfillings := Compilation.fillings_alike (.cons hfirst hrest) hpairs hanother
      exact (Compilation.alike_foldl_put (hresolved _) hfillings hclear hotherclear).lexemes_eq

/-- A string with a quote and a question mark, which no later parameter is searched for. -/
theorem lexemes_compile_eq_quoted :
    lexemes "a IN (1, 'it\\'s ?') AND b = 5".toList = lexemes "a IN (1, 'x') AND b = 5".toList :=
  have hvariants : List.Forall₂ Value.Variant
      [.list [.int 1, .string "it's ?".toList], .int 5]
      [.list [.int 1, .string "x".toList], .int 5] :=
    .cons (.values (.cons (.string _ _) .nil)) (.cons (.int 5) .nil)
  lexemes_compile_eq (show Text.Plain "a IN (?a) AND b = ?d".toList by decide) hvariants
    rfl rfl rfl rfl

/-- Without clear calls the text around the literals depends on the strings: where one holds the
    placeholder of the next parameter, that parameter goes into the literal. -/
theorem not_contained : ¬ ∀ (template sql other : Text) (params others : List Value),
    template.Plain → List.Forall₂ Value.Variant params others →
    compile escapeMysql template params = .ok sql →
    compile escapeMysql template others = .ok other → lexemes sql = lexemes other := by
  intro h
  have hsame := h "?a ?d".toList "1, '5' ?d".toList "1, 'x' 5".toList
    [.list [.int 1, .string "?d".toList], .int 5] [.list [.int 1, .string "x".toList], .int 5]
    (by decide)
    (.cons (.values (.cons (.string _ _) .nil)) (.cons (.int 5) .nil)) rfl rfl
  exact absurd hsame (by decide)

end SqlTemplate
