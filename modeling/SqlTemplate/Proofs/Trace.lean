import SqlTemplate.Compilation.Replay
import SqlTemplate.Proofs.Bytes
import SqlTemplate.Proofs.Rejections

/-!
# Trace — the events of a compilation are a faithful replay of it

A compilation reports what it does while it does it. Whoever has only the events and the texts of
the parameters can do the same again, byte by byte, and ends in the SQL.

* `replaceBytes_encode` and `Reaches.replay_eq` — events that lead from one text to another can be
  replayed on the bytes of the first, without a position out of range;
* **`fill_reaches`** — the run, by induction on the parameters: the events lead from the resolved
  template to the text reached, which is the SQL if there is one;
* `fill_arguments` — a run that succeeds reports each of its parameters once, in order;
* `fill_append` — a run over two rows of parameters goes on with the second where the first one
  succeeds, so a rejection leaves the events of the parameters before it;
* **`events_ofTemplate`** is the whole compilation.
-/

namespace SqlTemplate.Compilation

/-! ## Replaying on bytes -/

/-- Putting a text in the place of another can be done on their bytes. -/
theorem replaceBytes_encode (before old after new : Text) :
    replaceBytes (before ++ (old ++ after)).encode before.byteLength old.byteLength new.encode =
      some (before ++ (new ++ after)).encode := by
  have hrange : before.byteLength + old.byteLength ≤ (before ++ (old ++ after)).encode.length := by
    rw [Text.length_encode, Text.byteLength_append, Text.byteLength_append]
    omega
  have hstop : before.byteLength + old.byteLength = (before.encode ++ old.encode).length := by
    rw [List.length_append, Text.length_encode, Text.length_encode]
  rw [replaceBytes, if_pos hrange, hstop, ← Text.length_encode before]
  simp only [Text.encode_append]
  rw [List.take_left, ← List.append_assoc before.encode, List.drop_left, List.append_assoc]

/-- **REPLAY**: events that lead from one text to another can be replayed on its bytes. -/
theorem Reaches.replay_eq {written : Nat → Text} {text sql : Text} {events : List Event}
    (h : Reaches written text events sql) :
    replay written text.encode events = some sql.encode := by
  induction h with
  | done text => rfl
  | substituting first rest ih =>
      rw [replay, replaceBytes_encode]
      exact ih
  | noPlaceholder missing rest ih =>
      rw [replay]
      · exact ih
      · exact nofun

/-! ## One parameter after the other -/

/-- **THE RUN**: the events of a filling lead to the text reached, whether or not it succeeds. -/
theorem fill_reaches {escape : Escaper} {written : Nat → Text} {arguments : List (Nat × Param)}
    (hwritten : ∀ argument ∈ arguments, ∀ text,
      argument.2.text escape = .ok text → written argument.1 = text) (sql : Text) :
    ∃ reached, Reaches written sql (fill escape sql arguments).events reached ∧
      ∀ done, (fill escape sql arguments).result = .ok done → reached = done := by
  induction arguments generalizing sql with
  | nil =>
      refine ⟨sql, .done sql, ?_⟩
      intro done h
      exact Except.ok.inj h
  | cons argument rest ih =>
      obtain ⟨index, param⟩ := argument
      have hrest := ih fun argument hargument => hwritten argument (.tail _ hargument)
      cases htext : param.text escape with
      | error fault =>
          -- nothing is reported of a parameter that cannot be written
          rw [fill_cons_error (filling_eq_error_iff.mpr htext)]
          exact ⟨sql, .done sql, nofun⟩
      | ok text =>
          have hindex : written index = text := hwritten _ List.mem_cons_self text htext
          cases hsplit : sql.splitFirst? param.placeholder.token with
          | none =>
              obtain ⟨reached, hreaches, hdone⟩ := hrest sql
              rw [fill_cons_missing htext hsplit]
              refine ⟨reached, .noPlaceholder ?_ hreaches, hdone⟩
              intro front back heq
              exact Text.splitFirst?_eq_none hsplit front back (by rw [heq, List.append_assoc])
          | some found =>
              obtain ⟨before, after⟩ := found
              obtain ⟨hsql, hfirst⟩ := Text.splitFirst?_eq_some_iff.mp hsplit
              obtain ⟨reached, hreaches, hdone⟩ := hrest (before ++ text ++ after)
              rw [fill_cons_found htext hsplit]
              rw [List.append_assoc] at hsql
              subst hsql
              refine ⟨reached, .substituting ?_ ?_, hdone⟩
              · intro front back heq
                exact hfirst front back (by rw [heq, List.append_assoc])
              · rw [hindex, ← List.append_assoc]
                exact hreaches

/-- A filling that succeeds reports each of its parameters once, in order. -/
theorem fill_arguments {escape : Escaper} {arguments : List (Nat × Param)} {sql done : Text}
    (h : (fill escape sql arguments).result = .ok done) :
    (fill escape sql arguments).events.map Event.argument? =
      arguments.map fun argument => some (argument.1, argument.2.placeholder) := by
  induction arguments generalizing sql with
  | nil => rfl
  | cons argument rest ih =>
      obtain ⟨index, param⟩ := argument
      cases htext : param.text escape with
      | error fault =>
          rw [fill_cons_error (filling_eq_error_iff.mpr htext)] at h
          exact nomatch h
      | ok text =>
          cases hsplit : sql.splitFirst? param.placeholder.token with
          | none =>
              rw [fill_cons_missing htext hsplit] at h ⊢
              exact congrArg (some (index, param.placeholder) :: ·) (ih h)
          | some found =>
              rw [fill_cons_found htext hsplit] at h ⊢
              exact congrArg (some (index, param.placeholder) :: ·) (ih h)

/-! ## Rejections -/

/-- A compilation that goes on with another one where it succeeds. -/
def andThen (first : Compilation) (next : Text → Compilation) : Compilation :=
  match first.result with
  | .ok sql => { next sql with events := first.events ++ (next sql).events }
  | .error _ => first

theorem andThen_report (event : Event) (first : Compilation) (next : Text → Compilation) :
    (report event first).andThen next = report event (first.andThen next) := by
  obtain ⟨events, result⟩ := first
  cases result with
  | ok sql => rfl
  | error rejection => rfl

/-- A filling with two rows of parameters fills with the first one and goes on with the second. -/
theorem fill_append (escape : Escaper) (sql : Text) (arguments others : List (Nat × Param)) :
    fill escape sql (arguments ++ others) =
      (fill escape sql arguments).andThen fun done => fill escape done others := by
  induction arguments generalizing sql with
  | nil => rfl
  | cons argument rest ih =>
      obtain ⟨index, param⟩ := argument
      rw [List.cons_append]
      cases htext : param.text escape with
      | error fault =>
          have hfault := filling_eq_error_iff.mpr htext
          rw [fill_cons_error hfault, fill_cons_error hfault]
          rfl
      | ok text =>
          cases hsplit : sql.splitFirst? param.placeholder.token with
          | none =>
              rw [fill_cons_missing htext hsplit, fill_cons_missing htext hsplit, andThen_report,
                ih]
          | some found =>
              rw [fill_cons_found htext hsplit, fill_cons_found htext hsplit, andThen_report, ih]

theorem roles_append (count start : Nat) (params others : List Value) :
    roles count start (params ++ others) =
      roles count start params ++ roles count (start + params.length) others := by
  rw [roles, List.zipIdx_append, List.filterMap_append]
  rfl

/-- The events of a filling are about the parameters that it gets through, each once and in
    order. -/
theorem fill_roles_arguments (escape : Escaper) (sql : Text) (params : List Value) :
    (fill escape sql (arguments params)).events.map Event.argument? =
      (roles params.length 0
        (params.take (passed params (fill escape sql (arguments params)).result))).map
          fun argument => some (argument.1, argument.2.placeholder) := by
  cases hresult : (fill escape sql (arguments params)).result with
  | ok done =>
      rw [fill_arguments hresult, passed, List.take_length]
      rfl
  | error rejection =>
      have hrejected : rejectionFrom? 0 params = some rejection := by
        rw [← error?_fill escape sql params.length, ← arguments_eq_roles, hresult]
        rfl
      obtain ⟨before, value, after, hparams, hindex, hvalue, hbefore⟩ :=
        rejectionFrom?_eq_some_iff.mp hrejected
      -- the parameters before the rejected one are filled, and then the filling stops
      obtain ⟨done, hdone⟩ :
          ∃ done, (fill escape sql (roles params.length 0 before)).result = .ok done := by
        rw [← error?_eq_none_iff, error?_fill, rejectionFrom?_eq_none_iff]
        exact hbefore
      have hstop : fill escape done (roles params.length (0 + before.length) (value :: after)) =
          ⟨[], .error ⟨0 + before.length, rejection.fault⟩⟩ := by
        cases hrole : Param.classify? params.length value with
        | none =>
            rw [Value.fault?_of_isSkip (Param.classify?_eq_none_iff.mp hrole)] at hvalue
            exact nomatch hvalue
        | some param =>
            rw [roles_cons_of_some hrole]
            exact fill_cons_error (filling_of_fault?_eq_some hrole hvalue escape) _ _ _
      have hroles : arguments params = roles params.length 0 before ++
          roles params.length (0 + before.length) (value :: after) := by
        rw [← roles_append, ← hparams]
        rfl
      have htake : params.take (passed params (.error rejection)) = before := by
        rw [passed, hindex, Nat.zero_add, hparams, List.take_left]
      rw [htake, ← fill_arguments hdone, hroles, fill_append, andThen, hdone]
      simp only [hstop, List.append_nil]

/-- The texts that a replay uses are those that the compilation writes. -/
theorem written_eq {escape : Escaper} {params : List Value} {argument : Nat × Param}
    (h : argument ∈ arguments params) {text : Text} (htext : argument.2.text escape = .ok text) :
    written escape params argument.1 = text := by
  obtain ⟨⟨value, index⟩, hvalue, hrole⟩ := List.mem_filterMap.mp h
  obtain ⟨param, hparam, rfl⟩ := Option.map_eq_some_iff.mp hrole
  have hat : params[index]? = some value := List.mem_zipIdx_iff_getElem?.mp hvalue
  rw [written, hat, Option.bind_some, hparam]
  simp only [htext]
  rfl

/-- **THE TRACE**: a compilation without parameters reports nothing. Any other one reports its
    template, the blocks that it drops if there is a skip marker, and then each parameter that it
    gets through and that is no marker, once and in order; these events lead from the resolved
    template to the SQL, and can be replayed on its bytes. -/
theorem events_ofTemplate (escape : Escaper) (template : Text) (params : List Value) :
    (params = [] → (ofTemplate escape template params).events = []) ∧
    (params ≠ [] → ∃ (shape : Block.Shape) (events : List Event) (reached : Text),
      shape.Valid ∧ shape.text = template ∧
      (ofTemplate escape template params).events =
        .compiling template.byteLength params.length ::
          ((if params.any Value.isSkip then [.droppingBlocks shape.blocks.length] else []) ++
            events) ∧
      events.map Event.argument? =
        ((params.take (passed params (compile escape template params))).zipIdx.filterMap
          fun (value, index) => (Param.classify? params.length value).map
            fun param => some (index, param.placeholder)) ∧
      Reaches (written escape params) (Block.resolve (params.any Value.isSkip) template)
        events reached ∧
      replay (written escape params)
        (Block.resolve (params.any Value.isSkip) template).encode events = some reached.encode ∧
      ∀ sql, compile escape template params = .ok sql → reached = sql) := by
  constructor
  · rintro rfl
    rfl
  · intro hparams
    obtain ⟨shape, hshape, rfl⟩ := Block.exists_shape template
    obtain ⟨reached, hreaches, hdone⟩ := fill_reaches
      (fun argument hargument text htext => written_eq hargument htext)
      (Block.resolve (params.any Value.isSkip) shape.text)
    refine ⟨shape, _, reached, hshape, rfl, ?_, ?_, hreaches, hreaches.replay_eq, ?_⟩
    · have hempty : params.isEmpty = false := List.isEmpty_eq_false_iff.mpr hparams
      rw [ofTemplate, hempty, Block.length_regions hshape]
      cases params.any Value.isSkip <;> rfl
    · rw [compile_eq_fill hparams, fill_roles_arguments, roles, List.map_filterMap]
      simp only [Option.map_map]
      rfl
    · rw [compile_eq_fill hparams]
      exact hdone

/-- The list goes to byte 3, behind a character of two bytes and the number; the boolean finds no
    placeholder, and nothing is said of the float that is rejected or of the null behind it. -/
example : (ofTemplate id "é?d{?d}?a".toList
      [.int 7, .skip, .list [], .bool true, .float ⟨0x7ff0000000000000⟩, .null]).events =
    [.compiling 10 6, .droppingBlocks 1, .substituting 0 .integer 2, .substituting 2 .values 3,
      .noPlaceholder 3 .integer] := by decide

end SqlTemplate.Compilation
