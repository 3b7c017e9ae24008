import SqlTemplate.Proofs.OnePass
import SqlTemplate.Proofs.Rejections

/-!
# Reordering — only the order among parameters of one placeholder matters

Two parameters that fill different typed placeholders can change places. Each claims an occurrence
of its own placeholder, no position has occurrences of both, and the claimed places can be filled in
any order. So a list of parameters can be sorted by placeholders, step by step, and its SQL stays.

* `filledFrom_swap` — claims on different positions can change places;
* `claims_pair` — a claim leaves the occurrences of other typed placeholders free;
* **`put_comm`** — two inert texts for different typed placeholders can change places;
* `foldl_eq_of_filter_eq` — the run: steps that commute unless they have a key in common only depend
  on their order for each key, by induction on the steps;
* **`compile_eq_of_perm`** is the whole compilation.
-/

namespace SqlTemplate

namespace OnePass

/-! ## Claims that change places -/

/-- What a filled text is made of are the claims on its positions. -/
theorem filledFrom_congr {claimed others : List Claim}
    (h : ∀ position, (claimed.find? fun claim => claim.position == position) =
      others.find? fun claim => claim.position == position)
    (position skipped : Nat) (text : Text) :
    filledFrom claimed position skipped text = filledFrom others position skipped text := by
  induction text generalizing position skipped with
  | nil => rfl
  | cons c text ih =>
      cases skipped with
      | succ skipped => exact ih (position + 1) skipped
      | zero =>
          rw [filledFrom, filledFrom, h position]
          split
          next claim _ => rw [ih]
          next => rw [ih]

theorem filledFrom_swap {first second : Claim} (h : first.position ≠ second.position)
    (position skipped : Nat) (text : Text) :
    filledFrom [first, second] position skipped text =
      filledFrom [second, first] position skipped text := by
  refine filledFrom_congr (fun position => ?_) position skipped text
  by_cases hfirst : first.position = position
  · have hsecond : second.position ≠ position := fun heq => h (hfirst.trans heq.symm)
    simp [hfirst, hsecond]
  · simp [List.find?_cons, hfirst]

/-- No position has occurrences of two typed placeholders. -/
theorem eq_of_occursAt {text : Text} {placeholder other : Placeholder} {position : Nat}
    (hplaceholder : placeholder ≠ .generic) (hother : other ≠ .generic)
    (h : occursAt text placeholder.token position = true)
    (h' : occursAt text other.token position = true) : placeholder = other := by
  obtain ⟨after, hafter⟩ := occursAt_iff.mp h
  obtain ⟨after', hafter'⟩ := occursAt_iff.mp h'
  rw [hafter] at hafter'
  cases placeholder <;> cases other <;>
    first
    | rfl
    | exact absurd rfl hplaceholder
    | exact absurd rfl hother
    | exact absurd hafter' (by simp [Placeholder.token])

/-- A claim on one typed placeholder takes no place from another. -/
theorem place?_claim {text : Text} {placeholder other : Placeholder} {claim : Claim}
    (hplaceholder : placeholder ≠ .generic) (hother : other ≠ .generic) (hne : placeholder ≠ other)
    (hclaim : occursAt text placeholder.token claim.position = true) :
    place? text other.token [claim] = place? text other.token [] := by
  unfold place?
  refine congrArg (List.find? · (List.range text.length)) (funext fun position => ?_)
  by_cases hposition : claim.position = position
  · have hoccurs : occursAt text other.token position = false := by
      rw [← hposition]
      exact Bool.eq_false_iff.mpr fun h => hne (eq_of_occursAt hplaceholder hother hclaim h)
    simp [hoccurs]
  · simp [hposition]

theorem occursAt_of_place? {text token : Text} {claimed : List Claim} {position : Nat}
    (h : place? text token claimed = some position) : occursAt text token position = true := by
  obtain ⟨⟨before, after, heq, hlength, -⟩, -⟩ := place?_eq_some h
  refine occursAt_iff.mpr ⟨after, ?_⟩
  rw [heq, ← hlength, List.drop_left]

/-- The claims of two different typed placeholders are those that each makes alone. -/
theorem claims_pair (text : Text) {placeholder other : Placeholder}
    (hplaceholder : placeholder ≠ .generic) (hother : other ≠ .generic) (hne : placeholder ≠ other)
    (written written' : Text) :
    claims text [] [(placeholder.token, written), (other.token, written')] =
      (place? text placeholder.token []).toList.map (⟨·, placeholder.token.length, written⟩) ++
        (place? text other.token []).toList.map (⟨·, other.token.length, written'⟩) := by
  cases hplace : place? text placeholder.token [] with
  | none =>
      cases hplace' : place? text other.token [] <;> simp [claims, hplace, hplace']
  | some position =>
      have hfree : place? text other.token [⟨position, placeholder.token.length, written⟩] =
          place? text other.token [] :=
        place?_claim hplaceholder hother hne (occursAt_of_place? hplace)
      cases hplace' : place? text other.token [] <;> simp [claims, hplace, hfree, hplace']

/-- **SWAP**: inert texts for different typed placeholders can change places. -/
theorem put_comm (text : Text) {first second : Placeholder × Text} (hfirst : first.1 ≠ .generic)
    (hsecond : second.1 ≠ .generic) (hne : first.1 ≠ second.1) (hinert : first.2.Inert)
    (hinert' : second.2.Inert) :
    Compilation.put (Compilation.put text first) second =
      Compilation.put (Compilation.put text second) first := by
  have hrun {one two : Placeholder × Text} (hone : one.2.Inert) (htwo : two.2.Inert) :
      Compilation.put (Compilation.put text one) two =
        filledFrom (claims text [] [(one.1.token, one.2), (two.1.token, two.2)]) 0 0 text := by
    have hpairs : ∀ pair ∈ [one, two], pair.2.Inert := by
      intro pair hpair
      rcases List.mem_cons.mp hpair with rfl | hpair
      · exact hone
      · rwa [List.mem_singleton.mp hpair]
    have h : [one, two].foldl Compilation.put (filledFrom [] 0 0 text) = _ :=
      foldl_put_filled hpairs nofun nofun
    rw [filledFrom_nil] at h
    exact h
  rw [hrun hinert hinert', hrun hinert' hinert, claims_pair text hfirst hsecond hne,
    claims_pair text hsecond hfirst hne.symm]
  cases hplace : place? text first.1.token [] with
  | none => simp
  | some position =>
      cases hplace' : place? text second.1.token [] with
      | none => simp
      | some position' =>
          refine filledFrom_swap (fun heq => hne ?_) 0 0 text
          obtain rfl : position = position' := heq
          exact eq_of_occursAt hfirst hsecond (occursAt_of_place? hplace)
            (occursAt_of_place? hplace')

end OnePass

/-! ## Sorting a run -/

/-- A step that commutes with those before it can be taken first. -/
theorem foldl_append_cons {σ β : Type} {step : σ → β → σ} {item : β} {front : List β}
    (hcomm : ∀ other ∈ front, ∀ s, step (step s other) item = step (step s item) other)
    (back : List β) (s : σ) :
    (front ++ item :: back).foldl step s = (front ++ back).foldl step (step s item) := by
  induction front generalizing s with
  | nil => rfl
  | cons other front ih =>
      show (front ++ item :: back).foldl step (step s other) =
        (front ++ back).foldl step (step (step s item) other)
      rw [ih fun next hnext => hcomm next (List.mem_cons_of_mem other hnext),
        hcomm other List.mem_cons_self]

/-- **SORTING**: steps that commute unless they have a key in common end the same in any two orders
    that agree on the steps of each key. -/
theorem foldl_eq_of_filter_eq {σ β κ : Type} [DecidableEq κ] {step : σ → β → σ} {key : β → κ}
    {items others : List β}
    (hcomm : ∀ item ∈ items, ∀ other ∈ items, key item ≠ key other →
      ∀ s, step (step s item) other = step (step s other) item)
    (h : ∀ k, items.filter (fun item => key item = k) = others.filter (fun item => key item = k))
    (s : σ) : items.foldl step s = others.foldl step s := by
  -- both lists have the same members, since each member is one of those with its key
  have hmem {items others : List β} (h : ∀ k, items.filter (fun item => key item = k) =
      others.filter (fun item => key item = k)) (other : β) (hother : other ∈ others) :
      other ∈ items := by
    have hfilter : other ∈ others.filter (fun item => key item = key other) :=
      List.mem_filter.mpr ⟨hother, by simp⟩
    rw [← h] at hfilter
    exact (List.mem_filter.mp hfilter).1
  induction items generalizing others s with
  | nil =>
      have hnil : others = [] := List.eq_nil_iff_forall_not_mem.mpr fun other hother =>
        nomatch hmem h other hother
      rw [hnil]
  | cons item items ih =>
      have hkey := h (key item)
      rw [List.filter_cons_of_pos (by simp)] at hkey
      obtain ⟨front, back, rfl, hfront, -, hback⟩ := List.filter_eq_cons_iff.mp hkey.symm
      have hne (other : β) (hother : other ∈ front) : key other ≠ key item := by
        simpa using hfront other hother
      have hmove : ∀ other ∈ front, ∀ s, step (step s other) item = step (step s item) other := by
        intro other hother s
        have hother' : other ∈ item :: items := hmem h other (List.mem_append_left _ hother)
        exact hcomm other hother' item List.mem_cons_self (hne other hother) s
      rw [foldl_append_cons hmove]
      refine ih (fun one hone two htwo => hcomm one (.tail _ hone) two (.tail _ htwo)) ?_ _
      intro k
      by_cases hk : key item = k
      · have hnone : front.filter (fun item => key item = k) = [] := by
          refine List.filter_eq_nil_iff.mpr fun other hother => ?_
          rw [← hk]
          simpa using hne other hother
        rw [List.filter_append, hnone, ← hk, hback]
        rfl
      · have hrest := h k
        rw [List.filter_cons_of_neg (by simpa using hk), List.filter_append,
          List.filter_cons_of_neg (by simpa using hk)] at hrest
        rw [hrest, List.filter_append]

/-! ## Parameters of one placeholder -/

/-- Whether a value is among `count` parameters one that fills a placeholder. -/
def Value.fills (count : Nat) (placeholder : Placeholder) (value : Value) : Bool :=
  (Param.classify? count value).map Param.placeholder = some placeholder

/-- A parameter beside others that is no null fills a typed placeholder. -/
theorem placeholder_ne_generic {count : Nat} {value : Value} {param : Param} (hcount : 1 < count)
    (hnull : value ≠ .null) (hrole : Param.classify? count value = some param) :
    param.placeholder ≠ .generic := by
  cases value with
  | null => exact absurd rfl hnull
  | string s =>
      rw [Param.classify?, if_pos hcount] at hrole
      cases hrole
      simp [Param.placeholder]
  | list items =>
      cases hrole
      rcases Param.ofItems_eq items with heq | heq <;> simp [heq, Param.placeholder]
  | skip => simp [Param.classify?] at hrole
  | _ =>
      cases hrole
      simp [Param.placeholder]

theorem filterMap_fills (count : Nat) (placeholder : Placeholder) (params : List Value) :
    (params.filter (Value.fills count placeholder)).filterMap (Param.classify? count) =
      (params.filterMap (Param.classify? count)).filter (·.placeholder = placeholder) := by
  rw [List.filterMap_filter, List.filter_filterMap]
  refine congrArg (List.filterMap · params) (funext fun value => ?_)
  cases hrole : Param.classify? count value with
  | none => simp
  | some param => simp [Value.fills, hrole, Option.filter]

/-- Results of the items that a key selects are the results that it selects. -/
theorem mapM_filter {α β ε : Type} {f : α → Except ε β} {items : List α} {results : List β}
    {p : α → Bool} {q : β → Bool} (hkey : ∀ item result, f item = .ok result → q result = p item)
    (h : items.mapM f = .ok results) : (items.filter p).mapM f = .ok (results.filter q) := by
  have hrow := mapM_eq_ok_iff.mp h
  refine mapM_eq_ok_iff.mpr ?_
  clear h
  induction hrow with
  | nil => exact .nil
  | @cons item result items results hitem _ ih =>
      cases hp : p item with
      | false =>
          rw [List.filter_cons_of_neg (by simp [hp]),
            List.filter_cons_of_neg (by simp [hkey item result hitem, hp])]
          exact ih
      | true =>
          rw [List.filter_cons_of_pos hp,
            List.filter_cons_of_pos (by rw [hkey item result hitem, hp])]
          exact .cons hitem ih

/-- The texts for one placeholder are those of the parameters that fill it. -/
theorem fillings_filter {escape : Escaper} {params : List Value}
    {pairs : List (Placeholder × Text)} (h : Compilation.fillings escape params = .ok pairs)
    (placeholder : Placeholder) :
    ((params.filter (Value.fills params.length placeholder)).filterMap
        (Param.classify? params.length)).mapM (Compilation.filling escape) =
      .ok (pairs.filter (·.1 = placeholder)) := by
  rw [Compilation.fillings_eq] at h
  rw [filterMap_fills]
  refine mapM_filter (fun param pair hpair => ?_) h
  rw [(Compilation.filling_eq_ok_iff.mp hpair).2]

/-- Parameters that all have texts are written. -/
theorem exists_fillings {escape : Escaper} {params : List Value}
    (h : ∀ value ∈ params, ∀ param, Param.classify? params.length value = some param →
      ∃ written, param.text escape = .ok written) :
    ∃ pairs, Compilation.fillings escape params = .ok pairs := by
  rw [Compilation.fillings_eq, ← error?_eq_none_iff, error?_mapM, List.findSome?_eq_none_iff]
  intro param hparam
  obtain ⟨value, hvalue, hrole⟩ := List.mem_filterMap.mp hparam
  obtain ⟨written, hwritten⟩ := h value hvalue param hrole
  exact error?_eq_none_iff.mpr
    ⟨(param.placeholder, written), Compilation.filling_eq_ok_iff.mpr ⟨hwritten, rfl⟩⟩

/-- Texts for several parameters without a null are for typed placeholders. -/
theorem typed_of_fillings {escape : Escaper} {params : List Value}
    {pairs : List (Placeholder × Text)} (hcount : 1 < params.length) (hnull : .null ∉ params)
    (h : Compilation.fillings escape params = .ok pairs) :
    ∀ pair ∈ pairs, pair.1 ≠ .generic := by
  intro pair hpair
  obtain ⟨value, hvalue, param, hrole, -, hplaceholder⟩ :=
    Compilation.exists_value_of_fillings h hpair
  rw [hplaceholder]
  exact placeholder_ne_generic hcount (fun heq => hnull (heq ▸ hvalue)) hrole

/-- Calls that agree on the parameters of each typed placeholder agree on the texts for it. -/
theorem filter_fillings_eq {escape : Escaper} {params others : List Value}
    {pairs pairs' : List (Placeholder × Text)} (hcount : 1 < params.length)
    (hlength : params.length = others.length) (hnull : .null ∉ params) (hnull' : .null ∉ others)
    (horder : ∀ placeholder, placeholder ≠ .generic →
      params.filter (Value.fills params.length placeholder) =
        others.filter (Value.fills others.length placeholder))
    (h : Compilation.fillings escape params = .ok pairs)
    (h' : Compilation.fillings escape others = .ok pairs') (placeholder : Placeholder) :
    pairs.filter (·.1 = placeholder) = pairs'.filter (·.1 = placeholder) := by
  by_cases hgeneric : placeholder = .generic
  · -- neither call has a text for the bare question mark
    have hnone {pairs : List (Placeholder × Text)} (htyped : ∀ pair ∈ pairs, pair.1 ≠ .generic) :
        pairs.filter (·.1 = placeholder) = [] := by
      rw [hgeneric]
      exact List.filter_eq_nil_iff.mpr fun pair hpair => by simpa using htyped pair hpair
    rw [hnone (typed_of_fillings hcount hnull h),
      hnone (typed_of_fillings (hlength ▸ hcount) hnull' h')]
  · have hwritten := fillings_filter h placeholder
    rw [horder placeholder hgeneric, hlength, fillings_filter h' placeholder] at hwritten
    exact (Except.ok.inj hwritten).symm

/-- **REORDERING**: calls whose parameters are the same but for the order between parameters of
    different placeholders have the same SQL, if their texts are not empty and hold no question
    mark. -/
theorem compile_eq_of_perm {escape : Escaper} {template : Text} {params others : List Value}
    (hperm : params.Perm others) (hnull : .null ∉ params)
    (horder : ∀ placeholder, placeholder ≠ .generic →
      params.filter (Value.fills params.length placeholder) =
        others.filter (Value.fills others.length placeholder))
    (hplain : ∀ value ∈ params, ∀ param, Param.classify? params.length value = some param →
      ∃ written, param.text escape = .ok written ∧ written ≠ [] ∧ '?' ∉ written) :
    ∃ sql, compile escape template params = .ok sql ∧ compile escape template others = .ok sql := by
  have hlength : params.length = others.length := hperm.length_eq
  have htexts : ∀ value ∈ params, ∀ param, Param.classify? params.length value = some param →
      ∃ written, param.text escape = .ok written := by
    intro value hvalue param hrole
    obtain ⟨written, hwritten, -⟩ := hplain value hvalue param hrole
    exact ⟨written, hwritten⟩
  obtain ⟨pairs, hpairs⟩ := exists_fillings htexts
  match params, hlength with
  | [], hlength => exact ⟨template, rfl, by rw [← hperm.nil_eq]; rfl⟩
  | [value], hlength =>
      -- a lone parameter has nothing to change places with
      rw [List.perm_singleton.mp hperm.symm]
      exact ⟨_, (compile_eq_ok_iff (List.cons_ne_nil _ _)).mpr ⟨pairs, hpairs, rfl⟩,
        (compile_eq_ok_iff (List.cons_ne_nil _ _)).mpr ⟨pairs, hpairs, rfl⟩⟩
  | first :: second :: rest, hlength =>
      have hcount : 1 < (first :: second :: rest).length :=
        Nat.succ_lt_succ (Nat.succ_pos rest.length)
      obtain ⟨pairs', hpairs'⟩ : ∃ pairs', Compilation.fillings escape others = .ok pairs' := by
        refine exists_fillings fun value hvalue => ?_
        rw [← hlength]
        exact htexts value (hperm.mem_iff.mpr hvalue)
      have hnull' : .null ∉ others := fun hmem => hnull (hperm.mem_iff.mpr hmem)
      have hothers : others ≠ [] := fun heq => by rw [heq] at hlength; exact nomatch hlength
      have hinert : ∀ pair ∈ pairs, pair.2.Inert := by
        intro pair hpair
        obtain ⟨value, hvalue, param, hrole, hwritten, -⟩ :=
          Compilation.exists_value_of_fillings hpairs hpair
        obtain ⟨written, hwritten', hne, hmark⟩ := hplain value hvalue param hrole
        obtain rfl : pair.2 = written := Except.ok.inj (hwritten.symm.trans hwritten')
        exact ⟨hne, hmark, Param.text_neutral hwritten⟩
      have htyped : ∀ pair ∈ pairs, pair.1 ≠ .generic := typed_of_fillings hcount hnull hpairs
      refine ⟨_, (compile_eq_ok_iff (List.cons_ne_nil _ _)).mpr ⟨pairs, hpairs, rfl⟩,
        (compile_eq_ok_iff hothers).mpr ⟨pairs', hpairs', ?_⟩⟩
      rw [← hperm.any_eq]
      refine foldl_eq_of_filter_eq ?_
        (filter_fillings_eq hcount hlength hnull hnull' horder hpairs hpairs') _
      intro pair hpair other hother hne text
      exact OnePass.put_comm text (htyped pair hpair) (htyped other hother) hne
        (hinert pair hpair) (hinert other hother)

/-- The two integers stay in order; the name and the marker go past them, and the second question
    mark of `??d` is not the first parameter's. -/
theorem compile_eq_of_perm_adjacent :
    ∃ sql, compile id "??d{?d} ?#?d".toList [.int 1, .string "n".toList, .skip, .bool true] =
        .ok sql ∧
      compile id "??d{?d} ?#?d".toList [.string "n".toList, .int 1, .bool true, .skip] =
        .ok sql := by
  refine compile_eq_of_perm ?_ (by simp) ?_ ?_
  · exact (List.Perm.swap _ _ _).trans (.cons _ (.cons _ (List.Perm.swap _ _ _)))
  · intro placeholder _
    cases placeholder <;> rfl
  · intro value hvalue param hrole
    simp only [List.mem_cons, List.not_mem_nil, or_false] at hvalue
    rcases hvalue with rfl | rfl | rfl | rfl
    · cases hrole
      exact ⟨_, rfl, by decide, by decide⟩
    · cases hrole
      exact ⟨_, rfl, by decide, by decide⟩
    · exact nomatch hrole
    · cases hrole
      exact ⟨_, rfl, by decide, by decide⟩

end SqlTemplate
