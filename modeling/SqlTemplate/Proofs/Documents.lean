import SqlTemplate.Json.Document
import SqlTemplate.Json.Parts

/-!
# Documents — every document that is read names its members once

The second reading of a JSON text puts documents together on a stack of open containers. What has
been put together so far never repeats a name in an object, at any depth, because a name that comes
again takes the place of the first one:

* `foldlM_keeps` — what each step keeps is true at the end of a run;
* `plain_of_ofText?` — no token of a text holds a container;
* `distinct_insert` — a member that is inserted leaves the names of an object distinct;
* **`Assembly.Distinct.step`** — one token keeps all that is put together distinct, in the open
  containers too;
* **`distinct_of_parse?`** is the run.
-/

namespace SqlTemplate

theorem foldlM_keeps {σ α : Type} {step : σ → α → Option σ} {P : σ → Prop} {items : List α}
    (hstep : ∀ s, ∀ item ∈ items, ∀ s', P s → step s item = some s' → P s') {s s' : σ} (hs : P s)
    (h : items.foldlM step s = some s') : P s' := by
  induction items generalizing s with
  | nil =>
      obtain rfl : s = s' := Option.some.inj h
      exact hs
  | cons item items ih =>
      rw [List.foldlM_cons] at h
      obtain ⟨next, hnext, hrest⟩ := Option.bind_eq_some_iff.mp h
      exact ih (fun s item hitem => hstep s item (.tail _ hitem))
        (hstep s item List.mem_cons_self next hs hnext) hrest

namespace Json

/-! ## Tokens -/

/-- A token that holds no container. -/
def Token.Plain : Token → Prop
  | .scalar value => value.isContainer = false
  | _ => True

namespace Scan

theorem plain_of_word? {letters : Text} {token : Token} (h : word? letters = some token) :
    token.Plain := by
  unfold word? at h
  split at h
  · cases h
    rfl
  · split at h
    · cases h
      rfl
    · split at h
      · cases h
        rfl
      · exact nomatch h

theorem plain_of_number? {symbols : Text} {token : Token} (h : number? symbols = some token) :
    token.Plain := by
  obtain ⟨n, -, rfl⟩ := Option.map_eq_some_iff.mp h
  rfl

theorem plain_of_between {tokens : List Token} (htokens : ∀ token ∈ tokens, token.Plain) {c : Char}
    {scan : Scan} (h : between tokens c = some scan) : ∀ token ∈ scan.tokens, token.Plain := by
  have hcons {token : Token} (htoken : token.Plain) : ∀ other ∈ token :: tokens, other.Plain :=
    List.forall_mem_cons.mpr ⟨htoken, htokens⟩
  unfold between at h
  split at h
  -- blanks add nothing, and the six marks add a token of their own
  iterate 4
    · cases h
      exact htokens
  iterate 6
    · cases h
      exact hcons trivial
  · cases h
    exact htokens
  · split at h
    · cases h
      exact htokens
    · split at h
      · cases h
        exact htokens
      · exact nomatch h

theorem plain_of_inString {pieces : List Piece} {tokens : List Token}
    (htokens : ∀ token ∈ tokens, token.Plain) {c : Char} {scan : Scan}
    (h : inString pieces tokens c = some scan) : ∀ token ∈ scan.tokens, token.Plain := by
  unfold inString at h
  split at h
  · obtain ⟨s, -, rfl⟩ := Option.map_eq_some_iff.mp h
    exact List.forall_mem_cons.mpr ⟨trivial, htokens⟩
  · split at h
    · cases h
      exact htokens
    · split at h
      · exact nomatch h
      · cases h
        exact htokens

/-- One character leaves the tokens plain. -/
theorem plain_of_step {scan next : Scan} (hscan : ∀ token ∈ scan.tokens, token.Plain) {c : Char}
    (h : scan.step c = some next) : ∀ token ∈ next.tokens, token.Plain := by
  obtain ⟨place, tokens⟩ := scan
  cases place with
  | between => exact plain_of_between hscan h
  | word letters =>
      unfold step at h
      simp only at h
      split at h
      · cases h
        exact hscan
      · obtain ⟨token, hword, hnext⟩ := Option.bind_eq_some_iff.mp h
        exact plain_of_between (List.forall_mem_cons.mpr ⟨plain_of_word? hword, hscan⟩) hnext
  | number symbols =>
      unfold step at h
      simp only at h
      split at h
      · cases h
        exact hscan
      · obtain ⟨token, hnumber, hnext⟩ := Option.bind_eq_some_iff.mp h
        exact plain_of_between (List.forall_mem_cons.mpr ⟨plain_of_number? hnumber, hscan⟩) hnext
  | string pieces => exact plain_of_inString hscan h
  | escape pieces =>
      unfold step at h
      simp only at h
      split at h
      · cases h
        exact hscan
      · obtain ⟨e, -, rfl⟩ := Option.map_eq_some_iff.mp h
        exact hscan
  | unit pieces count unit =>
      obtain ⟨digit, -, rfl⟩ := Option.map_eq_some_iff.mp h
      simp only
      split
      · exact hscan
      · exact hscan

theorem plain_of_finish? {scan : Scan} (hscan : ∀ token ∈ scan.tokens, token.Plain)
    {tokens : List Token} (h : scan.finish? = some tokens) : ∀ token ∈ tokens, token.Plain := by
  have hreverse {newest : List Token} (hnewest : ∀ token ∈ newest, token.Plain) :
      ∀ token ∈ newest.reverse, token.Plain :=
    fun token htoken => hnewest token (List.mem_reverse.mp htoken)
  obtain ⟨place, newest⟩ := scan
  cases place with
  | between =>
      cases h
      exact hreverse hscan
  | word letters =>
      obtain ⟨token, hword, rfl⟩ := Option.map_eq_some_iff.mp h
      exact hreverse (List.forall_mem_cons.mpr ⟨plain_of_word? hword, hscan⟩)
  | number symbols =>
      obtain ⟨token, hnumber, rfl⟩ := Option.map_eq_some_iff.mp h
      exact hreverse (List.forall_mem_cons.mpr ⟨plain_of_number? hnumber, hscan⟩)
  | string pieces => exact nomatch h
  | escape pieces => exact nomatch h
  | unit pieces count unit => exact nomatch h

end Scan

/-- The tokens of a text are plain. -/
theorem plain_of_ofText? {text : Text} {tokens : List Token}
    (h : Token.ofText? text = some tokens) : ∀ token ∈ tokens, token.Plain := by
  obtain ⟨scan, hscan, hfinish⟩ := Option.bind_eq_some_iff.mp h
  refine Scan.plain_of_finish? ?_ hfinish
  have hstart : ∀ token ∈ Scan.start.tokens, token.Plain := List.forall_mem_nil _
  exact foldlM_keeps (P := fun scan : Scan => ∀ token ∈ scan.tokens, token.Plain)
    (fun s c _ s' hs hstep => Scan.plain_of_step hs hstep) hstart hscan

/-! ## Distinct names -/

theorem distinct_iff_entries {json : Json} :
    json.Distinct ↔
      (∀ members, json = object members → (Fields.keys members).Nodup) ∧
        ∀ entry ∈ json.entries, entry.Distinct := by
  constructor
  · intro h
    constructor
    · rintro members rfl
      exact h members (.self _)
    · exact fun entry hentry => h.entry hentry
  · rintro ⟨hself, hentries⟩ members hmembers
    cases hmembers with
    | self => exact hself members rfl
    | entry hpart hentry => exact hentries _ hentry members hpart

theorem distinct_of_not_isContainer {json : Json} (h : json.isContainer = false) :
    json.Distinct := by
  refine distinct_iff_entries.mpr ⟨?_, ?_⟩
  · rintro members rfl
    exact nomatch h
  · intro entry hentry
    cases json with
    | array items => exact nomatch h
    | object members => exact nomatch h
    | _ => exact nomatch hentry

theorem distinct_array_iff {items : List Json} :
    (array items).Distinct ↔ ∀ item ∈ items, item.Distinct :=
  ⟨fun h _ hitem => h.entry hitem, fun h => distinct_iff_entries.mpr ⟨nofun, h⟩⟩

/-- An insertion into distinct members, of a distinct document, leaves them distinct. -/
theorem distinct_insert {members : List (Text × Json)} (hmembers : (object members).Distinct)
    (name : Text) {value : Json} (hvalue : value.Distinct) :
    (object (Fields.insert name value members)).Distinct := by
  refine distinct_iff_entries.mpr ⟨?_, ?_⟩
  · rintro _ ⟨⟩
    exact Fields.nodup_keys_insert name value (hmembers members (.self _))
  · intro entry hentry
    rcases Fields.eq_or_mem_of_mem_insert hentry with rfl | hentry
    · exact hvalue
    · exact hmembers.entry hentry

/-! ## Readings -/

/-- What a container that is open holds so far is distinct. -/
def Frame.Distinct : Frame → Prop
  | .array items => ∀ item ∈ items, item.Distinct
  | .object members _ => (Json.object members).Distinct

/-- What waits for the next token is distinct. -/
def Expectation.Distinct : Expectation → Prop
  | .name members | .colon members _ => (Json.object members).Distinct
  | .after json => json.Distinct
  | _ => True

namespace Assembly

/-- All that a reading has put together so far is distinct. -/
structure Distinct (assembly : Assembly) : Prop where
  expectation : assembly.expectation.Distinct
  frames : ∀ frame ∈ assembly.frames, frame.Distinct

theorem distinct_start : start.Distinct :=
  ⟨trivial, List.forall_mem_nil _⟩

theorem Distinct.of_beginValue {frames : List Frame} (hframes : ∀ frame ∈ frames, frame.Distinct)
    {token : Token} (htoken : token.Plain) {assembly : Assembly}
    (h : beginValue frames token = some assembly) : assembly.Distinct := by
  cases token with
  | scalar value =>
      cases h
      exact ⟨distinct_of_not_isContainer htoken, hframes⟩
  | string s =>
      cases h
      exact ⟨distinct_of_not_isContainer rfl, hframes⟩
  | openArray =>
      obtain ⟨-, ⟨⟩⟩ := Option.ite_none_right_eq_some.mp h
      exact ⟨trivial, hframes⟩
  | openObject =>
      obtain ⟨-, ⟨⟩⟩ := Option.ite_none_right_eq_some.mp h
      exact ⟨trivial, hframes⟩
  | _ => exact nomatch h

theorem Distinct.of_afterValue {value : Json} (hvalue : value.Distinct) {frames : List Frame}
    (hframes : ∀ frame ∈ frames, frame.Distinct) {token : Token} {assembly : Assembly}
    (h : afterValue value frames token = some assembly) : assembly.Distinct := by
  unfold afterValue at h
  split at h
  · -- a comma in an array
    cases h
    obtain ⟨hitems, houter⟩ := List.forall_mem_cons.mp hframes
    exact ⟨trivial, List.forall_mem_cons.mpr ⟨List.forall_mem_cons.mpr ⟨hvalue, hitems⟩, houter⟩⟩
  · -- the end of an array
    cases h
    obtain ⟨hitems, houter⟩ := List.forall_mem_cons.mp hframes
    refine ⟨distinct_array_iff.mpr fun item hitem => ?_, houter⟩
    exact List.forall_mem_cons.mpr ⟨hvalue, hitems⟩ item (List.mem_reverse.mp hitem)
  · -- a comma in an object
    cases h
    obtain ⟨hmembers, houter⟩ := List.forall_mem_cons.mp hframes
    exact ⟨distinct_insert hmembers _ hvalue, houter⟩
  · -- the end of an object
    cases h
    obtain ⟨hmembers, houter⟩ := List.forall_mem_cons.mp hframes
    exact ⟨distinct_insert hmembers _ hvalue, houter⟩
  · exact nomatch h

/-- **ONE TOKEN**: a reading that is distinct goes on so. -/
theorem Distinct.step {assembly next : Assembly} (hassembly : assembly.Distinct) {token : Token}
    (htoken : token.Plain) (h : assembly.step token = some next) : next.Distinct := by
  obtain ⟨expectation, frames⟩ := assembly
  obtain ⟨hexpectation, hframes⟩ := hassembly
  have hempty : (Json.object []).Distinct :=
    distinct_iff_entries.mpr ⟨by rintro _ ⟨⟩; exact List.nodup_nil, List.forall_mem_nil _⟩
  unfold Assembly.step at h
  simp only at h
  split at h
  · exact .of_beginValue hframes htoken h
  · cases h
    exact ⟨distinct_array_iff.mpr (List.forall_mem_nil _), hframes⟩
  · have harray : Frame.Distinct (.array []) := List.forall_mem_nil _
    exact .of_beginValue (List.forall_mem_cons.mpr ⟨harray, hframes⟩) htoken h
  · cases h
    exact ⟨hempty, hframes⟩
  · cases h
    exact ⟨hempty, hframes⟩
  · cases h
    exact ⟨hexpectation, hframes⟩
  · cases h
    exact ⟨trivial, List.forall_mem_cons.mpr ⟨hexpectation, hframes⟩⟩
  · exact .of_afterValue hexpectation hframes h
  · exact nomatch h

end Assembly

/-- **DISTINCT**: no object in a document that is read repeats a name. -/
theorem distinct_of_parse? {text : Text} {json : Json} (h : parse? text = some json) :
    json.Distinct := by
  obtain ⟨tokens, htokens, hjson⟩ := Option.bind_eq_some_iff.mp h
  obtain ⟨assembly, hrun, hfinish⟩ := Option.bind_eq_some_iff.mp hjson
  have hassembly : assembly.Distinct :=
    foldlM_keeps (fun _ token htoken _ hs hstep =>
      hs.step (plain_of_ofText? htokens token htoken) hstep) Assembly.distinct_start hrun
  unfold Assembly.finish? at hfinish
  split at hfinish
  case _ value hafter _ =>
    cases hfinish
    have hexpectation := hassembly.expectation
    rwa [hafter] at hexpectation
  case _ => exact nomatch hfinish

end Json
end SqlTemplate
