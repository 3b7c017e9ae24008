import SqlTemplate.Config.Search
import SqlTemplate.Config.Settings
import SqlTemplate.Files.Tree
import SqlTemplate.Proofs.Ancestors

/-!
# Nearest — the settings file that decides

Without a name for it, the settings file of a run is looked for in the working directory and in the
directories above, level by level. The first regular file found is the only one that counts: it is
read, and what is wrong with it is the answer.

* `Files.Nearest` says which file that is, by the components of paths;
* **`nearest?_eq_some_iff`** — the search finds it, and `nearest?_eq_none_iff` — nothing else;
* `Config.Reads` are the ways in which reading a settings file may end;
* `search_of_nearest` and `search_of_none` say how a search ends, `resolve_of_nearest` and
  `resolve_of_none` what a run makes of that, and `resolve_ne_notFound` what it never says;
* **`nearest_decides`** puts these together.
-/

namespace SqlTemplate

/-! ## The nearest file -/

/-- A regular file of a name lies in a directory some levels above another one, and at no level
    between is there another regular file of that name. -/
def Files.Nearest (files : Files) (name : Text) (start path : Path) : Prop :=
  ∃ level directory, start.Above level directory ∧ path = directory.join name ∧
    (files path).isFile = true ∧
    ∀ lower < level, ∀ nearer, start.Above lower nearer → (files (nearer.join name)).isFile = false

namespace Files

variable {files : Files} {name : Text} {start path : Path}

/-- The candidates are the paths above with the name behind them. -/
theorem getElem?_candidates_eq_some_iff {level : Nat} :
    (candidates name start)[level]? = some path ↔
      ∃ directory, start.Above level directory ∧ path = directory.join name := by
  rw [candidates, List.getElem?_map, Option.map_eq_some_iff]
  constructor
  · rintro ⟨directory, hget, rfl⟩
    exact ⟨directory, Path.getElem?_ancestors_eq_some_iff.mp hget, rfl⟩
  · rintro ⟨directory, habove, rfl⟩
    exact ⟨directory, Path.getElem?_ancestors_eq_some_iff.mpr habove, rfl⟩

theorem mem_candidates_iff :
    path ∈ candidates name start ↔
      ∃ level directory, start.Above level directory ∧ path = directory.join name := by
  rw [List.mem_iff_getElem?]
  exact exists_congr fun level => getElem?_candidates_eq_some_iff

/-- **NEAREST**: the search finds the regular file at the lowest level. -/
theorem nearest?_eq_some_iff :
    files.nearest? name start = some path ↔ files.Nearest name start path := by
  rw [nearest?, List.find?_eq_some_iff_getElem]
  constructor
  · rintro ⟨hfile, level, hlevel, hget, hlower⟩
    obtain ⟨directory, habove, hpath⟩ :=
      getElem?_candidates_eq_some_iff.mp (List.getElem?_eq_some_iff.mpr ⟨hlevel, hget⟩)
    refine ⟨level, directory, habove, hpath, hfile, ?_⟩
    intro lower hlt nearer hnearer
    have hcandidate : (candidates name start)[lower]? = some (nearer.join name) :=
      getElem?_candidates_eq_some_iff.mpr ⟨nearer, hnearer, rfl⟩
    obtain ⟨hlength, heq⟩ := List.getElem?_eq_some_iff.mp hcandidate
    have hnone := hlower lower hlt
    rw [heq] at hnone
    simpa using hnone
  · rintro ⟨level, directory, habove, hpath, hfile, hlower⟩
    obtain ⟨hlevel, hget⟩ :=
      List.getElem?_eq_some_iff.mp (getElem?_candidates_eq_some_iff.mpr ⟨directory, habove, hpath⟩)
    refine ⟨hfile, level, hlevel, hget, ?_⟩
    intro lower hlt
    have hlength : lower < (candidates name start).length := Nat.lt_trans hlt hlevel
    obtain ⟨nearer, hnearer, heq⟩ :=
      getElem?_candidates_eq_some_iff.mp (List.getElem?_eq_getElem hlength)
    rw [heq, hlower lower hlt nearer hnearer]
    rfl

/-- It finds nothing exactly if there is no regular file at any level. -/
theorem nearest?_eq_none_iff :
    files.nearest? name start = none ↔
      ∀ level directory, start.Above level directory →
        (files (directory.join name)).isFile = false := by
  rw [nearest?, List.find?_eq_none]
  constructor
  · intro h level directory habove
    exact Bool.eq_false_iff.mpr (h _ (mem_candidates_iff.mpr ⟨level, directory, habove, rfl⟩))
  · intro h candidate hcandidate
    obtain ⟨level, directory, habove, rfl⟩ := mem_candidates_iff.mp hcandidate
    exact Bool.eq_false_iff.mp (h level directory habove)

/-- The nearest file has a content, or a fault in its place. -/
theorem Nearest.exists_content (h : files.Nearest name start path) :
    ∃ content, files path = .file content := by
  obtain ⟨-, -, -, -, hfile, -⟩ := h
  cases hentry : files path with
  | file content => exact ⟨content, rfl⟩
  | directory =>
      rw [hentry] at hfile
      exact nomatch hfile
  | absent reason =>
      rw [hentry] at hfile
      exact nomatch hfile

/-- A file at some level leaves no influence to what is at higher ones. -/
theorem Nearest.of_agree {level : Nat} {directory : Path} (habove : start.Above level directory)
    (hfile : (files (directory.join name)).isFile = true) {files' : Files}
    (hagree : ∀ lower ≤ level, ∀ nearer, start.Above lower nearer →
      files' (nearer.join name) = files (nearer.join name)) :
    ∃ path, files.Nearest name start path ∧ files'.Nearest name start path ∧
      files' path = files path := by
  cases hfound : files.nearest? name start with
  | none =>
      have hnone := nearest?_eq_none_iff.mp hfound level directory habove
      rw [hfile] at hnone
      exact nomatch hnone
  | some path =>
      obtain ⟨lowest, lowestDirectory, hlowest, rfl, hisFile, hlower⟩ :=
        nearest?_eq_some_iff.mp hfound
      have hle : lowest ≤ level := by
        by_contra hlt
        have hnone := hlower level (Nat.lt_of_not_le hlt) directory habove
        rw [hfile] at hnone
        exact nomatch hnone
      have hsame := hagree lowest hle lowestDirectory hlowest
      refine ⟨_, nearest?_eq_some_iff.mp hfound,
        ⟨lowest, lowestDirectory, hlowest, rfl, hsame ▸ hisFile, ?_⟩, hsame⟩
      intro lower hlt nearer hnearer
      rw [hagree lower (Nat.le_trans (Nat.le_of_lt hlt) hle) nearer hnearer]
      exact hlower lower hlt nearer hnearer

end Files

namespace Config

/-! ## What a file says -/

/-- The ways in which reading a settings file may end: it cannot be read, it is no settings file, or
    it holds a configuration. -/
inductive Reads (parse : Text → Except Text Config) (path : Path) :
    Except ReadFault Text → Except Problem Config → Prop where
  | unreadable (fault : ReadFault) :
      Reads parse path (.error fault) (.error (.unreadable path fault))
  | invalid {text reason : Text} (h : parse text = .error reason) :
      Reads parse path (.ok text) (.error (.invalid path reason))
  | holds {text : Text} {config : Config} (h : parse text = .ok config) :
      Reads parse path (.ok text) (.ok config)

variable {parse : Text → Except Text Config} {files : Files} {start path : Path}

theorem load_reads (parse : Text → Except Text Config) (files : Files) (path : Path) :
    Reads parse path (files.read path) (load parse files path) := by
  unfold load
  cases files.read path with
  | error fault => exact .unreadable fault
  | ok text =>
      show Reads parse path (.ok text) ((parse text).mapError (.invalid path))
      cases hparse : parse text with
      | error reason => exact .invalid hparse
      | ok config => exact .holds hparse

/-- What is read depends on the entry at the path alone. -/
theorem load_congr {files' : Files} (h : files' path = files path) :
    load parse files' path = load parse files path := by
  rw [load, load, Files.read, Files.read, h]

theorem Reads.ne_notFound {content : Except ReadFault Text} {result : Except Problem Config}
    (h : Reads parse path content result) (missing : Path) :
    result ≠ .error (.notFound missing) := by
  rintro rfl
  cases h

theorem load_ne_notFound (missing : Path) : load parse files path ≠ .error (.notFound missing) :=
  (load_reads parse files path).ne_notFound missing

/-! ## How a search ends -/

theorem search_of_nearest (h : files.Nearest fileName start path) :
    search parse files start = (load parse files path).map fun config => (config, path) := by
  rw [search, Files.nearest?_eq_some_iff.mpr h]

theorem search_of_none (h : ∀ level directory, start.Above level directory →
      (files (directory.join fileName)).isFile = false) :
    search parse files start = .error (.notFound start) := by
  rw [search, Files.nearest?_eq_none_iff.mpr h]

/-- Without a named file the configuration is the one in the nearest file, and nothing is set where
    there is none. -/
theorem resolve_of_nearest (h : files.Nearest fileName start path) :
    (resolve parse files (.ok start) none).2 = load parse files path := by
  rw [resolve, search_of_nearest h]
  cases hload : load parse files path with
  | ok config => rfl
  | error problem =>
      cases problem with
      | notFound missing => exact absurd hload (load_ne_notFound missing)
      | unreadable place fault => rfl
      | invalid place reason => rfl

theorem resolve_of_none (h : ∀ level directory, start.Above level directory →
      (files (directory.join fileName)).isFile = false) :
    (resolve parse files (.ok start) none).2 = .ok unset := by
  rw [resolve, search_of_none h]

/-- No run ends for want of a settings file, whatever directory it works in, or if there is none to
    work in. -/
theorem resolve_ne_notFound (workingDirectory : Except ReadFault Path) (missing : Path) :
    (resolve parse files workingDirectory none).2 ≠ .error (.notFound missing) := by
  cases workingDirectory with
  | error fault => exact nofun
  | ok start =>
      cases hfound : files.nearest? fileName start with
      | none =>
          rw [resolve_of_none (Files.nearest?_eq_none_iff.mp hfound)]
          exact nofun
      | some path =>
          rw [resolve_of_nearest (Files.nearest?_eq_some_iff.mp hfound)]
          exact load_ne_notFound missing

/-- **THE NEAREST FILE DECIDES**: a search reads the settings file at the lowest level, whatever
    comes of that, and where there is none it says so, and nothing is set. Files at higher levels
    have no influence, and a run never ends for want of a file. A named file is the only one that
    counts, wherever the run works. -/
theorem nearest_decides (parse : Text → Except Text Config) (files : Files) :
    (∀ start path, files.Nearest fileName start path →
      ∃ content, files path = .file content ∧
        Reads parse path content (load parse files path) ∧
        search parse files start = (load parse files path).map (fun config => (config, path)) ∧
        (resolve parse files (.ok start) none).2 = load parse files path) ∧
    (∀ start, (∀ level directory, start.Above level directory →
        (files (directory.join fileName)).isFile = false) →
      search parse files start = .error (.notFound start) ∧
        (resolve parse files (.ok start) none).2 = .ok unset) ∧
    (∀ start level directory, start.Above level directory →
      (files (directory.join fileName)).isFile = true →
      ∀ files' : Files, (∀ lower ≤ level, ∀ nearer, start.Above lower nearer →
          files' (nearer.join fileName) = files (nearer.join fileName)) →
        search parse files' start = search parse files start ∧
          resolve parse files' (.ok start) none = resolve parse files (.ok start) none) ∧
    (∀ workingDirectory missing,
      (resolve parse files workingDirectory none).2 ≠ .error (.notFound missing)) ∧
    ∀ path, Reads parse path (files.read path) (load parse files path) ∧
      ∀ (files' : Files) (workingDirectory : Except ReadFault Path),
        files' path = files path →
          (resolve parse files' workingDirectory (some path)).2 = load parse files path := by
  refine ⟨?_, ?_, ?_, ?_, ?_⟩
  · intro start path h
    obtain ⟨content, hcontent⟩ := h.exists_content
    have hread : files.read path = content := by rw [Files.read, hcontent]
    exact ⟨content, hcontent, hread ▸ load_reads parse files path, search_of_nearest h,
      resolve_of_nearest h⟩
  · intro start h
    exact ⟨search_of_none h, resolve_of_none h⟩
  · intro start level directory habove hfile files' hagree
    obtain ⟨path, hnearest, hnearest', hsame⟩ := Files.Nearest.of_agree habove hfile hagree
    have hsearch : search parse files' start = search parse files start := by
      rw [search_of_nearest hnearest, search_of_nearest hnearest', load_congr hsame]
    refine ⟨hsearch, ?_⟩
    rw [resolve, resolve, hsearch]
  · exact resolve_ne_notFound
  · intro path
    exact ⟨load_reads parse files path, fun files' _ h => load_congr h⟩

/-- Settings files at two levels, the lower one with two values for a setting, and a directory by
    their name below them. -/
def nested : Tree :=
  .ofList [("/sqltpl.styx".toList, some "dialect standard".toList),
    ("/p/sqltpl.styx".toList, some "dialect standard mysql".toList),
    ("/p/a/sqltpl.styx".toList, none)]

/-- The broken file decides for a missing directory below it, although there is a sound one at a
    higher level, which might as well be missing. In the directory with no regular file, seen from
    itself, nothing is set. -/
theorem nearest_decides_broken :
    (∃ content, nested.files ['/'] "/p/sqltpl.styx".toList = .file content ∧
      Reads (Config.parse id) "/p/sqltpl.styx".toList content
        (load (Config.parse id) (nested.files ['/']) "/p/sqltpl.styx".toList) ∧
      search (Config.parse id) (nested.files ['/']) "/p//a/./b/".toList =
        (load (Config.parse id) (nested.files ['/']) "/p/sqltpl.styx".toList).map
          (fun config => (config, "/p/sqltpl.styx".toList)) ∧
      (resolve (Config.parse id) (nested.files ['/']) (.ok "/p//a/./b/".toList) none).2 =
        load (Config.parse id) (nested.files ['/']) "/p/sqltpl.styx".toList) ∧
    (search (Config.parse id) (nested.files "/p/a".toList) "b".toList =
        .error (.notFound "b".toList) ∧
      (resolve (Config.parse id) (nested.files "/p/a".toList) (.ok "b".toList) none).2 =
        .ok unset) ∧
    search (Config.parse id) (fun path => if path = "/sqltpl.styx".toList then .absent .missing
        else nested.files ['/'] path) "/p".toList =
      search (Config.parse id) (nested.files ['/']) "/p".toList ∧
    (resolve (Config.parse id) (fun path => if path = "/sqltpl.styx".toList then .directory
        else nested.files ['/'] path) (.ok "/".toList) (some "/p/sqltpl.styx".toList)).2 =
      load (Config.parse id) (nested.files ['/']) "/p/sqltpl.styx".toList := by
  refine ⟨(nearest_decides _ _).1 _ _ (Files.nearest?_eq_some_iff.mp (by decide +kernel)),
    (nearest_decides _ _).2.1 _ (Files.nearest?_eq_none_iff.mp (by decide +kernel)), ?_,
    ((nearest_decides _ _).2.2.2.2 _).2 _ _ (if_neg (by decide))⟩
  refine ((nearest_decides _ _).2.2.1 "/p".toList 0 "/p".toList .self (by decide +kernel) _ ?_).1
  intro lower hle nearer hnearer
  obtain rfl : lower = 0 := Nat.le_zero.mp hle
  rw [hnearer.unique .self]
  exact if_neg (by decide)

end Config
end SqlTemplate
