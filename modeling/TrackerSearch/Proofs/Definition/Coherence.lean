import TrackerSearch.Definition.Registry
import TrackerSearch.Proofs.Definition.Identifier

/-!
# The memory of a registry

A registry is asked again and again while the files under it change. Whatever was loaded under an
identifier stays what is handed out for it, and only the files found at the first call are ever
looked at (`history_coherent`). Nothing is said about files that change during a call.
-/
namespace TrackerSearch.Registry

open Text

variable {files files' : FileTree} {r : Registry} {d : Definition} {id : String}
  {l : LoadedDefinition}

/-! ## Calls and histories -/

/-- What a registry can be asked for. -/
inductive Call where
  | discover
  | listIds
  | get (id : String)
  | loadAll (strict onlyPublic : Bool)
  deriving Repr, DecidableEq

/-- What a call returns. -/
inductive Answer where
  | nothing
  | ids (ids : List String)
  | one (l : LoadedDefinition)
  | several (ls : List LoadedDefinition)
  deriving Repr, DecidableEq

/-- The definitions that a call returns. -/
def Answer.definitions : Answer → List LoadedDefinition
  | nothing | ids _ => []
  | one l => [l]
  | several ls => ls

/-- Make a call. -/
def call (files : FileTree) (r : Registry) : Call → Except Failure Answer × Registry
  | .discover => (.ok .nothing, (r.discover files).1)
  | .listIds => ((r.listIds files).1.outcome.map .ids, (r.listIds files).2)
  | .get id => ((r.get files id).1.outcome.map .one, (r.get files id).2)
  | .loadAll strict onlyPublic =>
    ((r.loadAll files strict onlyPublic).1.outcome.map .several,
      (r.loadAll files strict onlyPublic).2)

/-- A call, or a change of the files by somebody else. -/
inductive Step where
  | call (c : Call)
  | write (path : FilePath) (content : FileContent)
  | delete (path : FilePath)

/-- A call that was made: the files at that time, the registry before and after, and the answer. -/
structure Record where
  files : FileTree
  before : Registry
  call : Call
  outcome : Except Failure Answer
  after : Registry

/-- The calls among some steps, in order. -/
def history (files : FileTree) (r : Registry) : List Step → List Record
  | [] => []
  | .call c :: steps =>
    ⟨files, r, c, (r.call files c).1, (r.call files c).2⟩ ::
      history files (r.call files c).2 steps
  | .write path content :: steps => history (files.write path content) r steps
  | .delete path :: steps => history (files.delete path) r steps

/-! ## What a step preserves -/

/-- Every definition in memory is under its own identifier and has a serial number of its own. -/
structure WellKept (r : Registry) : Prop where
  own : ∀ entry ∈ r.cache, entry.2.definition.id = entry.1
  serials : r.cache.map (·.2.serial) = (List.range r.cache.length).reverse

/-- `r'` still hands out what `r` does. -/
def Extends (r r' : Registry) : Prop := ∀ id l, r.cached? id = some l → r'.cached? id = some l

theorem Extends.refl (r : Registry) : Extends r r := fun _ _ h => h

theorem Extends.trans {r₁ r₂ r₃ : Registry} (h₁ : Extends r₁ r₂) (h₂ : Extends r₂ r₃) :
    Extends r₁ r₃ := fun id l h => h₂ id l (h₁ id l h)

/-- What loading leads to: the memory grows, and nothing else changes. -/
structure Grows (r r' : Registry) : Prop where
  wellKept : WellKept r'
  keeps : Extends r r'
  paths_eq : r'.paths = r.paths
  discovered_eq : r'.discovered = r.discovered

theorem Grows.refl (h : WellKept r) : Grows r r := ⟨h, .refl r, rfl, rfl⟩

theorem Grows.trans {r₁ r₂ r₃ : Registry} (h₁ : Grows r₁ r₂) (h₂ : Grows r₂ r₃) : Grows r₁ r₃ :=
  ⟨h₂.wellKept, h₁.keeps.trans h₂.keeps, h₂.paths_eq.trans h₁.paths_eq,
    h₂.discovered_eq.trans h₁.discovered_eq⟩

theorem mem_of_cached? (h : r.cached? id = some l) : (id, l) ∈ r.cache := by
  unfold cached? at h
  obtain ⟨⟨id', l'⟩, hfind, rfl⟩ := Option.map_eq_some_iff.mp h
  have hid : id' = id := by simpa using List.find?_some hfind
  exact hid ▸ List.mem_of_find?_eq_some hfind

theorem WellKept.id_of_cached? (hr : WellKept r) (h : r.cached? id = some l) :
    l.definition.id = id := hr.own _ (mem_of_cached? h)

theorem keep_of_cached (h : r.cached? d.id = some l) : r.keep d = (l, r) := by
  rw [keep, h]

theorem keep_of_new (h : r.cached? d.id = none) :
    r.keep d = (⟨r.cache.length, d⟩,
      { r with cache := (d.id, ⟨r.cache.length, d⟩) :: r.cache }) := by
  rw [keep, h]

theorem grows_keep (hr : WellKept r) (d : Definition) : Grows r (r.keep d).2 := by
  cases h : r.cached? d.id with
  | some l =>
    rw [keep_of_cached h]
    exact .refl hr
  | none =>
    rw [keep_of_new h]
    refine ⟨⟨?_, ?_⟩, ?_, rfl, rfl⟩
    · rintro entry hm
      rcases List.mem_cons.mp hm with rfl | hm
      · rfl
      · exact hr.own entry hm
    · simp [hr.serials, List.range_succ]
    · intro id l hl
      have hne : d.id ≠ id := by
        rintro rfl
        rw [h] at hl
        cases hl
      rw [cached?, List.find?_cons_of_neg (by simpa using hne)]
      exact hl

/-- What is handed out is in memory from then on. -/
theorem cached?_keep (hr : WellKept r) (d : Definition) :
    (r.keep d).1.definition.id = d.id ∧
      (r.keep d).2.cached? d.id = some (r.keep d).1 := by
  cases h : r.cached? d.id with
  | some l =>
    rw [keep_of_cached h]
    exact ⟨hr.id_of_cached? h, h⟩
  | none =>
    rw [keep_of_new h]
    simp [cached?]

/-! ## Loading -/

/-- A file is refused and nothing changes, or its definition is kept. -/
theorem load_cases (files : FileTree) (r : Registry) (path : FilePath) :
    (∃ e, (r.load files path).1.outcome = .error e ∧ (r.load files path).2 = r) ∨
      ∃ d, (Definition.load (files.readText path)).outcome = .ok d ∧
        (r.load files path).1.outcome = .ok (r.keep d).1 ∧
        (r.load files path).2 = (r.keep d).2 := by
  cases h : (Definition.load (files.readText path)).outcome with
  | error e => exact .inl ⟨e, by simp [load, h]⟩
  | ok d => exact .inr ⟨d, rfl, by simp [load, h]⟩

theorem grows_load (hr : WellKept r) (files : FileTree) (path : FilePath) :
    Grows r (r.load files path).2 := by
  rcases load_cases files r path with ⟨e, -, h⟩ | ⟨d, -, -, h⟩
  · rw [h]
    exact .refl hr
  · rw [h]
    exact grows_keep hr d

theorem cached?_load (hr : WellKept r) {path : FilePath}
    (h : (r.load files path).1.outcome = .ok l) :
    (r.load files path).2.cached? l.definition.id = some l := by
  rcases load_cases files r path with ⟨e, he, -⟩ | ⟨d, -, hd, hr'⟩
  · rw [he] at h
    cases h
  · rw [hd] at h
    obtain rfl := Except.ok.inj h
    obtain ⟨hid, hcached⟩ := cached?_keep hr d
    rw [hr', hid, hcached]

/-- Whatever becomes of a list of files, definitions that were in memory stay there, and so do those
that are returned. -/
theorem loadPaths_grows (hr : WellKept r) (files : FileTree) (strict : Bool)
    (paths : List FilePath) (loaded : List LoadedDefinition) :
    Grows r (loadPaths files strict paths loaded r).2 ∧
      ((∀ l ∈ loaded, r.cached? l.definition.id = some l) →
        ∀ ls, (loadPaths files strict paths loaded r).1.outcome = .ok ls →
          ∀ l ∈ ls, (loadPaths files strict paths loaded r).2.cached? l.definition.id = some l) := by
  induction paths generalizing r loaded with
  | nil =>
    refine ⟨.refl hr, fun hloaded ls h l hl => ?_⟩
    obtain rfl := Except.ok.inj h
    exact hloaded l hl
  | cons path paths ih =>
    have hload := grows_load hr files path
    have hkept : (∀ l ∈ loaded, r.cached? l.definition.id = some l) →
        ∀ l ∈ loaded, (r.load files path).2.cached? l.definition.id = some l :=
      fun h l hl => hload.keeps _ _ (h l hl)
    simp only [loadPaths]
    split
    · rename_i cause hcause
      split
      · exact ⟨hload, fun _ ls h => by cases h⟩
      · obtain ⟨hgrows, hreturned⟩ := ih hload.wellKept loaded
        exact ⟨hload.trans hgrows, fun hloaded => hreturned (hkept hloaded)⟩
    · exact ⟨hload, fun _ ls h => by cases h⟩
    · rename_i l hl
      split
      · exact ⟨hload, fun _ ls h => by cases h⟩
      · obtain ⟨hgrows, hreturned⟩ := ih hload.wellKept (loaded ++ [l])
        refine ⟨hload.trans hgrows, fun hloaded => hreturned ?_⟩
        intro l' hl'
        rcases List.mem_append.mp hl' with hl' | hl'
        · exact hkept hloaded l' hl'
        · obtain rfl := List.mem_singleton.mp hl'
          exact cached?_load hr hl

/-! ## Calls -/

/-- The definition files of a directory; a missing directory has none. -/
def found (files : FileTree) (directory : FilePath) : List FilePath :=
  if files.isDirectory directory then definitionFiles files directory else []

theorem discover_of_discovered (h : r.discovered = true) : r.discover files = (r, []) := by
  rw [discover, if_pos h]

theorem discover_of_new (h : r.discovered = false) :
    (r.discover files).1 = { r with discovered := true, paths := found files r.directory } := by
  unfold discover found
  cases hdir : files.isDirectory r.directory <;> simp [h, hdir]

theorem discovered_discover (files : FileTree) (r : Registry) :
    (r.discover files).1.discovered = true := by
  cases h : r.discovered with
  | true => rw [discover_of_discovered h, h]
  | false => rw [discover_of_new h]

theorem cache_discover (files : FileTree) (r : Registry) :
    (r.discover files).1.cache = r.cache := by
  cases h : r.discovered with
  | true => rw [discover_of_discovered h]
  | false => rw [discover_of_new h]

theorem WellKept.discover (hr : WellKept r) (files : FileTree) : WellKept (r.discover files).1 where
  own := by simpa only [cache_discover] using hr.own
  serials := by simpa only [cache_discover] using hr.serials

theorem findPath_eq_some {paths : List FilePath} {path : FilePath}
    (h : findPath files id paths = .ok (some path)) :
    path ∈ paths ∧ Definition.peekId (files.readText path) = .ok (some id) := by
  induction paths with
  | nil => cases h
  | cons p paths ih =>
    rw [findPath] at h
    cases hp : Definition.peekId (files.readText p) with
    | error e =>
      rw [hp] at h
      cases h
    | ok seen =>
      rw [hp] at h
      change (if seen = some id then _ else _) = _ at h
      split at h
      · rename_i hseen
        obtain rfl := Option.some.inj (Except.ok.inj h)
        exact ⟨by simp, by rw [hp, hseen]⟩
      · exact ⟨List.mem_cons_of_mem p (ih h).1, (ih h).2⟩

/-- Asking for an identifier: it is in memory, or nothing comes of it, or the first file with it is
loaded. -/
theorem get_cases (files : FileTree) (r : Registry) (id : String) :
    (∃ l, (r.discover files).1.cached? id = some l ∧ (r.get files id).1.outcome = .ok l ∧
        (r.get files id).2 = (r.discover files).1) ∨
      (∃ e, (r.get files id).1.outcome = .error e ∧
        (r.get files id).2 = (r.discover files).1) ∨
      ∃ path, findPath files id (r.discover files).1.paths = .ok (some path) ∧
        (r.get files id).1.outcome = ((r.discover files).1.load files path).1.outcome ∧
        (r.get files id).2 = ((r.discover files).1.load files path).2 := by
  cases hcached : (r.discover files).1.cached? id with
  | some l => exact .inl ⟨l, rfl, by simp [get, hcached]⟩
  | none =>
    cases hpath : findPath files id (r.discover files).1.paths with
    | error e => exact .inr (.inl ⟨e, by simp [get, hcached, hpath]⟩)
    | ok found =>
      cases found with
      | none => exact .inr (.inl ⟨.notFound id, by simp [get, hcached, hpath]⟩)
      | some path => exact .inr (.inr ⟨path, rfl, by simp [get, hcached, hpath]⟩)

theorem grows_discover_call (hr : WellKept r) (files : FileTree) (c : Call) :
    Grows (r.discover files).1 (r.call files c).2 := by
  have hready := hr.discover files
  cases c with
  | discover => exact .refl hready
  | listIds => exact .refl hready
  | get id =>
    rcases get_cases files r id with ⟨l, -, -, h⟩ | ⟨e, -, h⟩ | ⟨path, -, -, h⟩
    · exact h.symm ▸ .refl hready
    · exact h.symm ▸ .refl hready
    · exact h.symm ▸ grows_load hready files path
  | loadAll strict onlyPublic => exact (loadPaths_grows hready files strict _ []).1

/-- What a call returns is in memory after it. -/
theorem cached?_of_call (hr : WellKept r) {c : Call} {a : Answer}
    (h : (r.call files c).1 = .ok a) (hl : l ∈ a.definitions) :
    (r.call files c).2.cached? l.definition.id = some l := by
  have hready := hr.discover files
  cases c with
  | discover =>
    obtain rfl := Except.ok.inj h
    cases hl
  | listIds =>
    obtain ⟨ids, -, rfl⟩ := except_map_eq_ok.mp h
    cases hl
  | get id =>
    obtain ⟨l', hget, rfl⟩ := except_map_eq_ok.mp h
    obtain rfl := List.mem_singleton.mp hl
    change (r.get files id).2.cached? _ = _
    rcases get_cases files r id with ⟨l', hl', hok, hr'⟩ | ⟨e, he, -⟩ | ⟨path, -, hok, hr'⟩
    · obtain rfl := Except.ok.inj (hok.symm.trans hget)
      rw [hr', hready.id_of_cached? hl', hl']
    · rw [he] at hget
      cases hget
    · rw [hr']
      exact cached?_load hready (hok.symm.trans hget)
  | loadAll strict onlyPublic =>
    obtain ⟨ls, hls, rfl⟩ := except_map_eq_ok.mp h
    obtain ⟨loaded, hloaded, rfl⟩ := except_map_eq_ok.mp hls
    refine (loadPaths_grows hready files strict _ []).2 (by simp) loaded hloaded l ?_
    simp only [Answer.definitions] at hl
    split at hl
    · exact List.mem_mergeSort.mp (List.mem_filter.mp hl).1
    · exact List.mem_mergeSort.mp hl

/-- Asking for an identifier returns a definition of that identifier, or fails: a file is read once
for its identifier and once more for the rest, and both agree. -/
theorem id_of_get (hr : WellKept r) (h : (r.get files id).1.outcome = .ok l) :
    l.definition.id = id := by
  have hready := hr.discover files
  rcases get_cases files r id with ⟨l', hl', hok, -⟩ | ⟨e, he, -⟩ | ⟨path, hpath, hok, -⟩
  · obtain rfl := Except.ok.inj (hok.symm.trans h)
    exact hready.id_of_cached? hl'
  · rw [he] at h
    cases h
  · rcases load_cases files (r.discover files).1 path with ⟨e, he, -⟩ | ⟨d, hd, hl, -⟩
    · rw [hok, he] at h
      cases h
    · obtain rfl := Except.ok.inj (hl.symm.trans (hok.symm.trans h))
      rw [(cached?_keep hready d).1]
      exact Definition.id_of_peekId hd (findPath_eq_some hpath).2

/-! ## The files that a call looks at -/

/-- Two snapshots have the same text at each of some paths. -/
def SameTexts (paths : List FilePath) (files files' : FileTree) : Prop :=
  ∀ p ∈ paths, files'.readText p = files.readText p

theorem load_congr {path : FilePath} (h : files'.readText path = files.readText path) :
    r.load files' path = r.load files path := by
  rw [load, load, h]

theorem mapM_congr {α β : Type} {f g : α → Except Failure β} {xs : List α}
    (h : ∀ x ∈ xs, f x = g x) : xs.mapM f = xs.mapM g := by
  induction xs with
  | nil => rfl
  | cons x xs ih =>
    simp only [List.mapM_cons]
    rw [h x (by simp), ih fun y hy => h y (by simp [hy])]

theorem peekIds_congr {paths : List FilePath} (h : SameTexts paths files files') :
    peekIds files' paths = peekIds files paths := by
  unfold peekIds
  rw [mapM_congr fun p hp => by rw [h p hp]]

theorem findPath_congr {paths : List FilePath} (h : SameTexts paths files files') :
    findPath files' id paths = findPath files id paths := by
  induction paths with
  | nil => rfl
  | cons p paths ih =>
    rw [findPath, findPath, h p (by simp), ih fun q hq => h q (by simp [hq])]

theorem loadPaths_congr {strict : Bool} {paths : List FilePath} (h : SameTexts paths files files')
    (loaded : List LoadedDefinition) :
    loadPaths files' strict paths loaded r = loadPaths files strict paths loaded r := by
  induction paths generalizing r loaded with
  | nil => rfl
  | cons p paths ih =>
    have hrest : ∀ loaded r, loadPaths files' strict paths loaded r =
        loadPaths files strict paths loaded r :=
      fun loaded r => ih (fun q hq => h q (by simp [hq])) loaded
    simp only [loadPaths, load_congr (h p (by simp)), hrest]

/-- Once its files are found, a registry looks at the texts of these files, and at nothing else. -/
theorem call_congr (hr : r.discovered = true) (h : SameTexts r.paths files files') (c : Call) :
    r.call files' c = r.call files c := by
  cases c with
  | discover => simp only [call, discover_of_discovered hr]
  | listIds => simp only [call, listIds, discover_of_discovered hr, peekIds_congr h]
  | get id =>
    simp only [call, get, discover_of_discovered hr, findPath_congr h]
    split
    · rfl
    · split
      · rfl
      · rfl
      · rename_i path hpath
        rw [load_congr (h path (findPath_eq_some hpath).1)]
  | loadAll strict onlyPublic =>
    simp only [call, loadAll, discover_of_discovered hr, loadPaths_congr h]

/-- Finding the files is the first thing that a call does. -/
theorem call_discover (files : FileTree) (r : Registry) (c : Call) :
    (r.discover files).1.call files c = r.call files c := by
  have h : (r.discover files).1.discover files = ((r.discover files).1, []) :=
    discover_of_discovered (discovered_discover files r)
  cases c with
  | discover => simp only [call, h]
  | listIds => simp only [call, listIds, h]
  | get id =>
    simp only [call, get, h]
    split
    · rfl
    · split <;> rfl
  | loadAll strict onlyPublic => simp only [call, loadAll, h]

/-! ## Histories -/

/-- What holds of every history of a registry for a directory. -/
structure Coherent (directory : FilePath) (h : List Record) : Prop where
  own : ∀ rec ∈ h, ∀ entry ∈ rec.after.cache, entry.2.definition.id = entry.1
  /-- A serial number stands for one definition in memory. -/
  serials : ∀ rec ∈ h, (rec.after.cache.map (·.2.serial)).Nodup
  /-- No call removes or replaces a definition, and least of all one that fails. -/
  kept : ∀ rec ∈ h, Extends rec.before rec.after
  returned : ∀ rec ∈ h, ∀ a, rec.outcome = .ok a → ∀ l ∈ a.definitions,
    rec.after.cached? l.definition.id = some l
  /-- What was loaded under an identifier by some call is what all later calls return for it. -/
  same : h.Pairwise fun earlier later => ∀ id l, earlier.after.cached? id = some l →
    later.after.cached? id = some l ∧
      ∀ a, later.outcome = .ok a → ∀ l' ∈ a.definitions, l'.definition.id = id → l' = l
  asked : ∀ rec ∈ h, ∀ id, rec.call = .get id → ∀ a, rec.outcome = .ok a →
    ∃ l, a = .one l ∧ l.definition.id = id
  /-- What is in memory is handed out whatever the files hold. -/
  answered : ∀ rec ∈ h, ∀ id l, rec.call = .get id → rec.before.cached? id = some l →
    rec.outcome = .ok (.one l)
  /-- The files are those of the directory at the first call. -/
  paths : ∀ first, h.head? = some first → ∀ rec ∈ h, rec.after.paths = found first.files directory
  /-- Once the files are found, a call depends on their texts only. -/
  consulted : ∀ rec ∈ h, ∀ files', SameTexts rec.after.paths rec.files files' →
    (rec.before.discover rec.files).1.call files' rec.call = (rec.outcome, rec.after)

/-- What a history says about one call to a registry in good order. -/
structure Record.Faithful (rec : Record) : Prop where
  wellKept : WellKept rec.before
  call_eq : rec.before.call rec.files rec.call = (rec.outcome, rec.after)

namespace Record.Faithful

variable {rec : Record}

theorem grows (h : rec.Faithful) : Grows (rec.before.discover rec.files).1 rec.after := by
  have := grows_discover_call h.wellKept rec.files rec.call
  rwa [h.call_eq] at this

theorem keeps (h : rec.Faithful) : Extends rec.before rec.after := by
  intro id l hl
  refine h.grows.keeps id l ?_
  rwa [cached?, cache_discover]

theorem cached?_of_returned (h : rec.Faithful) {a : Answer} (ha : rec.outcome = .ok a)
    (hl : l ∈ a.definitions) : rec.after.cached? l.definition.id = some l := by
  have hok : (rec.before.call rec.files rec.call).1 = .ok a := by rw [h.call_eq, ha]
  have hcached := cached?_of_call h.wellKept hok hl
  rwa [h.call_eq] at hcached

theorem outcome_of_get (h : rec.Faithful) (hc : rec.call = .get id) :
    rec.outcome = (rec.before.get rec.files id).1.outcome.map .one := by
  have hcall := congrArg Prod.fst h.call_eq
  rw [hc] at hcall
  exact hcall.symm

theorem asked (h : rec.Faithful) (hc : rec.call = .get id) {a : Answer}
    (ha : rec.outcome = .ok a) : ∃ l, a = .one l ∧ l.definition.id = id := by
  rw [h.outcome_of_get hc] at ha
  obtain ⟨l, hl, rfl⟩ := except_map_eq_ok.mp ha
  exact ⟨l, rfl, id_of_get h.wellKept hl⟩

theorem answered (h : rec.Faithful) (hc : rec.call = .get id)
    (hl : rec.before.cached? id = some l) : rec.outcome = .ok (.one l) := by
  have hcached : (rec.before.discover rec.files).1.cached? id = some l := by
    rwa [cached?, cache_discover]
  rw [h.outcome_of_get hc]
  simp only [get, hcached]
  rfl

theorem consulted (h : rec.Faithful) (hf : SameTexts rec.after.paths rec.files files') :
    (rec.before.discover rec.files).1.call files' rec.call = (rec.outcome, rec.after) := by
  rw [h.grows.paths_eq] at hf
  rw [call_congr (discovered_discover rec.files rec.before) hf, call_discover, h.call_eq]

end Record.Faithful

theorem WellKept.call (hr : WellKept r) (files : FileTree) (c : Call) :
    WellKept (r.call files c).2 := (grows_discover_call hr files c).wellKept

theorem extends_call (hr : WellKept r) (files : FileTree) (c : Call) :
    Extends r (r.call files c).2 :=
  have h : Record.Faithful ⟨files, r, c, (r.call files c).1, (r.call files c).2⟩ := ⟨hr, rfl⟩
  h.keeps

/-- Every call of a history starts from a registry in good order that hands out what it did at the
beginning. -/
theorem mem_history (hr : WellKept r) {steps : List Step} :
    ∀ rec ∈ history files r steps, rec.Faithful ∧ Extends r rec.before := by
  induction steps generalizing files r with
  | nil => simp [history]
  | cons step steps ih =>
    cases step with
    | call c =>
      simp only [history, List.mem_cons, forall_eq_or_imp]
      refine ⟨⟨⟨hr, rfl⟩, .refl r⟩, fun rec hrec => ?_⟩
      obtain ⟨hfaithful, hextends⟩ := ih (hr.call files c) rec hrec
      exact ⟨hfaithful, (extends_call hr files c).trans hextends⟩
    | write path content => exact ih hr
    | delete path => exact ih hr

/-- Later calls keep what earlier ones have left. -/
theorem pairwise_history (hr : WellKept r) (steps : List Step) :
    (history files r steps).Pairwise fun earlier later => Extends earlier.after later.before := by
  induction steps generalizing files r with
  | nil => exact .nil
  | cons step steps ih =>
    cases step with
    | call c =>
      exact .cons (fun later h => (mem_history (hr.call files c) later h).2) (ih (hr.call files c))
    | write path content => exact ih hr
    | delete path => exact ih hr

theorem paths_call (hr : WellKept r) (files : FileTree) (c : Call) :
    (r.call files c).2.paths = (r.discover files).1.paths ∧ (r.call files c).2.discovered = true :=
  have h := grows_discover_call hr files c
  ⟨h.paths_eq, h.discovered_eq.trans (discovered_discover files r)⟩

/-- Once found, the files stay the same. -/
theorem paths_of_discovered (hr : WellKept r) (hd : r.discovered = true) {steps : List Step} :
    ∀ rec ∈ history files r steps, rec.after.paths = r.paths := by
  induction steps generalizing files r with
  | nil => simp [history]
  | cons step steps ih =>
    cases step with
    | call c =>
      obtain ⟨hpaths, hd'⟩ := paths_call hr files c
      rw [discover_of_discovered hd] at hpaths
      simp only [history, List.mem_cons, forall_eq_or_imp]
      exact ⟨hpaths, fun rec hrec => (ih (hr.call files c) hd' rec hrec).trans hpaths⟩
    | write path content => exact ih hr hd
    | delete path => exact ih hr hd

/-- The first call finds the files. -/
theorem paths_of_first (hr : WellKept r) (hd : r.discovered = false) {steps : List Step}
    {first : Record} (hfirst : (history files r steps).head? = some first) :
    ∀ rec ∈ history files r steps, rec.after.paths = found first.files r.directory := by
  induction steps generalizing files with
  | nil => simp [history]
  | cons step steps ih =>
    cases step with
    | call c =>
      obtain rfl := Option.some.inj hfirst
      obtain ⟨hpaths, hd'⟩ := paths_call hr files c
      rw [discover_of_new hd] at hpaths
      simp only [history, List.mem_cons, forall_eq_or_imp]
      exact ⟨hpaths, fun rec hrec =>
        (paths_of_discovered (hr.call files c) hd' rec hrec).trans hpaths⟩
    | write path content => exact ih hfirst
    | delete path => exact ih hfirst

/-- Whatever is asked of a new registry, and whatever happens to the files in between, its memory is
coherent: definitions are under their identifiers, what was loaded stays and is what is returned,
and only the files of the first call are looked at. -/
theorem history_coherent (files : FileTree) (directory : FilePath) (steps : List Step) :
    Coherent directory (history files { directory } steps) := by
  have hnew : WellKept { directory } := ⟨by simp, rfl⟩
  have hmem : ∀ rec ∈ history files { directory } steps, rec.Faithful :=
    fun rec hrec => (mem_history hnew rec hrec).1
  refine {
    own := fun rec hrec => (hmem rec hrec).grows.wellKept.own
    serials := fun rec hrec => ?_
    kept := fun rec hrec => (hmem rec hrec).keeps
    returned := fun rec hrec a ha l hl => (hmem rec hrec).cached?_of_returned ha hl
    same := ?_
    asked := fun rec hrec id hc a ha => (hmem rec hrec).asked hc ha
    answered := fun rec hrec id l hc hl => (hmem rec hrec).answered hc hl
    paths := fun first hfirst => paths_of_first hnew rfl hfirst
    consulted := fun rec hrec files' hf => (hmem rec hrec).consulted hf }
  · rw [(hmem rec hrec).grows.wellKept.serials]
    exact (List.reverse_perm _).nodup_iff.mpr List.nodup_range
  · refine (pairwise_history hnew steps).imp_of_mem fun hearlier hlater hkept id l hl => ?_
    have hlater := hmem _ hlater
    have hl := hlater.keeps id l (hkept id l hl)
    refine ⟨hl, fun a ha l' hl' hid => ?_⟩
    have hreturned := hlater.cached?_of_returned ha hl'
    rw [hid, hl] at hreturned
    exact (Option.some.inj hreturned).symm

end TrackerSearch.Registry
