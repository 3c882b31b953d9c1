import Mathlib.Data.List.Pairwise
import TrackerSearch.Proofs.Definition.Lenience

/-!
# Which definitions can be asked for

Lenient loading passes over files that fail to load, but asking for an identifier loads the first
file in which it is found, whatever comes of that. So a definition that is loaded with all others is
given to who asks for it just if its file is the first one with its identifier; and it is in none if
its identifier is blank or given as bytes (`routes_of_loaded`).
-/
namespace TrackerSearch.Registry

variable {files : FileTree} {directory : FilePath} {paths : List FilePath} {p q : FilePath}
  {id : String} {d d' : Definition} {ls : List LoadedDefinition} {onlyPublic : Bool}

/-! ## Files with an identifier -/

/-- The identifier is found in the file without a check of the rest. -/
def Carries (files : FileTree) (id : String) (p : FilePath) : Prop :=
  Definition.peekId (files.readText p) = .ok (some id)

instance (files : FileTree) (id : String) (p : FilePath) : Decidable (Carries files id p) :=
  inferInstanceAs (Decidable (Definition.peekId (files.readText p) = .ok (some id)))

/-- The first file with an identifier. -/
def firstCarrier? (files : FileTree) (id : String) (paths : List FilePath) : Option FilePath :=
  paths.find? fun p => decide (Carries files id p)

/-- Without faults, files are looked through up to the first one with the identifier. -/
theorem findPath_of_no_fault (h : firstFault? files paths = none) (id : String) :
    findPath files id paths = .ok (firstCarrier? files id paths) := by
  induction paths with
  | nil => rfl
  | cons p paths ih =>
    obtain ⟨hp, hpaths⟩ := List.forall_mem_cons.mp (List.findSome?_eq_none_iff.mp h)
    rcases Definition.peekId_cases (files.readText p) with
      ⟨peeked, hpeek, -⟩ | ⟨fault, -, hsome⟩
    · rw [findPath, hpeek, firstCarrier?, List.find?_cons]
      by_cases hid : peeked = some id
      · have hcarries : Carries files id p := by rw [Carries, hpeek, hid]
        simp only [hcarries, decide_true, bind, Except.bind, if_pos hid]
        rfl
      · have hcarries : ¬Carries files id p := by
          rw [Carries, hpeek]
          exact fun he => hid (Except.ok.inj he)
        simp only [hcarries, decide_false, bind, Except.bind, if_neg hid]
        exact ih (List.findSome?_eq_none_iff.mpr hpaths)
    · rw [hp] at hsome
      cases hsome

theorem firstCarrier?_eq_some (h : firstCarrier? files id paths = some p) :
    p ∈ paths ∧ Carries files id p := by
  refine ⟨List.mem_of_find?_eq_some h, ?_⟩
  simpa using List.find?_some h

/-- A new registry that is asked for an identifier loads the first file with it. -/
theorem get_of_new (h : firstFault? files (found files directory) = none) (id : String) :
    (get files { directory } id).1.outcome.map (·.definition) =
      match firstCarrier? files id (found files directory) with
      | none => .error (.notFound id)
      | some q => (Definition.load (files.readText q)).outcome := by
  have hpath := findPath_of_no_fault h id
  have hcached : cached? { directory, discovered := true, paths := found files directory } id =
      none := rfl
  cases hfirst : firstCarrier? files id (found files directory) with
  | none => simp [get, discover_of_fresh, hcached, hpath, hfirst, Except.map]
  | some q =>
    simp only [get, discover_of_fresh, hcached, hpath, hfirst]
    cases hload : (Definition.load (files.readText q)).outcome with
    | error e => rw [(load_of_error _ hload).1]; rfl
    | ok d =>
      rw [(load_of_ok _ hload).1, keep_of_new rfl]
      rfl

/-! ## Files with a definition -/

/-- No two files have definitions with one identifier. -/
theorem eq_of_distinct (h : ((definitionsIn files paths).map (·.id)).Nodup) (hp : p ∈ paths)
    (hq : q ∈ paths) (hd : (Definition.load (files.readText p)).outcome = .ok d)
    (hd' : (Definition.load (files.readText q)).outcome = .ok d') (hid : d.id = d'.id) : p = q := by
  rw [definitionsIn, List.map_filterMap] at h
  let apart (p q : FilePath) : Prop :=
    ∀ id, (Definition.load (files.readText p)).outcome.toOption.map (·.id) = some id →
      ∀ id', (Definition.load (files.readText q)).outcome.toOption.map (·.id) = some id' → id ≠ id'
  have hsymm : Std.Symm apart := ⟨fun _ _ hpq id hid id' hid' => (hpq id' hid' id hid).symm⟩
  have hpairs : paths.Pairwise apart := List.pairwise_filterMap.mp h
  by_cases hne : p = q
  · exact hne
  · exact absurd hid (hpairs.forall hp hq hne d.id (by rw [hd]; rfl) d'.id (by rw [hd']; rfl))

/-- What lenient loading by a new registry returns comes from files, no two of which have one
identifier. -/
theorem distinct_of_loadAll
    (h : (loadAll files false onlyPublic { directory }).1.outcome = .ok ls) :
    firstFault? files (found files directory) = none ∧
      ((definitionsIn files (found files directory)).map (·.id)).Nodup ∧
      ∀ l ∈ ls, l.definition ∈ definitionsIn files (found files directory) := by
  obtain ⟨outcome, hends, hloaded⟩ := loadAll_of_new files directory onlyPublic
  obtain ⟨all, rfl, rfl⟩ := except_map_eq_ok.mp (hloaded.symm.trans h)
  rw [EndsAs, List.map_nil] at hends
  split at hends
  case h_1 => cases hends
  case h_2 => cases hends
  case h_3 hrepeated hfirst =>
    obtain ⟨ls, hls, hmap⟩ := hends
    obtain rfl := Except.ok.inj hls
    rw [beforeFault_eq_self hfirst] at hrepeated
    refine ⟨hfirst, (firstRepeated?_eq_none_iff.mp hrepeated).1, fun l hl => ?_⟩
    have hl := List.mem_mergeSort.mp (List.mem_filter.mp hl).1
    rw [List.nil_append] at hmap
    exact hmap ▸ List.mem_map_of_mem hl

/-- Distinct identifiers are all that lenient loading needs, apart from files without faults. -/
theorem loadAll_of_distinct (hfault : firstFault? files (found files directory) = none)
    (hnodup : ((definitionsIn files (found files directory)).map (·.id)).Nodup) :
    ∃ ls, (loadAll files false false { directory }).1.outcome = .ok ls ∧
      ∀ d ∈ definitionsIn files (found files directory), ∃ l ∈ ls, l.definition = d := by
  obtain ⟨ls, hls, -, hperm⟩ := (loadAll_of_no_fault hfault false).2 hnodup
  refine ⟨ls, hls, fun d hd => ?_⟩
  have hkept : d ∈ (definitionsIn files (found files directory)).filter
      fun d => !false || d.access = .isPublic := List.mem_filter.mpr ⟨hd, rfl⟩
  exact List.mem_map.mp (hperm.mem_iff.mpr hkept)

theorem mem_definitionsIn : d ∈ definitionsIn files paths ↔
    ∃ p ∈ paths, (Definition.load (files.readText p)).outcome = .ok d := by
  simp only [definitionsIn, List.mem_filterMap]
  refine exists_congr fun p => and_congr_right fun _ => ?_
  cases (Definition.load (files.readText p)).outcome <;> simp [Except.toOption]

/-! ## The ways to a definition -/

/-- How a definition from the file `p` can be reached: which identifiers are listed, and what asking
for its own gives. -/
structure Routes (files : FileTree) (paths : List FilePath) (p : FilePath) (d : Definition)
    (ids : List String) (asked : Except Failure Definition) : Prop where
  mem : p ∈ paths
  loads : (Definition.load (files.readText p)).outcome = .ok d
  /-- The identifier is found in the file unless it is blank or given as bytes. -/
  carries : Carries files d.id p ∨
    ((∀ id, ¬Carries files id p) ∧ (d.id = "" ∨ ∃ text document, files.readText p = .ok text ∧
      Yaml.read text = .ok document ∧ Definition.HasBytesId document))
  listed : d.id ∈ ids ↔ ∃ q ∈ paths, Carries files d.id q
  /-- The first file with the identifier decides. -/
  asked_eq : asked = match firstCarrier? files d.id paths with
    | none => .error (.notFound d.id)
    | some q => (Definition.load (files.readText q)).outcome
  /-- Asking gives the definition if its file comes first, and nothing otherwise. -/
  given : asked = .ok d ↔ firstCarrier? files d.id paths = some p
  refused : firstCarrier? files d.id paths ≠ some p → ∃ e, asked = .error e

/-- **Which definitions are reached by every way.** A definition that lenient loading returns is
listed and given by new registries if its file is the first one with its identifier. The others are
those whose identifier is found first in a file that fails to load, and those whose identifier is
blank or given as bytes. -/
theorem routes_of_loaded
    (h : (loadAll files false onlyPublic { directory }).1.outcome = .ok ls) :
    ∃ ids, (listIds files { directory }).1.outcome = .ok ids ∧
      ∀ l ∈ ls, ∃ p, Routes files (found files directory) p l.definition ids
        ((get files { directory } l.definition.id).1.outcome.map (·.definition)) := by
  obtain ⟨hfault, hnodup, hmem⟩ := distinct_of_loadAll h
  obtain ⟨ids, hids, -, hlisted⟩ := peekIds_of_no_fault hfault
  refine ⟨ids.mergeSort (· ≤ ·), by rw [listIds_of_new, hids]; rfl, fun l hl => ?_⟩
  obtain ⟨p, hp, hload⟩ := mem_definitionsIn.mp (hmem l hl)
  have hasked := get_of_new hfault l.definition.id
  have hgiven : (get files { directory } l.definition.id).1.outcome.map (·.definition) =
      .ok l.definition ↔ firstCarrier? files l.definition.id (found files directory) = some p := by
    rw [hasked]
    constructor
    · intro hok
      split at hok
      · cases hok
      · rename_i q hq
        rw [hq, eq_of_distinct hnodup (firstCarrier?_eq_some hq).1 hp hok hload rfl]
    · intro hfirst
      rw [hfirst]
      exact hload
  refine ⟨p, hp, hload, ?_, ?_, hasked, hgiven, fun hne => ?_⟩
  · rcases Definition.peekId_of_load hload with hpeek | ⟨hpeek, hwhy⟩
    · exact .inl hpeek
    · refine .inr ⟨fun id hcarries => ?_, hwhy⟩
      rw [Carries, hpeek] at hcarries
      cases hcarries
  · exact List.mem_mergeSort.trans (hlisted _)
  · rw [hasked]
    cases hfirst : firstCarrier? files l.definition.id (found files directory) with
    | none => exact ⟨_, rfl⟩
    | some q =>
      cases hq : (Definition.load (files.readText q)).outcome with
      | error e => exact ⟨e, hq⟩
      | ok d =>
        obtain ⟨hmemq, hcarries⟩ := firstCarrier?_eq_some hfirst
        have hid := Definition.id_of_peekId hq hcarries
        have hqp := eq_of_distinct hnodup hmemq hp hq hload hid
        exact absurd (hqp ▸ hfirst) hne

/-- A file that fails to load in front of one with the same identifier, and one whose identifier is
blank. -/
def shadowedFolder : FileTree :=
  folder [("a.yml", "id: x\n"), ("b.yml", "id: x\nname: X\n"), ("c.yml", "id: ' '\nname: B\n")]

theorem found_shadowedFolder : found shadowedFolder ["defs"] =
    [["defs", "a.yml"], ["defs", "b.yml"], ["defs", "c.yml"]] := by
  have hnames : (shadowedFolder.names ["defs"]).mergeSort (· ≤ ·) =
      ["a.yml", "b.yml", "c.yml"] := by
    change ["a.yml", "b.yml", "c.yml"].mergeSort (· ≤ ·) = _
    simp [List.mergeSort, List.MergeSort.Internal.splitInTwo]
  rw [found, definitionFiles, hnames]
  decide +kernel

theorem firstFault?_shadowedFolder :
    firstFault? shadowedFolder (found shadowedFolder ["defs"]) = none := by
  rw [found_shadowedFolder]
  decide +kernel

theorem ids_shadowedFolder :
    (definitionsIn shadowedFolder (found shadowedFolder ["defs"])).map (·.id) = ["x", ""] := by
  rw [found_shadowedFolder]
  decide +kernel

theorem routes_of_shadowedFolder :
    ∃ ls ids, (loadAll shadowedFolder false false { directory := ["defs"] }).1.outcome = .ok ls ∧
      (listIds shadowedFolder { directory := ["defs"] }).1.outcome = .ok ids ∧
      ∀ l ∈ ls, ∃ p, Routes shadowedFolder (found shadowedFolder ["defs"]) p l.definition ids
        ((get shadowedFolder { directory := ["defs"] } l.definition.id).1.outcome.map
          (·.definition)) := by
  obtain ⟨ls, hls, -⟩ := loadAll_of_distinct firstFault?_shadowedFolder
    (by rw [ids_shadowedFolder]; decide)
  obtain ⟨ids, hids, hroutes⟩ := routes_of_loaded hls
  exact ⟨ls, ids, hls, hids, hroutes⟩

/-- Both definitions of the folder are loaded with all others. Asking for the one loads the file in
front of it, which fails; the other one is neither listed nor found. -/
theorem unreached_of_shadowedFolder :
    ∃ ls, (loadAll shadowedFolder false false { directory := ["defs"] }).1.outcome = .ok ls ∧
      (∃ l ∈ ls, l.definition.id = "x") ∧ (∃ l ∈ ls, l.definition.id = "") ∧
      (∃ cause, (get shadowedFolder { directory := ["defs"] } "x").1.outcome =
        .error (.load cause)) ∧
      (get shadowedFolder { directory := ["defs"] } "").1.outcome = .error (.notFound "") ∧
      ∀ ids, (listIds shadowedFolder { directory := ["defs"] }).1.outcome = .ok ids →
        "" ∉ ids := by
  obtain ⟨ls, hls, hall⟩ := loadAll_of_distinct firstFault?_shadowedFolder
    (by rw [ids_shadowedFolder]; decide)
  have hloaded (id : String) (hid : id ∈ ["x", ""]) : ∃ l ∈ ls, l.definition.id = id := by
    rw [← ids_shadowedFolder] at hid
    obtain ⟨d, hd, rfl⟩ := List.mem_map.mp hid
    obtain ⟨l, hl, rfl⟩ := hall d hd
    exact ⟨l, hl, rfl⟩
  have hfirst : firstCarrier? shadowedFolder "x" (found shadowedFolder ["defs"]) =
      some ["defs", "a.yml"] := by
    rw [found_shadowedFolder]
    decide +kernel
  have hnone : firstCarrier? shadowedFolder "" (found shadowedFolder ["defs"]) = none := by
    rw [found_shadowedFolder]
    decide +kernel
  have hfails : (Definition.load (shadowedFolder.readText ["defs", "a.yml"])).outcome =
      .error (.load (.mismatches [⟨[.key "name"], "missing", "Field required"⟩])) := by
    decide +kernel
  have hx := get_of_new firstFault?_shadowedFolder "x"
  have hblank := get_of_new firstFault?_shadowedFolder ""
  rw [hfirst] at hx
  rw [hnone] at hblank
  refine ⟨ls, hls, hloaded "x" (by decide), hloaded "" (by decide),
    ⟨_, except_map_eq_error.mp (hx.trans hfails)⟩, except_map_eq_error.mp hblank, fun ids hids => ?_⟩
  obtain ⟨peeked, hpeeked, -, hmem⟩ := peekIds_of_no_fault firstFault?_shadowedFolder
  rw [listIds_of_new, hpeeked] at hids
  obtain rfl := Except.ok.inj hids
  intro hin
  obtain ⟨p, hp, hcarries⟩ := (hmem "").mp (List.mem_mergeSort.mp hin)
  exact List.find?_eq_none.mp hnone p hp (decide_eq_true hcarries)

end TrackerSearch.Registry
