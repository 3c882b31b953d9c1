import TrackerSearch.Proofs.Definition.Coherence
import TrackerSearch.Proofs.Yaml.Fault

/-!
# Files that cannot be loaded

Lenient loading skips a file that fails to load. One kind of file does not fail in that way: a
scalar that is written or tagged as a date or a number and is none ends in a fault, both when the
file is loaded and when only its identifier is looked for. A new registry over a directory answers
for all other files as long as there is no file of that kind (`lenient_of_new`).
-/
namespace TrackerSearch

open Text

namespace Definition

variable {content : Except FileFault (List Char)} {fault : Fault}

/-- The fault in which reading the values of a file ends. -/
def faultIn? : Except FileFault (List Char) → Option Fault
  | .error _ => none
  | .ok text =>
    match Yaml.read text with
    | .error (.badValue fault) => some fault
    | _ => none

/-- A file can be loaded, fails to load, or has a fault. -/
theorem load_trichotomy (content : Except FileFault (List Char)) :
    (∃ d, (load content).outcome = .ok d ∧ faultIn? content = none) ∨
      (∃ cause, (load content).outcome = .error (.load cause) ∧ faultIn? content = none) ∨
      ∃ fault, (load content).outcome = .error (.fault fault) ∧ faultIn? content = some fault := by
  cases content with
  | error e => exact .inr (.inl ⟨.ofFile e, rfl, rfl⟩)
  | ok text =>
    simp only [load, ofText, faultIn?]
    cases hy : Yaml.read text with
    | error e =>
      cases e with
      | malformed | circular => exact .inr (.inl ⟨.badYaml, rfl, rfl⟩)
      | badValue fault => exact .inr (.inr ⟨fault, rfl, rfl⟩)
    | ok document =>
      cases hd : ofDocument document with
      | error cause => exact .inr (.inl ⟨cause, by simp only [hd]; rfl, rfl⟩)
      | ok d => exact .inl ⟨d, by simp only [hd]; rfl, rfl⟩

/-- Looking for the identifier alone fails for the same reason as loading, or not at all. -/
theorem peekId_cases (content : Except FileFault (List Char)) :
    (∃ id, peekId content = .ok id ∧ faultIn? content = none) ∨
      ∃ fault, peekId content = .error (.fault fault) ∧ faultIn? content = some fault := by
  cases content with
  | error e => exact .inl ⟨none, rfl, rfl⟩
  | ok text =>
    simp only [peekId, faultIn?]
    cases hy : Yaml.read text with
    | ok document => exact .inl ⟨_, rfl, rfl⟩
    | error e =>
      cases e with
      | malformed | circular => exact .inl ⟨none, rfl, rfl⟩
      | badValue fault => exact .inr ⟨fault, rfl, rfl⟩

end Definition

namespace Registry

variable {files : FileTree} {r : Registry} {path : FilePath} {paths : List FilePath}
  {loaded : List LoadedDefinition} {ds : List Definition} {d : Definition}
  {outcome : Except Failure (List LoadedDefinition)}

/-! ## What is in the files -/

/-- The first fault among some files. -/
def firstFault? (files : FileTree) (paths : List FilePath) : Option Fault :=
  paths.findSome? fun p => Definition.faultIn? (files.readText p)

/-- The files before the first one with a fault. -/
def beforeFault (files : FileTree) (paths : List FilePath) : List FilePath :=
  paths.takeWhile fun p => (Definition.faultIn? (files.readText p)).isNone

/-- The definitions of the files that can be loaded, in the order of the files. -/
def definitionsIn (files : FileTree) (paths : List FilePath) : List Definition :=
  paths.filterMap fun p => (Definition.load (files.readText p)).outcome.toOption

/-- The first of some identifiers that is there twice, or that was `seen` before. -/
def firstRepeated? (seen : List String) : List String → Option String
  | [] => none
  | id :: ids => if id ∈ seen then some id else firstRepeated? (seen ++ [id]) ids

theorem beforeFault_eq_self (h : firstFault? files paths = none) :
    beforeFault files paths = paths := by
  induction paths with
  | nil => rfl
  | cons path paths ih =>
    obtain ⟨hpath, hpaths⟩ := List.forall_mem_cons.mp (List.findSome?_eq_none_iff.mp h)
    rw [beforeFault, List.takeWhile_cons_of_pos (by simp [hpath])]
    exact congrArg (path :: ·) (ih (List.findSome?_eq_none_iff.mpr hpaths))

theorem firstRepeated?_eq_none_iff {seen ids : List String} :
    firstRepeated? seen ids = none ↔ ids.Nodup ∧ ∀ id ∈ ids, id ∉ seen := by
  induction ids generalizing seen with
  | nil => simp [firstRepeated?]
  | cons id ids ih =>
    by_cases hid : id ∈ seen
    · simp [firstRepeated?, hid]
    · simp only [firstRepeated?, hid, if_false, ih, List.nodup_cons, List.mem_append,
        List.mem_singleton, not_or, List.forall_mem_cons, not_false_eq_true, true_and]
      constructor
      · rintro ⟨hnodup, hnew⟩
        exact ⟨⟨fun hmem => (hnew id hmem).2 rfl, hnodup⟩, fun other h => (hnew other h).1⟩
      · rintro ⟨⟨hmem, hnodup⟩, hnew⟩
        exact ⟨hnodup, fun other h => ⟨hnew other h, fun he => hmem (he ▸ h)⟩⟩

/-! ## Loading files one after another -/

/-- How loading some files after the definitions `ds` ends: at the first identifier that is there
twice, at the first fault, or with all definitions. -/
def EndsAs (files : FileTree) (ds : List Definition) (paths : List FilePath)
    (outcome : Except Failure (List LoadedDefinition)) : Prop :=
  match firstRepeated? (ds.map (·.id)) ((definitionsIn files (beforeFault files paths)).map (·.id)),
    firstFault? files paths with
  | some id, _ => outcome = .error (.duplicate id)
  | none, some fault => outcome = .error (.fault fault)
  | none, none => ∃ ls, outcome = .ok ls ∧ ls.map (·.definition) = ds ++ definitionsIn files paths

theorem firstFault?_cons_of_none (h : Definition.faultIn? (files.readText path) = none) :
    firstFault? files (path :: paths) = firstFault? files paths := by
  rw [firstFault?, List.findSome?_cons, h]
  rfl

theorem beforeFault_cons_of_none (h : Definition.faultIn? (files.readText path) = none) :
    beforeFault files (path :: paths) = path :: beforeFault files paths :=
  List.takeWhile_cons_of_pos (by simp [h])

theorem definitionsIn_cons_of_ok (h : (Definition.load (files.readText path)).outcome = .ok d) :
    definitionsIn files (path :: paths) = d :: definitionsIn files paths :=
  List.filterMap_cons_some (by rw [h]; rfl)

theorem definitionsIn_cons_of_error {e : Failure}
    (h : (Definition.load (files.readText path)).outcome = .error e) :
    definitionsIn files (path :: paths) = definitionsIn files paths :=
  List.filterMap_cons_none (by rw [h]; rfl)

/-- A definition has an identifier that was there before. -/
theorem endsAs_of_repeated (h : (Definition.load (files.readText path)).outcome = .ok d)
    (hnone : Definition.faultIn? (files.readText path) = none) (hid : d.id ∈ ds.map (·.id)) :
    EndsAs files ds (path :: paths) (.error (.duplicate d.id)) := by
  rw [EndsAs, beforeFault_cons_of_none hnone, definitionsIn_cons_of_ok h, List.map_cons,
    firstRepeated?, if_pos hid]

/-- A definition has an identifier of its own. -/
theorem endsAs_of_new (h : (Definition.load (files.readText path)).outcome = .ok d)
    (hnone : Definition.faultIn? (files.readText path) = none) (hid : d.id ∉ ds.map (·.id))
    (hrest : EndsAs files (ds ++ [d]) paths outcome) : EndsAs files ds (path :: paths) outcome := by
  rw [EndsAs, beforeFault_cons_of_none hnone, firstFault?_cons_of_none hnone,
    definitionsIn_cons_of_ok h, definitionsIn_cons_of_ok h, List.map_cons, firstRepeated?,
    if_neg hid]
  rw [EndsAs, List.map_append, List.append_assoc] at hrest
  exact hrest

/-- A file without a definition does not matter. -/
theorem endsAs_of_skipped {cause : LoadCause}
    (h : (Definition.load (files.readText path)).outcome = .error (.load cause))
    (hnone : Definition.faultIn? (files.readText path) = none)
    (hrest : EndsAs files ds paths outcome) : EndsAs files ds (path :: paths) outcome := by
  rw [EndsAs, beforeFault_cons_of_none hnone, firstFault?_cons_of_none hnone,
    definitionsIn_cons_of_error h, definitionsIn_cons_of_error h]
  exact hrest

theorem endsAs_of_fault {fault : Fault}
    (h : Definition.faultIn? (files.readText path) = some fault) :
    EndsAs files ds (path :: paths) (.error (.fault fault)) := by
  have hbefore : beforeFault files (path :: paths) = [] :=
    List.takeWhile_cons_of_neg (by simp [h])
  have hfirst : firstFault? files (path :: paths) = some fault := by
    rw [firstFault?, List.findSome?_cons, h]
  rw [EndsAs, hbefore, hfirst]
  rfl

/-- The memory has the definitions loaded so far, and no others. -/
structure Holds (r : Registry) (ds : List Definition) : Prop where
  wellKept : WellKept r
  cached : ∀ id, r.cached? id = none ↔ id ∉ ds.map (·.id)

theorem Holds.keep (h : Holds r ds) (hd : d.id ∉ ds.map (·.id)) :
    (r.keep d).1.definition = d ∧ Holds (r.keep d).2 (ds ++ [d]) := by
  have hgrows := grows_keep h.wellKept d
  rw [keep_of_new ((h.cached d.id).mpr hd)] at hgrows ⊢
  refine ⟨rfl, hgrows.wellKept, fun id => ?_⟩
  by_cases hid : d.id = id
  · simp [cached?, hid]
  · rw [cached?, List.find?_cons_of_neg (by simpa using hid)]
    refine (h.cached id).trans ?_
    simp [Ne.symm hid]

theorem load_of_error (r : Registry) {e : Failure}
    (h : (Definition.load (files.readText path)).outcome = .error e) :
    (r.load files path).1.outcome = .error e ∧ (r.load files path).2 = r := by
  simp [load, h]

theorem load_of_ok (r : Registry)
    (h : (Definition.load (files.readText path)).outcome = .ok d) :
    (r.load files path).1.outcome = .ok (r.keep d).1 ∧ (r.load files path).2 = (r.keep d).2 := by
  simp [load, h]

theorem any_id_iff {id : String} : (loaded.any (·.definition.id == id)) = true ↔
    id ∈ (loaded.map (·.definition)).map (·.id) := by
  simp [List.any_eq_true]

/-- Loading files leniently, from a memory with just the definitions that were loaded before. -/
theorem endsAs_loadPaths (files : FileTree) (paths : List FilePath)
    (loaded : List LoadedDefinition) (h : Holds r (loaded.map (·.definition))) :
    EndsAs files (loaded.map (·.definition)) paths
      (loadPaths files false paths loaded r).1.outcome := by
  induction paths generalizing loaded r with
  | nil => exact ⟨loaded, rfl, (List.append_nil _).symm⟩
  | cons path paths ih =>
    simp only [loadPaths]
    rcases Definition.load_trichotomy (files.readText path) with
      ⟨d, hd, hnone⟩ | ⟨cause, hcause, hnone⟩ | ⟨fault, hfault, hsome⟩
    · obtain ⟨hl, hr⟩ := load_of_ok r hd
      have hkept : (r.keep d).1.definition.id = d.id := (cached?_keep h.wellKept d).1
      simp only [hl, hr]
      split
      · rename_i hany
        rw [hkept] at hany ⊢
        exact endsAs_of_repeated hd hnone (any_id_iff.mp hany)
      · rename_i hany
        have hid : d.id ∉ (loaded.map (·.definition)).map (·.id) := fun hmem =>
          hany (hkept.symm ▸ any_id_iff.mpr hmem)
        obtain ⟨hdefinition, hholds⟩ := h.keep hid
        have hmap : (loaded ++ [(r.keep d).1]).map (·.definition) =
            loaded.map (·.definition) ++ [d] := by
          rw [List.map_append, List.map_singleton, hdefinition]
        have hrest := ih (loaded ++ [(r.keep d).1]) (hmap ▸ hholds)
        rw [hmap] at hrest
        exact endsAs_of_new hd hnone hid hrest
    · obtain ⟨he, hr⟩ := load_of_error r hcause
      simp only [he, hr]
      exact endsAs_of_skipped hcause hnone (ih loaded h)
    · obtain ⟨he, hr⟩ := load_of_error r hfault
      simp only [he]
      exact endsAs_of_fault hsome

/-! ## Identifiers in the files -/

/-- The identifiers of files are looked for up to the first fault. -/
theorem mapM_peekId (files : FileTree) (paths : List FilePath) :
    match firstFault? files paths with
    | some fault =>
      paths.mapM (fun p => Definition.peekId (files.readText p)) = .error (.fault fault)
    | none => ∃ seen, paths.mapM (fun p => Definition.peekId (files.readText p)) = .ok seen ∧
      ∀ id, some id ∈ seen ↔ ∃ p ∈ paths, Definition.peekId (files.readText p) = .ok (some id) := by
  induction paths with
  | nil => exact ⟨[], rfl, by simp⟩
  | cons path paths ih =>
    simp only [List.mapM_cons]
    rcases Definition.peekId_cases (files.readText path) with
      ⟨peeked, hpeek, hnone⟩ | ⟨fault, hpeek, hsome⟩
    · rw [firstFault?_cons_of_none hnone, hpeek]
      cases hfirst : firstFault? files paths with
      | some fault =>
        rw [hfirst] at ih
        rw [ih]
        rfl
      | none =>
        rw [hfirst] at ih
        obtain ⟨seen, hseen, hmem⟩ := ih
        refine ⟨peeked :: seen, ?_, fun id => ?_⟩
        · rw [hseen]
          rfl
        · simp [hmem, hpeek, eq_comm]
    · have hfirst : firstFault? files (path :: paths) = some fault := by
        rw [firstFault?, List.findSome?_cons, hsome]
      rw [hfirst, hpeek]
      rfl

theorem nodup_eraseDups (ids : List String) : ids.eraseDups.Nodup := by
  induction h : ids.length using Nat.strongRecOn generalizing ids with
  | ind n ih =>
    cases ids with
    | nil => exact List.nodup_nil
    | cons id ids =>
      rw [List.eraseDups_cons]
      have hshorter : (ids.filter fun other => !other == id).length < n :=
        h ▸ Nat.lt_succ_of_le (List.length_filter_le _ ids)
      refine List.nodup_cons.mpr ⟨fun hmem => ?_, ih _ hshorter _ rfl⟩
      simpa using (List.mem_filter.mp (List.mem_eraseDups.mp hmem)).2

/-- Distinct keys are strictly increasing once they are sorted. -/
theorem pairwise_lt_mergeSort {α : Type} (key : α → String) {xs : List α}
    (h : (xs.map key).Nodup) :
    (xs.mergeSort fun a b => key a ≤ key b).Pairwise fun a b => key a < key b := by
  have hsorted : (xs.mergeSort fun a b => key a ≤ key b).Pairwise
      fun a b => decide (key a ≤ key b) = true :=
    List.pairwise_mergeSort
      (by intro a b c; simp only [decide_eq_true_eq]; exact String.le_trans)
      (by intro a b; simp only [Bool.or_eq_true, decide_eq_true_eq]; exact String.le_total ..) xs
  have hdistinct : (xs.mergeSort fun a b => key a ≤ key b).Pairwise fun a b => key a ≠ key b :=
    List.pairwise_map.mp (((List.mergeSort_perm xs _).map key).nodup_iff.mpr h)
  refine (hsorted.and hdistinct).imp fun {a b} hab => ?_
  refine String.not_le.mp fun hle => hab.2 ?_
  exact String.le_antisymm (of_decide_eq_true hab.1) hle

/-! ## A new registry -/

theorem discover_of_fresh {directory : FilePath} :
    (discover files { directory }).1 =
      { directory, discovered := true, paths := found files directory } :=
  discover_of_new rfl

theorem holds_new (directory : FilePath) (paths : List FilePath) :
    Holds { directory, discovered := true, paths } [] :=
  ⟨⟨by simp, rfl⟩, by simp [cached?]⟩

theorem listIds_of_new (files : FileTree) (directory : FilePath) :
    (listIds files { directory }).1.outcome =
      (peekIds files (found files directory)).map (·.mergeSort (· ≤ ·)) := by
  simp only [listIds, discover_of_fresh]

/-- Loading all definitions is loading the files in order, and what comes of it is sorted and
filtered. -/
theorem loadAll_eq (files : FileTree) (strict onlyPublic : Bool) (r : Registry) :
    (loadAll files strict onlyPublic r).1.outcome =
        (loadPaths files strict (r.discover files).1.paths [] (r.discover files).1).1.outcome.map
          (fun ls => (ls.mergeSort fun a b => a.definition.id ≤ b.definition.id).filter
            fun l => !onlyPublic || l.definition.access = .isPublic) ∧
      (loadAll files strict onlyPublic r).2 =
        (loadPaths files strict (r.discover files).1.paths [] (r.discover files).1).2 := by
  refine ⟨?_, rfl⟩
  simp only [loadAll]
  congr 1
  funext ls
  cases onlyPublic with
  | true => simp
  | false => exact (List.filter_eq_self.mpr fun _ _ => rfl).symm

theorem loadAll_of_new (files : FileTree) (directory : FilePath) (onlyPublic : Bool) :
    ∃ outcome, EndsAs files [] (found files directory) outcome ∧
      (loadAll files false onlyPublic { directory }).1.outcome = outcome.map fun ls =>
        (ls.mergeSort fun a b => a.definition.id ≤ b.definition.id).filter
          fun l => !onlyPublic || l.definition.access = .isPublic := by
  have hends := endsAs_loadPaths files (found files directory) []
    (holds_new directory (found files directory))
  refine ⟨_, hends, ?_⟩
  rw [(loadAll_eq _ _ _ _).1, discover_of_fresh]

theorem peekIds_of_no_fault (h : firstFault? files paths = none) :
    ∃ ids, peekIds files paths = .ok ids ∧ ids.Nodup ∧
      ∀ id, id ∈ ids ↔ ∃ p ∈ paths, Definition.peekId (files.readText p) = .ok (some id) := by
  have hseen := mapM_peekId files paths
  rw [h] at hseen
  obtain ⟨seen, hseen, hmem⟩ := hseen
  refine ⟨(seen.filterMap fun id => id).eraseDups, ?_, nodup_eraseDups _, fun id => ?_⟩
  · simp only [peekIds, hseen]
    rfl
  · rw [List.mem_eraseDups, ← hmem]
    simp

/-- What is shown of definitions with distinct identifiers. -/
theorem shown_of_nodup {ls : List LoadedDefinition} (h : ls.map (·.definition) = ds)
    (hnodup : (ds.map (·.id)).Nodup) (p : Definition → Bool) :
    let shown := (ls.mergeSort fun a b => a.definition.id ≤ b.definition.id).filter
      fun l => p l.definition
    (shown.Pairwise fun a b => a.definition.id < b.definition.id) ∧
      (shown.map (·.definition)).Perm (ds.filter p) := by
  subst h
  rw [List.map_map] at hnodup
  refine ⟨(pairwise_lt_mergeSort (fun l : LoadedDefinition => l.definition.id) hnodup).filter _, ?_⟩
  rw [List.filter_map]
  exact ((List.mergeSort_perm ls _).filter _).map _

/-- Without faults, two files with one identifier are all that lenient loading fails at. -/
theorem loadAll_of_no_fault {directory : FilePath}
    (hfault : firstFault? files (found files directory) = none) (onlyPublic : Bool) :
    (¬((definitionsIn files (found files directory)).map (·.id)).Nodup →
      ∃ id, (loadAll files false onlyPublic { directory }).1.outcome = .error (.duplicate id)) ∧
    (((definitionsIn files (found files directory)).map (·.id)).Nodup →
      ∃ ls, (loadAll files false onlyPublic { directory }).1.outcome = .ok ls ∧
        (ls.Pairwise fun a b => a.definition.id < b.definition.id) ∧
        (ls.map (·.definition)).Perm ((definitionsIn files (found files directory)).filter
          fun d => !onlyPublic || d.access = .isPublic)) := by
  obtain ⟨outcome, hends, hloaded⟩ := loadAll_of_new files directory onlyPublic
  rw [EndsAs, List.map_nil, beforeFault_eq_self hfault, hfault] at hends
  cases hrepeated : firstRepeated? []
      ((definitionsIn files (found files directory)).map (·.id)) with
  | some id =>
    rw [hrepeated] at hends
    refine ⟨fun _ => ⟨id, by rw [hloaded, hends]; rfl⟩, fun hnodup => ?_⟩
    rw [firstRepeated?_eq_none_iff.mpr ⟨hnodup, fun _ _ => List.not_mem_nil⟩] at hrepeated
    cases hrepeated
  | none =>
    rw [hrepeated] at hends
    refine ⟨fun hnot => absurd (firstRepeated?_eq_none_iff.mp hrepeated).1 hnot, fun hnodup => ?_⟩
    obtain ⟨ls, rfl, hls⟩ := hends
    rw [List.nil_append] at hls
    exact ⟨_, hloaded, shown_of_nodup hls hnodup fun d => !onlyPublic || d.access = .isPublic⟩

/-- A directory with some files, one byte for each character. -/
def folder (contents : List (String × String)) : FileTree where
  entries := (["defs"], .directory) :: contents.map fun (name, text) =>
    (["defs", name], .file (text.toList.map fun c => UInt8.ofNat c.toNat))

end Registry
end TrackerSearch
