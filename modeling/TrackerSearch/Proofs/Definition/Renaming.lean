import Mathlib.Data.List.Basic
import TrackerSearch.Proofs.Definition.Lenience
import TrackerSearch.Proofs.FileTree

/-!
# Names of definition files

What is loaded from a directory depends on what its files hold and not on how they are called, as
long as none of them has a fault. Main statement: `byContents_of_loadable`. A file that is renamed to
something that is no definition file is outside of it, and so is one that takes the place of another.
-/
namespace TrackerSearch.Registry

open Text

variable {files files' : FileTree} {directory : FilePath} {rename : String → String} {r r' : Registry}
  {paths : List FilePath} {loaded ls : List LoadedDefinition} {strict onlyPublic : Bool}
  {name : String}

/-! ## Other names -/

/-- A name with the ending of a definition file. -/
def isDefinitionName (name : String) : Bool := suffixes.contains (lowered (FilePath.suffix name))

/-- Is the name in the directory that of a definition file? -/
def isDefinitionIn (files : FileTree) (directory : FilePath) (name : String) : Bool :=
  files.isFile (directory ++ [name]) && isDefinitionName name

theorem definitionFiles_eq (files : FileTree) (directory : FilePath) :
    definitionFiles files directory =
      (((files.names directory).mergeSort (· ≤ ·)).filter (isDefinitionIn files directory)).map
        fun name => directory ++ [name] := by
  rw [definitionFiles, List.filter_map]
  refine congrArg (List.map _) (List.filter_congr fun name _ => ?_)
  rw [Function.comp_apply, List.getLastD_concat, isDefinitionIn, isDefinitionName]

/-- New names for the definition files of a directory: nothing else is renamed, and what was called
differently still is. -/
structure Renames (files : FileTree) (directory : FilePath) (rename : String → String) : Prop where
  injective : ∀ a ∈ files.names directory, ∀ b ∈ files.names directory, rename a = rename b → a = b
  definition : ∀ name ∈ files.names directory, isDefinitionIn files directory name →
    isDefinitionName (rename name)
  other : ∀ name ∈ files.names directory, ¬isDefinitionIn files directory name → rename name = name

namespace Renames

theorem get? (h : Renames files directory rename) (hname : name ∈ files.names directory) :
    (files.renamed directory rename).get? (directory ++ [rename name]) =
      files.get? (directory ++ [name]) :=
  FileTree.get?_renamed_concat fun other hother => h.injective other hother name hname

theorem isDefinitionIn_rename (h : Renames files directory rename)
    (hname : name ∈ files.names directory) :
    isDefinitionIn (files.renamed directory rename) directory (rename name) =
      isDefinitionIn files directory name := by
  have hfile : (files.renamed directory rename).isFile (directory ++ [rename name]) =
      files.isFile (directory ++ [name]) := by
    rw [FileTree.isFile, FileTree.isFile, h.get? hname]
  by_cases hdefinition : isDefinitionIn files directory name = true
  · have hboth := Bool.and_eq_true_iff.mp hdefinition
    rw [isDefinitionIn, hfile, h.definition name hname hdefinition, hboth.1, hdefinition]
    rfl
  · rw [isDefinitionIn, hfile, h.other name hname hdefinition]
    rfl

/-- The definition files are those from before under their new names, perhaps in another order. -/
theorem perm_found (h : Renames files directory rename) :
    (found (files.renamed directory rename) directory).Perm
      ((found files directory).map (FilePath.renamed directory rename)) := by
  have hdirectory : (files.renamed directory rename).isDirectory directory =
      files.isDirectory directory := by
    rw [FileTree.isDirectory, FileTree.isDirectory, FileTree.get?_directory_renamed]
  rw [found, found, hdirectory]
  split
  · rw [definitionFiles_eq, definitionFiles_eq, List.map_map, FileTree.names_renamed]
    have hfilter : ((files.names directory).map rename).filter
          (isDefinitionIn (files.renamed directory rename) directory) =
        ((files.names directory).filter (isDefinitionIn files directory)).map rename := by
      rw [List.filter_map]
      exact congrArg _ (List.filter_congr fun name hname => h.isDefinitionIn_rename hname)
    have hsorted := ((files.names directory).mergeSort_perm (· ≤ ·)).symm
    refine (((List.mergeSort_perm _ _).filter _).map _).trans ?_
    rw [hfilter, List.map_map]
    refine .trans (.of_eq ?_) ((hsorted.filter _).map _)
    refine List.map_congr_left fun name _ => ?_
    rw [Function.comp_apply, Function.comp_apply, FilePath.renamed_concat]
  · exact .nil

/-- What a file holds goes along with its name. -/
theorem readText_found (h : Renames files directory rename) :
    ∀ p ∈ found files directory,
      (files.renamed directory rename).readText (FilePath.renamed directory rename p) =
        files.readText p := by
  intro p hp
  rw [found] at hp
  split at hp
  · rw [definitionFiles_eq] at hp
    obtain ⟨name, hname, rfl⟩ := List.mem_map.mp hp
    have hname := List.mem_mergeSort.mp (List.mem_filter.mp hname).1
    rw [FilePath.renamed_concat, FileTree.readText, FileTree.readText, FileTree.read, FileTree.read,
      h.get? hname]
  · cases hp

theorem perm_definitionsIn (h : Renames files directory rename) :
    (definitionsIn (files.renamed directory rename)
      (found (files.renamed directory rename) directory)).Perm
        (definitionsIn files (found files directory)) := by
  refine (h.perm_found.filterMap _).trans (.of_eq ?_)
  rw [List.filterMap_map, definitionsIn]
  refine List.filterMap_congr fun p hp => ?_
  rw [Function.comp_apply, h.readText_found p hp]

/-- Renaming brings no faults. -/
theorem firstFault? (h : Renames files directory rename)
    (hfault : firstFault? files (found files directory) = none) :
    Registry.firstFault? (files.renamed directory rename)
      (found (files.renamed directory rename) directory) = none := by
  refine List.findSome?_eq_none_iff.mpr fun p hp => ?_
  obtain ⟨q, hq, rfl⟩ := List.mem_map.mp (h.perm_found.mem_iff.mp hp)
  rw [h.readText_found q hq]
  exact List.findSome?_eq_none_iff.mp hfault q hq

end Renames

/-! ## One run after another -/

/-- Where strict loading succeeds, there is nothing to be lenient about. -/
theorem loadPaths_of_strict (h : (loadPaths files true paths loaded r).1.outcome = .ok ls) :
    (loadPaths files false paths loaded r).1.outcome = .ok ls := by
  induction paths generalizing loaded r with
  | nil => exact h
  | cons path paths ih =>
    simp only [loadPaths] at h ⊢
    split at h
    · cases h
    · cases h
    · split at h
      · cases h
      · rename_i hany
        rw [if_neg hany]
        exact ih h

/-- A definition that was kept before is handed out again, and the memory stays as it is. -/
theorem keep_of_extends (hr : WellKept r) {d : Definition} (h : Extends (r.keep d).2 r') :
    r'.keep d = ((r.keep d).1, r') :=
  keep_of_cached (h _ _ (cached?_keep hr d).2)

/-- Files are loaded with the same outcome from a memory that has all that came of them before, which
then stays as it is. -/
theorem loadPaths_again (hr : WellKept r)
    (h : Extends (loadPaths files strict paths loaded r).2 r') :
    (loadPaths files strict paths loaded r').1.outcome =
        (loadPaths files strict paths loaded r).1.outcome ∧
      (loadPaths files strict paths loaded r').2 = r' := by
  induction paths generalizing loaded r with
  | nil => exact ⟨rfl, rfl⟩
  | cons path paths ih =>
    simp only [loadPaths] at h ⊢
    rcases Definition.load_trichotomy (files.readText path) with
      ⟨d, hd, -⟩ | ⟨cause, hcause, -⟩ | ⟨fault, hfault, -⟩
    · have hgrows := grows_keep hr d
      obtain ⟨hl, hsame⟩ := load_of_ok r hd
      obtain ⟨hl', hsame'⟩ := load_of_ok r' hd
      simp only [hl, hsame, hl', hsame'] at h ⊢
      split at h
      · rename_i hany
        rw [keep_of_extends hr h, if_pos hany, if_pos hany]
        exact ⟨rfl, rfl⟩
      · rename_i hany
        -- Going on with the other files only adds to the memory.
        have hrest := (loadPaths_grows hgrows.wellKept files strict paths
          (loaded ++ [(r.keep d).1])).1
        rw [keep_of_extends hr (hrest.keeps.trans h), if_neg hany, if_neg hany]
        exact ih hgrows.wellKept h
    · obtain ⟨he, hsame⟩ := load_of_error r hcause
      obtain ⟨he', hsame'⟩ := load_of_error r' hcause
      simp only [he, hsame, he', hsame'] at h ⊢
      cases strict with
      | true => exact ⟨rfl, rfl⟩
      | false => exact ih hr h
    · obtain ⟨he, -⟩ := load_of_error r hfault
      obtain ⟨he', hsame'⟩ := load_of_error r' hfault
      simp only [he, he', hsame']
      exact ⟨trivial, trivial⟩

/-! ## All definitions -/

theorem loadAll_of_strict (h : (loadAll files true onlyPublic r).1.outcome = .ok ls) :
    (loadAll files false onlyPublic r).1.outcome = .ok ls := by
  rw [(loadAll_eq _ _ _ _).1] at h ⊢
  obtain ⟨all, hall, rfl⟩ := except_map_eq_ok.mp h
  rw [loadPaths_of_strict hall]
  rfl

theorem loadAll_public (files : FileTree) (strict : Bool) (r : Registry) :
    (loadAll files strict true r).1.outcome =
      (loadAll files strict false r).1.outcome.map
        fun ls => ls.filter fun l => l.definition.access = .isPublic := by
  rw [(loadAll_eq _ _ _ _).1, (loadAll_eq _ _ _ _).1]
  cases (loadPaths files strict (r.discover files).1.paths [] (r.discover files).1).1.outcome with
  | error e => rfl
  | ok ls => simp [Except.map]

/-- Asked a second time, a registry hands out the same definitions. -/
theorem loadAll_again (hr : WellKept r) :
    (loadAll files strict onlyPublic (loadAll files strict onlyPublic r).2).1.outcome =
      (loadAll files strict onlyPublic r).1.outcome := by
  have hready := hr.discover files
  have hgrows := (loadPaths_grows hready files strict (r.discover files).1.paths []).1
  have hdiscovered := hgrows.discovered_eq.trans (discovered_discover files r)
  rw [(loadAll_eq _ _ _ _).2, (loadAll_eq _ _ _ _).1, (loadAll_eq _ _ _ _).1,
    discover_of_discovered hdiscovered, hgrows.paths_eq, (loadPaths_again hready (.refl _)).1]

/-- Strictly increasing definitions are determined by which ones they are. -/
theorem definitions_eq_of_perm {ls' : List LoadedDefinition}
    (h : ls.Pairwise fun a b => a.definition.id < b.definition.id)
    (h' : ls'.Pairwise fun a b => a.definition.id < b.definition.id)
    (hperm : (ls.map (·.definition)).Perm (ls'.map (·.definition))) :
    ls.map (·.definition) = ls'.map (·.definition) := by
  have hsorted : (ls.map (·.definition)).Pairwise fun a b => a.id < b.id := List.pairwise_map.mpr h
  have hsorted' : (ls'.map (·.definition)).Pairwise fun a b => a.id < b.id :=
    List.pairwise_map.mpr h'
  exact hperm.eq_of_pairwise (fun _ _ _ _ hab hba => absurd hba (String.lt_asymm hab)) hsorted
    hsorted'

/-- What comes of loading all definitions of a directory, by what its files hold. -/
structure ByContents (files : FileTree) (directory : FilePath) : Prop where
  /-- Two files with one identifier are refused. -/
  repeated : ¬((definitionsIn files (found files directory)).map (·.id)).Nodup → ∀ onlyPublic,
    ∃ id, (loadAll files false onlyPublic { directory }).1.outcome = .error (.duplicate id)
  /-- Otherwise there is every definition once, in the order of the identifiers. -/
  distinct : ((definitionsIn files (found files directory)).map (·.id)).Nodup →
    ∃ ls, (loadAll files false false { directory }).1.outcome = .ok ls ∧
      (ls.Pairwise fun a b => a.definition.id < b.definition.id) ∧
      (ls.map (·.definition)).Perm (definitionsIn files (found files directory))
  /-- Other names change neither that the files are refused nor the definitions. -/
  renamed : ∀ rename, Renames files directory rename → ∀ onlyPublic,
    ((∃ id, (loadAll (files.renamed directory rename) false onlyPublic { directory }).1.outcome =
          .error (.duplicate id)) ↔
        ∃ id, (loadAll files false onlyPublic { directory }).1.outcome = .error (.duplicate id)) ∧
      ∀ ds, (loadAll (files.renamed directory rename) false onlyPublic { directory }).1.outcome.map
          (·.map (·.definition)) = .ok ds ↔
        (loadAll files false onlyPublic { directory }).1.outcome.map (·.map (·.definition)) = .ok ds
  strict : ∀ onlyPublic ls, (loadAll files true onlyPublic { directory }).1.outcome = .ok ls →
    (loadAll files false onlyPublic { directory }).1.outcome = .ok ls
  onlyPublic : ∀ strict, (loadAll files strict true { directory }).1.outcome =
    (loadAll files strict false { directory }).1.outcome.map
      fun ls => ls.filter fun l => l.definition.access = .isPublic
  /-- A second call returns the very same definitions, serial numbers and all. -/
  again : ∀ strict onlyPublic,
    (loadAll files strict onlyPublic (loadAll files strict onlyPublic { directory }).2).1.outcome =
      (loadAll files strict onlyPublic { directory }).1.outcome

theorem renamed_of_no_fault (hfault : firstFault? files (found files directory) = none)
    (h : Renames files directory rename) (onlyPublic : Bool) :
    ((∃ id, (loadAll (files.renamed directory rename) false onlyPublic { directory }).1.outcome =
          .error (.duplicate id)) ↔
        ∃ id, (loadAll files false onlyPublic { directory }).1.outcome = .error (.duplicate id)) ∧
      ∀ ds, (loadAll (files.renamed directory rename) false onlyPublic { directory }).1.outcome.map
          (·.map (·.definition)) = .ok ds ↔
        (loadAll files false onlyPublic { directory }).1.outcome.map (·.map (·.definition)) =
          .ok ds := by
  have hperm := h.perm_definitionsIn
  have hids := (hperm.map (·.id)).nodup_iff
  obtain ⟨hrepeated, hdistinct⟩ := loadAll_of_no_fault hfault onlyPublic
  obtain ⟨hrepeated', hdistinct'⟩ := loadAll_of_no_fault (h.firstFault? hfault) onlyPublic
  by_cases hnodup : ((definitionsIn files (found files directory)).map (·.id)).Nodup
  · obtain ⟨ls, hls, hsorted, hall⟩ := hdistinct hnodup
    obtain ⟨ls', hls', hsorted', hall'⟩ := hdistinct' (hids.mpr hnodup)
    have hsame := definitions_eq_of_perm hsorted' hsorted
      (hall'.trans ((hperm.filter _).trans hall.symm))
    rw [hls, hls']
    simp [Except.map, hsame]
  · obtain ⟨id, hid⟩ := hrepeated hnodup
    obtain ⟨id', hid'⟩ := hrepeated' fun hnodup' => hnodup (hids.mp hnodup')
    rw [hid, hid']
    simp [Except.map]

/-- **What is loaded from a directory depends on what its files hold.** The names of the files play no
part in it, as long as every file can be loaded or fails to load. -/
theorem byContents_of_loadable (h : ∀ p ∈ found files directory,
      (∃ d, (Definition.load (files.readText p)).outcome = .ok d) ∨
        ∃ cause, (Definition.load (files.readText p)).outcome = .error (.load cause)) :
    ByContents files directory := by
  have hfault : firstFault? files (found files directory) = none := by
    refine List.findSome?_eq_none_iff.mpr fun p hp => ?_
    rcases Definition.load_trichotomy (files.readText p) with
      ⟨d, hd, hnone⟩ | ⟨cause, hcause, hnone⟩ | ⟨fault, hfault, -⟩
    · exact hnone
    · exact hnone
    · have hp := h p hp
      simp [hfault] at hp
  refine {
    repeated := fun hnodup onlyPublic => (loadAll_of_no_fault hfault onlyPublic).1 hnodup
    distinct := fun hnodup => ?_
    renamed := fun rename hrename => renamed_of_no_fault hfault hrename
    strict := fun onlyPublic ls => loadAll_of_strict
    onlyPublic := fun strict => loadAll_public files strict _
    again := fun strict onlyPublic => loadAll_again ⟨by simp, rfl⟩ }
  obtain ⟨ls, hls, hsorted, hall⟩ := (loadAll_of_no_fault hfault false).2 hnodup
  refine ⟨ls, hls, hsorted, hall.trans (.of_eq ?_)⟩
  exact List.filter_eq_self.mpr fun _ _ => rfl

/-- Two files that can be loaded, one that is not in YAML and one that is no definition file. -/
def mixedFolder : FileTree :=
  folder [("b.yml", "id: x\nname: X\n"), ("a.yml", "id: y\nname: Y\n"), ("c.yml", "id: [\n"),
    ("d.txt", "id: z\n")]

/-- The first file gets the last name. -/
def toTheEnd (name : String) : String := if name = "a.yml" then "z.YAML" else name

theorem found_mixedFolder : found mixedFolder ["defs"] =
    [["defs", "a.yml"], ["defs", "b.yml"], ["defs", "c.yml"]] := by
  have hnames : (mixedFolder.names ["defs"]).mergeSort (· ≤ ·) =
      ["a.yml", "b.yml", "c.yml", "d.txt"] := by
    change ["b.yml", "a.yml", "c.yml", "d.txt"].mergeSort (· ≤ ·) = _
    simp [List.mergeSort, List.MergeSort.Internal.splitInTwo]
  rw [found, definitionFiles, hnames]
  decide +kernel

theorem byContents_of_mixedFolder :
    (∀ p ∈ found mixedFolder ["defs"],
      (∃ d, (Definition.load (mixedFolder.readText p)).outcome = .ok d) ∨
        ∃ cause, (Definition.load (mixedFolder.readText p)).outcome = .error (.load cause)) ∧
    ByContents mixedFolder ["defs"] ∧ Renames mixedFolder ["defs"] toTheEnd ∧
    ∃ ls, (loadAll mixedFolder false false { directory := ["defs"] }).1.outcome = .ok ls ∧
      ls.map (·.definition.id) = ["x", "y"] := by
  have hfault : firstFault? mixedFolder (found mixedFolder ["defs"]) = none := by
    rw [found_mixedFolder]
    decide +kernel
  have hids : (definitionsIn mixedFolder (found mixedFolder ["defs"])).map (·.id) = ["y", "x"] := by
    rw [found_mixedFolder]
    decide +kernel
  have hloadable : ∀ p ∈ found mixedFolder ["defs"],
      (∃ d, (Definition.load (mixedFolder.readText p)).outcome = .ok d) ∨
        ∃ cause, (Definition.load (mixedFolder.readText p)).outcome = .error (.load cause) := by
    intro p hp
    have hnone := List.findSome?_eq_none_iff.mp hfault p hp
    rcases Definition.load_trichotomy (mixedFolder.readText p) with
      ⟨d, hd, -⟩ | ⟨cause, hcause, -⟩ | ⟨fault, -, hsome⟩
    · exact .inl ⟨d, hd⟩
    · exact .inr ⟨cause, hcause⟩
    · rw [hnone] at hsome
      cases hsome
  have hcontents := byContents_of_loadable hloadable
  have hrenames : Renames mixedFolder ["defs"] toTheEnd :=
    ⟨by decide +kernel, by decide +kernel, by decide +kernel⟩
  obtain ⟨ls, hls, hsorted, hperm⟩ := hcontents.distinct (by rw [hids]; decide)
  refine ⟨hloadable, hcontents, hrenames, ls, hls, ?_⟩
  have hmap := hperm.map (·.id)
  rw [hids, List.map_map] at hmap
  have hordered : (ls.map (·.definition.id)).Pairwise (· < ·) := List.pairwise_map.mpr hsorted
  exact (hmap.trans (List.Perm.swap "x" "y" [])).eq_of_pairwise
    (fun _ _ _ _ hab hba => absurd hba (String.lt_asymm hab)) hordered (by decide)

end TrackerSearch.Registry
