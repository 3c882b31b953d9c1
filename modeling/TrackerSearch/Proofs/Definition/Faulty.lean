import TrackerSearch.Proofs.Definition.Lenience

/-!
# Faults of a registry and their files

A registry over a directory looks for the files in it once. Whatever it is asked for then, all at
once or by identifiers one after another, a fault that comes of it is the fault of one of these
files.
-/
namespace TrackerSearch.Registry

variable {files : FileTree} {r : Registry} {id : String} {f : Fault} {paths : List FilePath}
  {directory : FilePath}

/-- Some definition file of a directory has the fault. -/
def SomeFault (files : FileTree) (directory : FilePath) (f : Fault) : Prop :=
  ∃ p ∈ found files directory, Definition.faultIn? (files.readText p) = some f

theorem someFault_of_loadAll {onlyPublic : Bool}
    (h : (loadAll files false onlyPublic { directory }).1.outcome = .error (.fault f)) :
    SomeFault files directory f := by
  obtain ⟨outcome, hends, hloaded⟩ := loadAll_of_new files directory onlyPublic
  rw [hloaded] at h
  unfold EndsAs at hends
  split at hends
  case h_1 =>
    subst hends
    cases h
  case h_2 fault _ hfirst =>
    subst hends
    obtain rfl := Failure.fault.inj (Except.error.inj h)
    exact List.exists_of_findSome?_eq_some hfirst
  case h_3 =>
    obtain ⟨ls, rfl, -⟩ := hends
    cases h

theorem fault_of_findPath (h : findPath files id paths = .error (.fault f)) :
    ∃ p ∈ paths, Definition.faultIn? (files.readText p) = some f := by
  induction paths with
  | nil => cases h
  | cons p paths ih =>
    rw [findPath] at h
    rcases Definition.peekId_cases (files.readText p) with
      ⟨peeked, hpeek, -⟩ | ⟨fault, hpeek, hfault⟩
    · rw [hpeek] at h
      change (if peeked = some id then _ else _) = _ at h
      split at h
      · cases h
      · obtain ⟨p', hp', hfault⟩ := ih h
        exact ⟨p', List.mem_cons_of_mem p hp', hfault⟩
    · rw [hpeek] at h
      obtain rfl := Failure.fault.inj (Except.error.inj h)
      exact ⟨p, List.mem_cons_self, hfault⟩

/-- A registry over a directory, whose files are found once. -/
structure Over (files : FileTree) (directory : FilePath) (r : Registry) : Prop where
  wellKept : WellKept r
  directory_eq : r.discovered = false → r.directory = directory
  paths_eq : r.discovered = true → r.paths = found files directory

theorem over_new (files : FileTree) (directory : FilePath) :
    Over files directory { directory } where
  wellKept := ⟨by simp, rfl⟩
  directory_eq _ := rfl
  paths_eq h := by cases h

theorem Over.paths_discover (h : r.Over files directory) :
    (r.discover files).1.paths = found files directory := by
  cases hr : r.discovered with
  | true => rw [discover_of_discovered hr, h.paths_eq hr]
  | false => rw [discover_of_new hr, h.directory_eq hr]

theorem Over.get (h : r.Over files directory) (id : String) :
    (r.get files id).2.Over files directory := by
  have hgrows := grows_discover_call h.wellKept files (.get id)
  have hdiscovered := hgrows.discovered_eq.trans (discovered_discover files r)
  refine ⟨hgrows.wellKept, fun hnot => ?_, fun _ => ?_⟩
  · exact Bool.noConfusion (hdiscovered.symm.trans hnot)
  · exact hgrows.paths_eq.trans h.paths_discover

theorem Over.someFault (h : r.Over files directory)
    (hfault : (r.get files id).1.outcome = .error (.fault f)) : SomeFault files directory f := by
  unfold SomeFault
  rw [← h.paths_discover]
  simp only [Registry.get] at hfault
  split at hfault
  · cases hfault
  · split at hfault
    · rename_i hpath
      obtain rfl := Except.error.inj hfault
      exact fault_of_findPath hpath
    · cases hfault
    · rename_i path hpath
      obtain ⟨hmem, -⟩ := findPath_eq_some hpath
      refine ⟨path, hmem, ?_⟩
      rcases Definition.load_trichotomy (files.readText path) with
        ⟨d, hd, -⟩ | ⟨cause, hcause, -⟩ | ⟨fault, hload, hsome⟩
      · rw [(load_of_ok _ hd).1] at hfault
        cases hfault
      · rw [(load_of_error _ hcause).1] at hfault
        cases hfault
      · rw [(load_of_error _ hload).1] at hfault
        obtain rfl := Failure.fault.inj (Except.error.inj hfault)
        exact hsome

end TrackerSearch.Registry
