import Mathlib.Data.List.Find
import TrackerSearch.FileTree

/-!
# Renaming in a directory

What is directly in a directory gets other names. As long as no two of them become the same, what a
name stands for goes along with it.
-/
namespace TrackerSearch

namespace FilePath

/-- A path after what is directly in the directory was renamed. -/
def renamed (directory : FilePath) (rename : String → String) (p : FilePath) : FilePath :=
  match p.reverse with
  | name :: above => if above.reverse == directory then directory ++ [rename name] else p
  | [] => p

variable {directory p : FilePath} {rename : String → String} {name : String}

/-- A path leads into the directory, or renaming leaves it alone. -/
theorem in_or_outside (directory p : FilePath) (rename : String → String) :
    (∃ name, p = directory ++ [name]) ∨
      (∀ name, p ≠ directory ++ [name]) ∧ renamed directory rename p = p := by
  by_cases h : ∃ name, p = directory ++ [name]
  · exact .inl h
  · refine .inr ⟨fun name hp => h ⟨name, hp⟩, ?_⟩
    unfold renamed
    split
    · rename_i name above hreverse
      have hp : p = above.reverse ++ [name] := by
        rw [← p.reverse_reverse, hreverse, List.reverse_cons]
      rw [if_neg]
      intro hdirectory
      exact h ⟨name, by rw [hp, beq_iff_eq.mp hdirectory]⟩
    · rfl

theorem renamed_concat (directory : FilePath) (rename : String → String) (name : String) :
    renamed directory rename (directory ++ [name]) = directory ++ [rename name] := by
  simp [renamed]

theorem concat_inj {a b : String} : directory ++ [a] = directory ++ [b] ↔ a = b := by simp

theorem concat_ne_self (directory : FilePath) (name : String) : directory ++ [name] ≠ directory := by
  intro h
  have hlength := congrArg List.length h
  simp at hlength

/-- The directory itself is not renamed, and nothing is renamed to it. -/
theorem renamed_eq_directory_iff : renamed directory rename p = directory ↔ p = directory := by
  rcases in_or_outside directory p rename with ⟨name, rfl⟩ | ⟨-, hsame⟩
  · rw [renamed_concat]
    exact iff_of_false (concat_ne_self _ _) (concat_ne_self _ _)
  · rw [hsame]

end FilePath

namespace FileTree

variable {t : FileTree} {directory : FilePath} {rename : String → String} {name : String}

/-- The tree after what is directly in the directory was renamed. -/
def renamed (t : FileTree) (directory : FilePath) (rename : String → String) : FileTree where
  entries := t.entries.map fun (p, c) => (FilePath.renamed directory rename p, c)

/-- The name that an entry has in the directory. -/
def nameIn? (directory : FilePath) (entry : FilePath × FileContent) : Option String :=
  match entry.1.reverse with
  | name :: above => if above.reverse == directory then some name else none
  | [] => none

theorem names_eq (t : FileTree) (directory : FilePath) :
    t.names directory = t.entries.filterMap (nameIn? directory) := rfl

theorem nameIn?_eq_some_iff {entry : FilePath × FileContent} :
    nameIn? directory entry = some name ↔ entry.1 = directory ++ [name] := by
  constructor
  · intro h
    unfold nameIn? at h
    split at h
    · rename_i name' above hreverse
      split at h
      · rename_i hdirectory
        obtain rfl := Option.some.inj h
        rw [← beq_iff_eq.mp hdirectory, ← entry.1.reverse_reverse, hreverse, List.reverse_cons]
      · cases h
    · cases h
  · intro h
    simp [nameIn?, h]

theorem mem_names : name ∈ t.names directory ↔ ∃ c, (directory ++ [name], c) ∈ t.entries := by
  rw [names_eq, List.mem_filterMap]
  constructor
  · rintro ⟨entry, hentry, hname⟩
    exact ⟨entry.2, by rw [← nameIn?_eq_some_iff.mp hname]; exact hentry⟩
  · rintro ⟨c, hentry⟩
    exact ⟨_, hentry, nameIn?_eq_some_iff.mpr rfl⟩

theorem names_renamed (t : FileTree) (directory : FilePath) (rename : String → String) :
    (t.renamed directory rename).names directory = (t.names directory).map rename := by
  rw [names_eq, names_eq, renamed, List.filterMap_map, List.map_filterMap]
  congr 1
  funext ⟨p, c⟩
  rcases FilePath.in_or_outside directory p rename with ⟨name, rfl⟩ | ⟨hnot, hsame⟩
  · have hbefore : nameIn? directory (directory ++ [name], c) = some name :=
      nameIn?_eq_some_iff.mpr rfl
    have hafter : nameIn? directory (directory ++ [rename name], c) = some (rename name) :=
      nameIn?_eq_some_iff.mpr rfl
    simp only [Function.comp_apply, FilePath.renamed_concat, hbefore, hafter, Option.map_some]
  · have hnone : nameIn? directory (p, c) = none :=
      Option.eq_none_iff_forall_ne_some.mpr fun name h => hnot name (nameIn?_eq_some_iff.mp h)
    simp only [Function.comp_apply, hsame, hnone, Option.map_none]

/-- What a tree has at a path, if the renamed one has nothing else at the renamed path. -/
theorem get?_renamed {p q : FilePath} (hempty : q.isEmpty = p.isEmpty)
    (h : ∀ entry ∈ t.entries, FilePath.renamed directory rename entry.1 = q ↔ entry.1 = p) :
    (t.renamed directory rename).get? q = t.get? p := by
  have hfind : (t.renamed directory rename).entries.find? (·.1 == q) =
      (t.entries.find? (·.1 == p)).map fun (p, c) => (FilePath.renamed directory rename p, c) := by
    rw [renamed, List.find?_map]
    refine congrArg _ (List.find?_congr fun entry hentry => ?_)
    simp [h entry hentry]
  rw [get?, get?, hfind, hempty]
  cases t.entries.find? (·.1 == p) <;> rfl

theorem get?_directory_renamed :
    (t.renamed directory rename).get? directory = t.get? directory :=
  get?_renamed rfl fun _ _ => FilePath.renamed_eq_directory_iff

/-- A name takes along what it stands for, if no other one becomes the same. -/
theorem get?_renamed_concat
    (hinj : ∀ other ∈ t.names directory, rename other = rename name → other = name) :
    (t.renamed directory rename).get? (directory ++ [rename name]) = t.get? (directory ++ [name]) := by
  have hnonempty (name : String) : (directory ++ [name]).isEmpty = false := by
    cases directory <;> rfl
  refine get?_renamed ((hnonempty _).trans (hnonempty _).symm) fun entry hentry => ?_
  obtain ⟨p, c⟩ := entry
  rcases FilePath.in_or_outside directory p rename with ⟨other, rfl⟩ | ⟨hnot, hsame⟩
  · rw [FilePath.renamed_concat, FilePath.concat_inj, FilePath.concat_inj]
    exact ⟨hinj other (mem_names.mpr ⟨c, hentry⟩), congrArg rename⟩
  · rw [hsame]
    exact iff_of_false (hnot _) (hnot _)

end FileTree
end TrackerSearch
