import TrackerSearch.FileTree
import TrackerSearch.Proofs.Text.Blank
import TrackerSearch.Proofs.Text.Pieces

/-!
# Written paths

A path that is read from a text has names without slashes in them, and its own text is read as the
same path again. Putting a home directory in the place of a tilde keeps that; and what it gives
starts with a tilde only below a home directory that is relative itself.
-/
namespace TrackerSearch

open Text

namespace Location

variable {l l' : Location} {homes : Homes} {dir s : String}

/-- The names along a path as a text gives them. -/
structure Written (l : Location) : Prop where
  slashes : l.slashes ≤ 2
  names : ∀ name ∈ l.names, name ≠ "" ∧ name ≠ "." ∧ '/' ∉ name.toList

/-- The path starts with a name in which a home directory could stand. -/
def StartsWithTilde (l : Location) : Prop :=
  l.slashes = 0 ∧ ∃ first rest, l.names = first :: rest ∧ first.toList.head? = some '~'

/-- More names at the end of a path. -/
theorem Written.append {rest : FilePath} (h : l.Written)
    (hrest : ∀ name ∈ rest, name ≠ "" ∧ name ≠ "." ∧ '/' ∉ name.toList) :
    Written ⟨l.slashes, l.names ++ rest⟩ :=
  ⟨h.slashes, List.forall_mem_append.mpr ⟨h.names, hrest⟩⟩

theorem written_ofString (s : String) : (ofString s).Written where
  slashes := by
    unfold ofString
    dsimp only
    split <;> decide
  names name hname := by
    obtain ⟨piece, hpiece, rfl⟩ := List.mem_map.mp hname
    obtain ⟨hmem, hkept⟩ := List.mem_filter.mp hpiece
    simp only [ne_eq, Bool.and_eq_true, decide_not, Bool.not_eq_true',
      decide_eq_false_iff_not] at hkept
    refine ⟨fun he => hkept.1 (String.ofList_eq_empty_iff.mp he), fun he => hkept.2 ?_, ?_⟩
    · rw [← String.toList_ofList (l := piece), he]
      rfl
    · rw [String.toList_ofList]
      intro hslash
      have hne := of_mem_splitBy hmem '/' hslash
      exact absurd hne (by decide)

/-! ## Reading what is written -/

theorem toList_text (h : ¬(l.slashes = 0 ∧ l.names = [])) :
    l.text.toList = List.replicate l.slashes '/' ++ joinWith ['/'] (l.names.map String.toList) := by
  rw [text, if_neg h, String.toList_append, String.toList_ofList, String.toList_intercalate,
    joinWith_eq_intercalate]
  rfl

theorem Written.filter_names (h : l.Written) :
    (l.names.map String.toList).filter (fun n => n ≠ [] && n ≠ ['.']) =
      l.names.map String.toList := by
  refine List.filter_eq_self.mpr fun piece hpiece => ?_
  obtain ⟨name, hname, rfl⟩ := List.mem_map.mp hpiece
  obtain ⟨hempty, hdot, -⟩ := h.names name hname
  have hnil : name.toList ≠ [] := fun he => hempty (String.toList_eq_nil_iff.mp he)
  have hpoint : name.toList ≠ ['.'] := fun he => hdot (String.toList_inj.mp he)
  simp [hnil, hpoint]

/-- The names along a written path are read from its text. -/
theorem Written.ofString_names (h : l.Written) : FilePath.ofString l.text = l.names := by
  by_cases hdot : l.slashes = 0 ∧ l.names = []
  · rw [text, if_pos hdot, hdot.2]
    rfl
  have hread : FilePath.ofString l.text =
      ((splitBy (· == '/') (joinWith ['/'] (l.names.map String.toList))).filter fun n =>
        n ≠ [] && n ≠ ['.']).map String.ofList := by
    rw [FilePath.ofString, toList_text hdot, splitBy_replicate_append (by decide),
      List.filter_append, List.filter_eq_nil_iff.mpr, List.nil_append]
    intro piece hpiece
    rw [List.eq_of_mem_replicate hpiece]
    decide
  rw [hread]
  cases hnames : l.names with
  | nil => rfl
  | cons first rest =>
    rw [← hnames, splitBy_joinWith, h.filter_names, List.map_map]
    · exact (List.map_congr_left fun name _ => String.ofList_toList).trans (List.map_id _)
    · simp [hnames]
    · intro piece hpiece
      obtain ⟨name, hname, rfl⟩ := List.mem_map.mp hpiece
      exact (h.names name hname).2.2

/-- The names do not add to the slashes at the start. -/
theorem Written.takeWhile_text (h : l.Written) :
    (l.text.toList.takeWhile (· = '/')).length = l.slashes := by
  by_cases hdot : l.slashes = 0 ∧ l.names = []
  · rw [text, if_pos hdot, hdot.1]
    rfl
  have hnames : (joinWith ['/'] (l.names.map String.toList)).takeWhile (· = '/') = [] := by
    cases hnames : l.names with
    | nil => rfl
    | cons first rest =>
      obtain ⟨hempty, -, hslash⟩ := h.names first (hnames ▸ List.mem_cons_self)
      cases hfirst : first.toList with
      | nil => exact absurd (String.toList_eq_nil_iff.mp hfirst) hempty
      | cons c cs =>
        rw [hfirst] at hslash
        have hc : c ≠ '/' := fun he => hslash (he ▸ List.mem_cons_self)
        obtain ⟨more, hmore⟩ := prefix_joinWith ['/'] first.toList (rest.map String.toList)
        rw [List.map_cons, ← hmore, hfirst]
        exact List.takeWhile_cons_of_neg (by simpa using hc)
  rw [toList_text hdot, List.takeWhile_append_of_pos, hnames, List.append_nil,
    List.length_replicate]
  intro c hc
  simpa using List.eq_of_mem_replicate hc

/-- The text of a written path stands for the path. -/
theorem Written.ofString_text (h : l.Written) : ofString l.text = l := by
  obtain ⟨slashes, names⟩ := l
  have hslashes : slashes = 0 ∨ slashes = 1 ∨ slashes = 2 := by
    have hle := h.slashes
    dsimp only at hle
    omega
  rw [ofString, h.takeWhile_text, h.ofString_names]
  rcases hslashes with rfl | rfl | rfl <;> rfl

/-! ## Home directories -/

theorem startsWithTilde_iff : l.StartsWithTilde ↔ l.account?.isSome = true := by
  obtain ⟨slashes, names⟩ := l
  unfold StartsWithTilde account?
  split
  · rename_i first rest hslashes hnames
    dsimp only at hslashes hnames
    subst hslashes hnames
    cases hfirst : first.toList with
    | nil => simp [hfirst]
    | cons c name =>
      by_cases hc : c = '~'
      · subst hc
        simp [hfirst]
      · simp [hfirst, hc]
  · rename_i hother
    refine iff_of_false ?_ (by simp)
    rintro ⟨hslashes, first, rest, hnames, -⟩
    exact hother first rest hslashes hnames

theorem expandHome?_of_not_tilde (h : ¬l.StartsWithTilde) (homes : Homes) :
    l.expandHome? homes = some l := by
  have hnone : l.account? = none := by simpa [startsWithTilde_iff] using h
  rw [expandHome?, hnone]

theorem expandHome?_of_unknown {account : String} (haccount : l.account? = some account)
    (h : homes.directory? account = none) : l.expandHome? homes = none := by
  rw [expandHome?, haccount]
  exact Option.bind_eq_none_iff.mpr fun dir hdir => by cases h.symm.trans hdir

theorem written_ofDirectory (dir : String) : (ofDirectory dir).Written := by
  unfold ofDirectory
  exact written_ofString _

/-- A home directory is put in the place of the first name, which is that of its account. -/
theorem expandHome?_of_tilde (h : l.StartsWithTilde) (hexpand : l.expandHome? homes = some l') :
    ∃ account dir, l.account? = some account ∧ homes.directory? account = some dir ∧
      l' = ⟨(ofDirectory dir).slashes, (ofDirectory dir).names ++ l.names.drop 1⟩ := by
  obtain ⟨account, haccount⟩ := Option.isSome_iff_exists.mp (startsWithTilde_iff.mp h)
  rw [expandHome?, haccount] at hexpand
  obtain ⟨dir, hdir, hl⟩ := Option.bind_eq_some_iff.mp hexpand
  exact ⟨account, dir, haccount, hdir, (Option.some.inj hl).symm⟩

theorem written_of_expandHome? (h : l.Written) (hexpand : l.expandHome? homes = some l') :
    l'.Written := by
  by_cases htilde : l.StartsWithTilde
  · obtain ⟨_, dir, -, -, rfl⟩ := expandHome?_of_tilde htilde hexpand
    exact (written_ofDirectory dir).append fun name hname => h.names name (List.mem_of_mem_drop hname)
  · rw [expandHome?_of_not_tilde htilde] at hexpand
    exact Option.some.inj hexpand ▸ h

theorem slashes_ofString_ne_zero (h : s.toList.head? = some '/') : (ofString s).slashes ≠ 0 := by
  cases hs : s.toList with
  | nil => rw [hs] at h; cases h
  | cons c cs =>
    rw [hs] at h
    obtain rfl := Option.some.inj h
    unfold ofString
    rw [hs, List.takeWhile_cons_of_pos (by decide), List.length_cons]
    dsimp only
    split
    · rename_i hzero
      cases hzero
    all_goals decide

/-- A directory is not relative: it starts with a slash, or is not named at all. -/
def FromTop (dir : String) : Prop := ∀ c ∈ dir.toList.head?, c = '/'

theorem fromTop_of_head? (h : dir.toList.head? = some '/') : FromTop dir := by
  intro c hc
  rw [h] at hc
  exact (Option.some.inj hc).symm

theorem slashes_ofDirectory_ne_zero (h : FromTop dir) : (ofDirectory dir).slashes ≠ 0 := by
  unfold ofDirectory
  dsimp only
  split
  · decide
  · rename_i htop
    refine slashes_ofString_ne_zero ?_
    rw [String.toList_ofList]
    cases hhead : (trimEndBy (· = '/') dir.toList).head? with
    | none =>
      rw [List.head?_eq_none_iff] at hhead
      rw [hhead] at htop
      exact absurd rfl htop
    | some c => rw [h c (head?_trimEndBy hhead)]

end Location

/-- No home directory that is known is relative. -/
def Homes.FromTop (homes : Homes) : Prop :=
  ∀ account dir, homes.directory? account = some dir → Location.FromTop dir

theorem Homes.fromTop_of_forall {homes : Homes}
    (hown : ∀ dir, homes.own = some dir → Location.FromTop dir)
    (haccounts : ∀ entry ∈ homes.accounts, Location.FromTop entry.2) : homes.FromTop := by
  intro account dir h
  obtain ⟨hdir, -⟩ := Option.filter_eq_some_iff.mp h
  split at hdir
  · exact hown dir hdir
  · split at hdir
    · cases hdir
    · obtain ⟨before, after, haccount, -⟩ := List.lookup_eq_some_iff.mp hdir
      exact haccounts (account, dir) (by simp [haccount])

namespace Location

variable {l l' : Location} {homes : Homes}

/-- What is put in the place of a tilde does not start with a tilde again, below a home directory
that is not relative. -/
theorem not_tilde_of_expandHome? (hhomes : homes.FromTop)
    (hexpand : l.expandHome? homes = some l') : ¬l'.StartsWithTilde := by
  by_cases htilde : l.StartsWithTilde
  · obtain ⟨account, dir, -, hdir, rfl⟩ := expandHome?_of_tilde htilde hexpand
    rintro ⟨hslashes, -⟩
    dsimp only at hslashes
    exact slashes_ofDirectory_ne_zero (hhomes account dir hdir) hslashes
  · rw [expandHome?_of_not_tilde htilde] at hexpand
    exact Option.some.inj hexpand ▸ htilde

end Location
end TrackerSearch
