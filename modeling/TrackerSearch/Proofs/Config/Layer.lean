import Mathlib.Data.List.Nodup
import TrackerSearch.Config.Layer
import TrackerSearch.Proofs.Document.Entries

/-!
# One layer over another

A setting has one place in the shape of sections, and no two settings share it. So what a layer
gives for a setting ends up at its place alone, and laying layers over one another leaves at each
place what the highest of them gives (`get?_stack`).
-/
namespace TrackerSearch

/-! ## Places -/

namespace Setting

variable {s t : Setting} {name key : String}

theorem mem_all (s : Setting) : s ∈ all := by cases s <;> decide

theorem nodup_all : all.Nodup := by decide

theorem place_ne (h : s ≠ t) : s.place ≠ t.place := fun hplace =>
  h (List.inj_on_of_nodup_map (f := place) (by decide) s.mem_all t.mem_all hplace)

theorem flatKey_ne (h : s ≠ t) : s.flatKey ≠ t.flatKey := fun hkey =>
  h (List.inj_on_of_nodup_map (f := flatKey) (by decide) s.mem_all t.mem_all hkey)

theorem section_mem (h : s.place = (some name, key)) : name ∈ Config.sections := by
  cases s <;> cases h <;> decide

theorem key_not_mem (h : s.place = (none, key)) : key ∉ Config.sections := by
  cases s <;> cases h <;> decide

theorem flatKey_not_mem (s : Setting) : s.flatKey ∉ Config.sections := by cases s <;> decide

theorem flatKey_of_general (h : s.place = (none, key)) : s.flatKey = key := by
  cases s <;> cases h <;> rfl

end Setting

namespace Config

open Document

variable {entries data lower upper : Entries} {s t : Setting} {d : Document}

/-! ## Putting a value at a place -/

theorem sectionOf_insert_self (entries : Entries) (name : String) (inner : Entries) :
    sectionOf (Document.insert entries (.str name) (.map inner)) name = some inner := by
  rw [sectionOf, find?_insert_self]

theorem sectionOf_insert_of_ne {k : Document} {name : String} (h : k ≠ .str name)
    (entries : Entries) (d : Document) :
    sectionOf (Document.insert entries k d) name = sectionOf entries name := by
  rw [sectionOf, find?_insert_of_ne h, sectionOf]

theorem get?_of_general {key : String} (h : s.place = (none, key)) :
    get? entries s = find? entries key := by
  rw [get?, h]

theorem get?_of_section {name key : String} (h : s.place = (some name, key)) :
    get? entries s = (sectionOf entries name).bind (find? · key) := by
  rw [get?, h]

theorem put_of_general {key : String} (h : s.place = (none, key)) :
    put entries s d = Document.insert entries (.str key) d := by
  rw [put, h]

theorem put_of_section {name key : String} (h : s.place = (some name, key)) :
    put entries s d = Document.insert entries (.str name)
      (.map (Document.insert ((sectionOf entries name).getD []) (.str key) d)) := by
  rw [put, h]

theorem get?_put_self (entries : Entries) (s : Setting) (d : Document) :
    get? (put entries s d) s = some d := by
  cases hs : s.place with
  | mk name key =>
    cases name with
    | none => rw [put_of_general hs, get?_of_general hs, find?_insert_self]
    | some name =>
      rw [put_of_section hs, get?_of_section hs, sectionOf_insert_self, Option.bind_some,
        find?_insert_self]

theorem get?_put_of_ne (h : s ≠ t) (entries : Entries) (d : Document) :
    get? (put entries s d) t = get? entries t := by
  have hplace := Setting.place_ne h
  rcases hs : s.place with ⟨_ | name, key⟩ <;> rcases ht : t.place with ⟨_ | name', key'⟩
  · have hkey : Document.str key ≠ .str key' := by
      rintro hkey
      exact hplace (by rw [hs, ht, Document.str.inj hkey])
    rw [put_of_general hs, get?_of_general ht, get?_of_general ht, find?_insert_of_ne hkey]
  · have hkey : Document.str key ≠ .str name' := by
      rintro hkey
      exact Setting.key_not_mem hs (Document.str.inj hkey ▸ Setting.section_mem ht)
    rw [put_of_general hs, get?_of_section ht, get?_of_section ht, sectionOf_insert_of_ne hkey]
  · have hkey : Document.str name ≠ .str key' := by
      rintro hkey
      exact Setting.key_not_mem ht (Document.str.inj hkey ▸ Setting.section_mem hs)
    rw [put_of_section hs, get?_of_general ht, get?_of_general ht, find?_insert_of_ne hkey]
  · rw [put_of_section hs, get?_of_section ht, get?_of_section ht]
    by_cases hname : name = name'
    · subst hname
      have hkey : Document.str key ≠ .str key' := by
        rintro hkey
        exact hplace (by rw [hs, ht, Document.str.inj hkey])
      rw [sectionOf_insert_self, Option.bind_some, find?_insert_of_ne hkey]
      cases sectionOf entries name <;> rfl
    · rw [sectionOf_insert_of_ne fun he => hname (Document.str.inj he)]

/-- Put values at the places of some settings. -/
theorem get?_putAll (value : Setting → Option Document) {settings : List Setting}
    (hnodup : settings.Nodup) (out : Entries) (s : Setting) :
    get? (settings.foldl (fun out s =>
        match value s with
        | some d => put out s d
        | none => out) out) s =
      if s ∈ settings then (value s).or (get? out s) else get? out s := by
  induction settings generalizing out with
  | nil => rfl
  | cons t settings ih =>
    obtain ⟨ht, hnodup⟩ := List.nodup_cons.mp hnodup
    rw [List.foldl_cons, ih hnodup]
    by_cases hst : s = t
    · subst hst
      rw [if_neg ht, if_pos List.mem_cons_self]
      cases value s with
      | none => rfl
      | some d => exact get?_put_self out s d
    · have hout : get? (match value t with
          | some d => put out t d
          | none => out) s = get? out s := by
        cases value t with
        | none => rfl
        | some d => exact get?_put_of_ne (Ne.symm hst) out d
      simp only [hout, List.mem_cons, hst, false_or]

/-- The layer with one value for each setting. -/
def placed (value : Setting → Document) : Entries :=
  Setting.all.foldl (fun out s => put out s (value s)) []

theorem get?_placed (value : Setting → Document) (s : Setting) :
    get? (placed value) s = some (value s) := by
  have h := get?_putAll (fun s => some (value s)) Setting.nodup_all [] s
  rw [if_pos s.mem_all] at h
  exact h

/-! ## Layers by sections -/

/-- What a layer gives for a setting: what is under its flat key, or else under its key in its
section, if that is a mapping. -/
def given? (layer : Entries) (s : Setting) : Option Document :=
  (find? layer s.flatKey).or (get? layer s)

/-- The sections of a layer that are mappings. -/
def blocks (data : Entries) (names : List String) : Entries :=
  names.filterMap fun name => (sectionOf data name).map fun inner => (.str name, .map inner)

theorem find?_blocks (data : Entries) (names : List String) (name : String) :
    find? (blocks data names) name =
      if name ∈ names then (sectionOf data name).map .map else none := by
  induction names with
  | nil => rfl
  | cons first names ih =>
    unfold blocks at ih ⊢
    rw [List.filterMap_cons]
    by_cases hname : name = first
    · subst hname
      cases hs : sectionOf data name with
      | none => simp [ih, hs]
      | some inner => simp [find?_cons_self]
    · have hne : Document.str first ≠ .str name := fun he => hname (Document.str.inj he).symm
      cases sectionOf data first with
      | none => simp [ih, hname]
      | some inner => simp [find?_cons_of_ne hne, ih, hname]

theorem sectionOf_blocks {names : List String} {name : String} (h : name ∈ names)
    (data : Entries) : sectionOf (blocks data names) name = sectionOf data name := by
  rw [sectionOf, find?_blocks, if_pos h]
  cases sectionOf data name <;> rfl

/-- What a layer gives for a setting is at its place once the layer is in the shape of sections. -/
theorem get?_sectioned (data : Entries) (s : Setting) :
    get? (sectioned data) s = given? data s := by
  have h := get?_putAll (fun s => find? data s.flatKey) Setting.nodup_all (blocks data sections) s
  rw [if_pos s.mem_all] at h
  refine h.trans ?_
  rw [given?]
  rcases hs : s.place with ⟨_ | name, key⟩
  · rw [get?_of_general hs, get?_of_general hs, find?_blocks, if_neg (Setting.key_not_mem hs),
      Setting.flatKey_of_general hs]
    cases find? data key <;> rfl
  · rw [get?_of_section hs, get?_of_section hs, sectionOf_blocks (Setting.section_mem hs)]

/-- Keys are distinct, and sections are mappings with distinct keys. -/
structure BySections (entries : Entries) : Prop where
  distinct : Distinct entries
  inner : ∀ name ∈ sections, ∀ d, find? entries name = some d → ∃ inner, d = .map inner ∧
    Distinct inner

/-- The sections of a layer have distinct keys. -/
def WellFormed (layer : Entries) : Prop :=
  ∀ name ∈ sections, ∀ inner, sectionOf layer name = some inner → Distinct inner

theorem BySections.wellFormed (h : BySections entries) : WellFormed entries := by
  intro name hname inner hinner
  unfold sectionOf at hinner
  cases hd : find? entries name with
  | none => rw [hd] at hinner; cases hinner
  | some d =>
    obtain ⟨inner', rfl, hdistinct⟩ := h.inner name hname d hd
    rw [hd] at hinner
    exact Option.some.inj hinner ▸ hdistinct

theorem BySections.put (h : BySections entries) (s : Setting) (d : Document) :
    BySections (put entries s d) := by
  rcases hs : s.place with ⟨_ | name, key⟩
  · rw [put_of_general hs]
    refine ⟨distinct_insert h.distinct _ _, fun name hname d' hd' => h.inner name hname d' ?_⟩
    rwa [find?_insert_of_ne] at hd'
    intro he
    exact Setting.key_not_mem hs (Document.str.inj he ▸ hname)
  · rw [put_of_section hs]
    refine ⟨distinct_insert h.distinct _ _, fun name' hname' d' hd' => ?_⟩
    by_cases hname : name' = name
    · subst hname
      rw [find?_insert_self] at hd'
      refine ⟨_, (Option.some.inj hd').symm, distinct_insert ?_ _ _⟩
      unfold sectionOf
      cases hfind : find? entries name' with
      | none => exact distinct_nil
      | some d'' =>
        obtain ⟨inner, rfl, hinner⟩ := h.inner name' hname' d'' hfind
        exact hinner
    · rw [find?_insert_of_ne fun he => hname (Document.str.inj he).symm] at hd'
      exact h.inner name' hname' d' hd'

theorem bySections_putAll (value : Setting → Option Document) (settings : List Setting)
    {out : Entries} (h : BySections out) :
    BySections (settings.foldl (fun out s =>
      match value s with
      | some d => Config.put out s d
      | none => out) out) := by
  induction settings generalizing out with
  | nil => exact h
  | cons s settings ih =>
    rw [List.foldl_cons]
    refine ih ?_
    cases value s with
    | none => exact h
    | some d => exact h.put s d

theorem distinct_blocks (data : Entries) {names : List String} (h : names.Nodup) :
    Distinct (blocks data names) := by
  unfold Distinct blocks
  rw [List.map_filterMap]
  refine List.pairwise_filterMap.mpr (h.imp fun {name name'} hne k hk k' hk' => ?_)
  simp only [Option.map_map, Option.map_eq_some_iff, Function.comp_apply] at hk hk'
  obtain ⟨_, -, rfl⟩ := hk
  obtain ⟨_, -, rfl⟩ := hk'
  exact sameKey_str_of_ne fun he => hne (Document.str.inj he)

theorem bySections_sectioned (h : WellFormed data) : BySections (sectioned data) := by
  have hblocks : BySections (blocks data sections) := by
    refine ⟨distinct_blocks data (by decide), fun name hname d hd => ?_⟩
    rw [find?_blocks, if_pos hname] at hd
    obtain ⟨inner, hinner, rfl⟩ := Option.map_eq_some_iff.mp hd
    exact ⟨inner, rfl, h name hname inner hinner⟩
  exact bySections_putAll (fun s => find? data s.flatKey) Setting.all hblocks

/-! ## Merging -/

/-- At a key of the upper mapping its value is laid over that of the lower one; anything else stays
as it is below. -/
theorem find?_merge (h : Distinct upper) (lower : Entries) (key : String) :
    find? (merge lower upper) key =
      match find? upper key with
      | some d => some (overlay (find? lower key) d)
      | none => find? lower key := by
  induction upper generalizing lower with
  | nil => rw [merge, find?_nil]
  | cons entry upper ih =>
    obtain ⟨k, v⟩ := entry
    rw [merge, ih h.tail]
    by_cases hk : k = .str key
    · subst hk
      rw [h.find?_tail, find?_cons_self]
      exact find?_insert_self ..
    · rw [find?_cons_of_ne hk, find?_insert_of_ne hk]

theorem overlay_of_plain (h : ∀ inner, d ≠ .map inner) (below : Option Document) :
    overlay below d = d := by
  rw [overlay]
  exact h

theorem find?_merge_plain (hu : Distinct upper) (key : String)
    (h : ∀ d, find? upper key = some d → ∀ inner, d ≠ .map inner) (lower : Entries) :
    find? (merge lower upper) key = (find? upper key).or (find? lower key) := by
  rw [find?_merge hu]
  cases hd : find? upper key with
  | none => rfl
  | some d =>
    dsimp only
    rw [overlay_of_plain (h d hd)]
    rfl

/-- The section of two layers: that of one of them, or one over the other. -/
theorem sectionOf_merge (hu : BySections upper) {name : String} (hname : name ∈ sections)
    (lower : Entries) :
    sectionOf (merge lower upper) name =
      match sectionOf upper name, sectionOf lower name with
      | some inner, some below => some (merge below inner)
      | some inner, none => some inner
      | none, below => below := by
  unfold sectionOf
  rw [find?_merge hu.distinct]
  cases hd : find? upper name with
  | none => rfl
  | some d =>
    obtain ⟨inner, rfl, -⟩ := hu.inner name hname d hd
    cases find? lower name with
    | none => rfl
    | some below => cases below <;> rfl

/-- A setting has the value of the upper layer, if that gives one that is no mapping. -/
theorem get?_merge (hu : BySections upper)
    (h : ∀ d, get? upper s = some d → ∀ inner, d ≠ .map inner) (lower : Entries) :
    get? (merge lower upper) s = (get? upper s).or (get? lower s) := by
  rcases hs : s.place with ⟨_ | name, key⟩
  · simp only [get?_of_general hs] at h ⊢
    exact find?_merge_plain hu.distinct key h lower
  · have hname := Setting.section_mem hs
    simp only [get?_of_section hs] at h ⊢
    rw [sectionOf_merge hu hname]
    cases hupper : sectionOf upper name with
    | none => rfl
    | some inner =>
      have hinner : Distinct inner := hu.wellFormed name hname inner hupper
      rw [hupper] at h
      cases sectionOf lower name with
      | none => exact (Option.or_none).symm
      | some below => exact find?_merge_plain hinner key h below

/-- A layer whose settings have values that are no mappings. -/
structure Plain (layer : Entries) : Prop where
  wellFormed : WellFormed layer
  values : ∀ s d, given? layer s = some d → ∀ inner, d ≠ .map inner

theorem get?_merge_sectioned {layer : Entries} (h : Plain layer) (below : Entries) (s : Setting) :
    get? (merge below (sectioned layer)) s = (given? layer s).or (get? below s) := by
  rw [get?_merge (bySections_sectioned h.wellFormed), get?_sectioned]
  rw [get?_sectioned]
  exact h.values s

/-- A setting has the value of the highest layer that gives one. -/
theorem get?_stack {layers : List Entries} (h : ∀ layer ∈ layers, Plain layer) (s : Setting) :
    get? (stack layers) s = layers.reverse.findSome? (given? · s) := by
  have hfold : ∀ below : Entries,
      get? (layers.foldl (fun below layer => merge below (sectioned layer)) below) s =
        (layers.reverse.findSome? (given? · s)).or (get? below s) := by
    induction layers with
    | nil => exact fun _ => rfl
    | cons layer layers ih =>
      intro below
      obtain ⟨hlayer, hlayers⟩ := List.forall_mem_cons.mp h
      rw [List.foldl_cons, ih hlayers, get?_merge_sectioned hlayer, List.reverse_cons,
        List.findSome?_append, List.findSome?_singleton, Option.or_assoc]
  have hnil : get? [] s = none := by
    rcases hs : s.place with ⟨_ | name, key⟩
    · rw [get?_of_general hs, find?_nil]
    · rw [get?_of_section hs]
      rfl
  rw [stack, hfold, hnil, Option.or_none]

end Config
end TrackerSearch
