import TrackerSearch.Definition.Basic
import TrackerSearch.Proofs.Json.Table

/-!
# Mappings laid over others

What is laid over a mapping replaces the values of the shared keys where these stand, and its other
entries go behind. A key is found in the upper mapping or else in the lower one.
-/
namespace TrackerSearch.Table

variable {α β : Type} {t u : Table α} {key : String}

/-- No key stands twice. -/
def Distinct (t : Table α) : Prop := (t.map (·.1)).Nodup

instance (t : Table α) : Decidable t.Distinct := inferInstanceAs (Decidable (t.map (·.1)).Nodup)

/-- The entries of a mapping with the values of another one for the shared keys, and then the other
entries of that one. -/
def laidOver (t u : Table α) : Table α :=
  t.map (fun entry => (entry.1, (u.lookup? entry.1).getD entry.2)) ++
    u.filter fun entry => entry.1 ∉ t.map (·.1)

/-! ## Looking up -/

theorem lookup?_nil (key : String) : lookup? ([] : Table α) key = none := rfl

theorem lookup?_cons (entry : String × α) (t : Table α) (key : String) :
    lookup? (entry :: t) key = if entry.1 = key then some entry.2 else t.lookup? key := by
  by_cases h : entry.1 = key <;> simp [lookup?, h]

theorem lookup?_append (t u : Table α) (key : String) :
    lookup? (t ++ u) key = (t.lookup? key).or (u.lookup? key) := by
  rw [lookup?, List.find?_append]
  cases h : t.find? (·.1 == key) <;> simp [lookup?, h]

theorem lookup?_eq_none_iff : t.lookup? key = none ↔ key ∉ t.map (·.1) := by
  rw [← any_key_iff, Bool.not_eq_true]
  simp [lookup?]

theorem lookup?_map (f : String × α → β) (t : Table α) (key : String) :
    lookup? (t.map fun entry => (entry.1, f entry)) key =
      (t.lookup? key).map fun value => f (key, value) := by
  induction t with
  | nil => rfl
  | cons entry t ih =>
    rw [List.map_cons, lookup?_cons, lookup?_cons, ih]
    by_cases h : entry.1 = key
    · rw [if_pos h, if_pos h, ← h]
      rfl
    · rw [if_neg h, if_neg h]

theorem lookup?_filter {p : String → Bool} (hp : p key = true) (t : Table α) :
    lookup? (t.filter fun entry => p entry.1) key = t.lookup? key := by
  induction t with
  | nil => rfl
  | cons entry t ih =>
    by_cases hk : entry.1 = key
    · rw [List.filter_cons_of_pos (by rw [hk]; exact hp), lookup?_cons, lookup?_cons, if_pos hk,
        if_pos hk]
    · rw [List.filter_cons, lookup?_cons entry, if_neg hk]
      split
      · rw [lookup?_cons, if_neg hk, ih]
      · exact ih

/-! ## Laying one over another -/

theorem insertKey_of_mem (h : key ∈ t.map (·.1)) (value : α) :
    insertKey t key value =
      t.map fun entry => (entry.1, if entry.1 = key then value else entry.2) := by
  rw [insertKey, if_pos (any_key_iff.mpr h)]
  refine List.map_congr_left fun entry _ => ?_
  by_cases hk : entry.1 = key <;> simp [hk]

theorem insertKey_of_not_mem (h : key ∉ t.map (·.1)) (value : α) :
    insertKey t key value = t ++ [(key, value)] := by
  rw [insertKey, if_neg fun hany => h (any_key_iff.mp hany)]

/-- Where no key comes twice, a table is filled with the entries as they are. -/
theorem tableOf_of_distinct (h : t.Distinct) : tableOf t = t := by
  induction t using List.reverseRecOn with
  | nil => rfl
  | append_singleton t entry ih =>
    rw [Distinct, List.map_append] at h
    obtain ⟨ht, -, hnew⟩ := List.nodup_append.mp h
    rw [tableOf_append, ih ht, insertKey_of_not_mem fun hmem => hnew _ hmem _ (by simp) rfl]

/-- The entries are put in their places one after the other. -/
theorem overlay_cons (t u : Table α) (key : String) (value : α) :
    overlay t ((key, value) :: u) = overlay (insertKey t key value) u := by
  rw [overlay, List.foldl_cons, overlay]
  congr 1
  refine if_congr Iff.rfl (List.map_congr_left fun entry _ => ?_) rfl
  by_cases hk : entry.1 = key <;> simp [hk]

theorem overlay_eq_laidOver (hu : u.Distinct) (t : Table α) : t.overlay u = t.laidOver u := by
  induction u generalizing t with
  | nil => simp [overlay, laidOver, lookup?_nil]
  | cons entry u ih =>
    obtain ⟨key, value⟩ := entry
    obtain ⟨hkey, hu⟩ := List.nodup_cons.mp hu
    have hnone : lookup? u key = none := lookup?_eq_none_iff.mpr hkey
    rw [overlay_cons, ih hu, laidOver, laidOver, keys_insertKey]
    by_cases hmem : key ∈ t.map (·.1)
    · rw [if_pos hmem, List.filter_cons_of_neg (by simpa using hmem), insertKey_of_mem hmem,
        List.map_map]
      congr 1
      refine List.map_congr_left fun entry _ => ?_
      by_cases hk : entry.1 = key
      · simp [hk, hnone, lookup?_cons]
      · simp [hk, Ne.symm hk, lookup?_cons]
    · have hfilter : (u.filter fun entry => entry.1 ∉ t.map (·.1) ++ [key]) =
          u.filter fun entry => entry.1 ∉ t.map (·.1) := by
        refine List.filter_congr fun entry hentry => ?_
        have hk : entry.1 ≠ key := fun he =>
          hkey (List.mem_map.mpr ⟨entry, hentry, he⟩)
        simp [hk]
      rw [if_neg hmem, hfilter, List.filter_cons_of_pos (by simpa using hmem),
        insertKey_of_not_mem hmem, List.map_append, List.append_assoc]
      congr 1
      · refine List.map_congr_left fun entry hentry => ?_
        have hk : key ≠ entry.1 := fun he => hmem (he ▸ List.mem_map_of_mem hentry)
        simp [hk, lookup?_cons]
      · simp [hnone]

/-- A key is found in the upper mapping or else in the lower one. -/
theorem lookup?_overlay (hu : u.Distinct) (t : Table α) (key : String) :
    (t.overlay u).lookup? key = (u.lookup? key).or (t.lookup? key) := by
  rw [overlay_eq_laidOver hu, laidOver, lookup?_append,
    lookup?_map fun entry => (u.lookup? entry.1).getD entry.2]
  by_cases hmem : key ∈ t.map (·.1)
  · obtain ⟨v, hv⟩ : ∃ v, t.lookup? key = some v :=
      Option.ne_none_iff_exists'.mp fun hnone => lookup?_eq_none_iff.mp hnone hmem
    rw [hv]
    cases h : u.lookup? key <;> simp [h]
  · rw [lookup?_filter (p := fun k => k ∉ t.map (·.1)) (by simpa using hmem),
      lookup?_eq_none_iff.mpr hmem]
    cases u.lookup? key <;> rfl

end TrackerSearch.Table
