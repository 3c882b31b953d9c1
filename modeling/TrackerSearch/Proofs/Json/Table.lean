import Mathlib.Data.List.Induction
import TrackerSearch.Json.Basic

/-!
# Tables that are filled one entry after the other

Of several entries under one key the last one counts, in the place of the first one.
-/
namespace TrackerSearch

variable {α β : Type} [BEq α]

/-- The table of some entries: of several under one key the last one counts. -/
def tableOf (entries : List (α × β)) : List (α × β) :=
  entries.foldl (fun table (k, v) => insertKey table k v) []

theorem tableOf_append (entries : List (α × β)) (k : α) (v : β) :
    tableOf (entries ++ [(k, v)]) = insertKey (tableOf entries) k v := by
  rw [tableOf, List.foldl_append]
  rfl

variable [LawfulBEq α] {entries : List (α × β)}

theorem any_key_iff {table : List (α × β)} {k : α} :
    table.any (·.1 == k) = true ↔ k ∈ table.map (·.1) := by
  simp

theorem keys_insertKey (table : List (α × β)) (k : α) (v : β) :
    (insertKey table k v).map (·.1) =
      if k ∈ table.map (·.1) then table.map (·.1) else table.map (·.1) ++ [k] := by
  unfold insertKey
  by_cases hk : k ∈ table.map (·.1)
  · rw [if_pos (any_key_iff.mpr hk), if_pos hk, List.map_map]
    refine List.map_congr_left fun entry _ => ?_
    dsimp only [Function.comp]
    split <;> rfl
  · rw [if_neg fun h => hk (any_key_iff.mp h), if_neg hk, List.map_append]
    rfl

/-- Keys stand in the order in which they came first. -/
theorem keys_tableOf (entries : List (α × β)) :
    (tableOf entries).map (·.1) = (entries.map (·.1)).eraseDups := by
  induction entries using List.reverseRecOn with
  | nil => rfl
  | append_singleton entries entry ih =>
    obtain ⟨k, v⟩ := entry
    rw [tableOf_append, keys_insertKey, ih, List.map_append, List.eraseDups_append]
    by_cases hk : k ∈ entries.map (·.1)
    · rw [if_pos (List.mem_eraseDups.mpr hk)]
      simp [List.removeAll, hk]
    · rw [if_neg fun h => hk (List.mem_eraseDups.mp h)]
      simp [List.removeAll, hk, List.eraseDups_cons]

/-- An entry of the table is the last one under its key. -/
theorem last_of_mem_tableOf {k : α} {v : β} (h : (k, v) ∈ tableOf entries) :
    ∃ before after, entries = before ++ (k, v) :: after ∧ ∀ entry ∈ after, entry.1 ≠ k := by
  induction entries using List.reverseRecOn with
  | nil => cases h
  | append_singleton entries entry ih =>
    obtain ⟨k', v'⟩ := entry
    have hlater : (k, v) ∈ tableOf entries → k ≠ k' → ∃ before after,
        entries ++ [(k', v')] = before ++ (k, v) :: after ∧ ∀ entry ∈ after, entry.1 ≠ k := by
      intro hm hne
      obtain ⟨before, after, rfl, hafter⟩ := ih hm
      refine ⟨before, after ++ [(k', v')], by simp, fun entry he => ?_⟩
      rcases List.mem_append.mp he with he | he
      · exact hafter entry he
      · rw [List.mem_singleton.mp he]
        exact Ne.symm hne
    rw [tableOf_append] at h
    unfold insertKey at h
    split at h
    · obtain ⟨⟨k₀, v₀⟩, hm, heq⟩ := List.mem_map.mp h
      dsimp only at heq
      by_cases hk : k₀ = k'
      · rw [if_pos (beq_iff_eq.mpr hk)] at heq
        obtain ⟨rfl, rfl⟩ := Prod.mk.inj heq
        exact ⟨entries, [], by rw [hk], by simp⟩
      · rw [if_neg fun he => hk (beq_iff_eq.mp he)] at heq
        obtain ⟨rfl, rfl⟩ := Prod.mk.inj heq
        exact hlater hm hk
    · rename_i hnew
      rcases List.mem_append.mp h with hm | hm
      · refine hlater hm ?_
        rintro rfl
        exact hnew (any_key_iff.mpr (List.mem_map_of_mem hm))
      · obtain ⟨rfl, rfl⟩ := Prod.mk.inj (List.mem_singleton.mp hm)
        exact ⟨entries, [], rfl, by simp⟩

theorem mem_of_mem_tableOf {entry : α × β} (h : entry ∈ tableOf entries) : entry ∈ entries := by
  obtain ⟨before, after, rfl, -⟩ := last_of_mem_tableOf h
  exact List.mem_append_right before (List.mem_cons_self ..)

end TrackerSearch
