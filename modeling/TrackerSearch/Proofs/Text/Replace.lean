import TrackerSearch.Proofs.Text.Pieces

/-!
# Replacing all occurrences

Replacement goes through a text once: an occurrence in front is replaced as a whole, and any other
character in front stays.
-/
namespace TrackerSearch.Text

variable {c : Char} {old new sep s pre post : List Char}

theorem splitOn_of_none (h : cutAt? sep s = none) : splitOn sep s = [s] := by
  rw [splitOn]
  split
  · rfl
  · rename_i h'
    rw [h] at h'
    cases h'

theorem splitOn_of_some (hne : sep ≠ []) (h : cutAt? sep s = some (pre, post)) :
    splitOn sep s = pre :: splitOn sep post := by
  rw [splitOn]
  split
  · rename_i h'
    rw [h] at h'
    cases h'
  · rename_i h'
    rw [h] at h'
    obtain ⟨rfl, rfl⟩ := Prod.mk.inj (Option.some.inj h')
    rw [dif_pos (List.length_pos_iff.mpr hne)]

theorem splitOn_ne_nil (hne : sep ≠ []) (s : List Char) : splitOn sep s ≠ [] := by
  cases h : cutAt? sep s with
  | none => simp [splitOn_of_none h]
  | some cut =>
    obtain ⟨pre, post⟩ := cut
    simp [splitOn_of_some hne h]

theorem replaceAll_eq (hne : old ≠ []) (s : List Char) :
    replaceAll old new s = joinWith new (splitOn old s) := by
  rw [replaceAll, if_neg (by simpa using hne)]

theorem replaceAll_nil (hne : old ≠ []) : replaceAll old new [] = [] := by
  rw [replaceAll_eq hne, splitOn_of_none (by simpa [cutAt?] using hne)]
  rfl

theorem replaceAll_of_some (hne : old ≠ []) (h : cutAt? old s = some (pre, post)) :
    replaceAll old new s = pre ++ new ++ replaceAll old new post := by
  rw [replaceAll_eq hne, splitOn_of_some hne h, joinWith_cons (splitOn_ne_nil hne post),
    replaceAll_eq hne]

theorem replaceAll_of_none (hne : old ≠ []) (h : cutAt? old s = none) :
    replaceAll old new s = s := by
  rw [replaceAll_eq hne, splitOn_of_none h]
  rfl

theorem replaceAll_lead (hne : old ≠ []) (new s : List Char) :
    replaceAll old new (old ++ s) = new ++ replaceAll old new s := by
  have hlead : dropLead? old (old ++ s) = some s := dropLead?_eq_some_iff.mpr rfl
  have hcut : cutAt? old (old ++ s) = some ([], s) := by
    obtain ⟨c, old, rfl⟩ := List.exists_cons_of_ne_nil hne
    rw [List.cons_append, cutAt?, ← List.cons_append, hlead]
  rw [replaceAll_of_some hne hcut]
  rfl

theorem replaceAll_cons (hne : old ≠ []) (new : List Char) (h : dropLead? old (c :: s) = none) :
    replaceAll old new (c :: s) = c :: replaceAll old new s := by
  cases hs : cutAt? old s with
  | none =>
    rw [replaceAll_of_none hne hs, replaceAll_of_none hne (cutAt?_cons_eq_none.mpr ⟨h, hs⟩)]
  | some cut =>
    obtain ⟨pre, post⟩ := cut
    have hcut : cutAt? old (c :: s) = some (c :: pre, post) := by
      rw [cutAt?, h, hs]
      rfl
    rw [replaceAll_of_some hne hcut, replaceAll_of_some hne hs]
    rfl

end TrackerSearch.Text
