import TrackerSearch.Document.Basic

/-!
# Entries of mappings

A text is the same key as itself only, so that what is put under another key does not change what is
found under it. Where all keys are distinct, putting something under a key keeps them so.
-/
namespace TrackerSearch.Document

variable {entries : List (Document × Document)} {k d : Document} {key : String}

theorem sameKey_str_iff : sameKey k (str key) = true ↔ k = str key := by
  cases k with
  | str s => simp [sameKey]
  | float x => cases h : x.toInt? <;> simp [sameKey, h]
  | _ => simp [sameKey]

theorem str_sameKey_iff : sameKey (str key) k = true ↔ k = str key := by
  cases k with
  | str s =>
    simp only [sameKey, beq_iff_eq, str.injEq]
    exact eq_comm
  | float x => cases h : x.toInt? <;> simp [sameKey, h]
  | _ => simp [sameKey]

@[simp] theorem sameKey_str_self (key : String) : sameKey (str key) (str key) = true :=
  sameKey_str_iff.mpr rfl

theorem sameKey_str_of_ne (h : k ≠ str key) : sameKey k (str key) = false :=
  Bool.eq_false_iff.mpr fun hk => h (sameKey_str_iff.mp hk)

/-! ## What is found -/

theorem find?_def (entries : List (Document × Document)) (key : String) :
    find? entries key = (entries.find? fun entry => sameKey entry.1 (str key)).map (·.2) := rfl

theorem find?_nil (key : String) : find? [] key = none := rfl

theorem find?_cons_self (d : Document) (entries : List (Document × Document)) (key : String) :
    find? ((str key, d) :: entries) key = some d := by
  simp [find?_def]

theorem find?_cons_of_ne (h : k ≠ str key) (d : Document) (entries : List (Document × Document)) :
    find? ((k, d) :: entries) key = find? entries key := by
  simp [find?_def, sameKey_str_of_ne h]

theorem find?_append (front back : List (Document × Document)) (key : String) :
    find? (front ++ back) key = (find? front key).or (find? back key) := by
  simp only [find?_def, List.find?_append]
  cases front.find? fun entry => sameKey entry.1 (str key) <;> rfl

theorem find?_around (h : k ≠ str key) (d : Document) (front back : List (Document × Document)) :
    find? (front ++ (k, d) :: back) key = find? (front ++ back) key := by
  rw [find?_append, find?_cons_of_ne h, find?_append]

theorem find?_eq_none_iff : find? entries key = none ↔ ∀ entry ∈ entries, entry.1 ≠ str key := by
  simp [find?_def, sameKey_str_iff]

theorem mem_of_find? (h : find? entries key = some d) : (str key, d) ∈ entries := by
  rw [find?_def] at h
  obtain ⟨entry, hfind, rfl⟩ := Option.map_eq_some_iff.mp h
  have hsame := List.find?_some hfind
  have hk : entry.1 = str key := sameKey_str_iff.mp hsame
  exact hk ▸ List.mem_of_find?_eq_some hfind

/-! ## What is put under a key -/

theorem insert_of_mem (h : ∃ entry ∈ entries, sameKey entry.1 k = true) (d : Document) :
    insert entries k d =
      entries.map fun entry => (entry.1, if sameKey entry.1 k then d else entry.2) := by
  rw [insert, if_pos (List.any_eq_true.mpr h)]
  refine List.map_congr_left fun entry _ => ?_
  dsimp only
  split <;> rfl

theorem insert_of_not_mem (h : ¬∃ entry ∈ entries, sameKey entry.1 k = true) (d : Document) :
    insert entries k d = entries ++ [(k, d)] := by
  rw [insert, if_neg fun hany => h (List.any_eq_true.mp hany)]

theorem find?_insert_self (entries : List (Document × Document)) (key : String) (d : Document) :
    find? (insert entries (str key) d) key = some d := by
  by_cases h : ∃ entry ∈ entries, sameKey entry.1 (str key) = true
  · rw [insert_of_mem h]
    induction entries with
    | nil => simp at h
    | cons entry entries ih =>
      by_cases hk : entry.1 = str key
      · rw [List.map_cons, hk, sameKey_str_self, if_pos rfl, find?_cons_self]
      · rw [List.map_cons, find?_cons_of_ne hk]
        exact ih (by simpa [sameKey_str_of_ne hk] using h)
  · have hnone : find? entries key = none := by
      rw [find?_eq_none_iff]
      exact fun entry hentry he => h ⟨entry, hentry, sameKey_str_iff.mpr he⟩
    rw [insert_of_not_mem h, find?_append, hnone, find?_cons_self]
    rfl

theorem find?_insert_of_ne (hne : k ≠ str key) (entries : List (Document × Document))
    (d : Document) : find? (insert entries k d) key = find? entries key := by
  by_cases h : ∃ entry ∈ entries, sameKey entry.1 k = true
  · rw [insert_of_mem h]
    clear h
    induction entries with
    | nil => rfl
    | cons entry entries ih =>
      obtain ⟨k', v⟩ := entry
      by_cases hk' : k' = str key
      · subst hk'
        have hfalse : sameKey (str key) k = false :=
          Bool.eq_false_iff.mpr fun he => hne (str_sameKey_iff.mp he)
        rw [List.map_cons, hfalse, if_neg (by simp), find?_cons_self, find?_cons_self]
      · rw [List.map_cons, find?_cons_of_ne hk', find?_cons_of_ne hk', ih]
  · rw [insert_of_not_mem h, find?_append, find?_cons_of_ne hne, find?_nil, Option.or_none]

/-- What is in a mapping after something has been put there was there before or is new. -/
theorem mem_insert {entry : Document × Document} (h : entry ∈ insert entries k d) :
    entry ∈ entries ∨ entry.2 = d := by
  by_cases hk : ∃ entry ∈ entries, sameKey entry.1 k = true
  · rw [insert_of_mem hk] at h
    obtain ⟨old, hold, rfl⟩ := List.mem_map.mp h
    by_cases hs : sameKey old.1 k = true
    · exact .inr (if_pos hs)
    · exact .inl (by rwa [if_neg hs])
  · rw [insert_of_not_mem hk] at h
    rcases List.mem_append.mp h with h | h
    · exact .inl h
    · exact .inr (congrArg Prod.snd (List.mem_singleton.mp h))

/-- What is in a mapping after something has been put there is put together from the keys and the
values that are there. -/
theorem key_value_of_mem_insert {e : Document × Document} (h : e ∈ insert entries k d) :
    (e.1 = k ∨ ∃ entry ∈ entries, entry.1 = e.1) ∧ (e.2 = d ∨ ∃ entry ∈ entries, entry.2 = e.2) := by
  refine ⟨?_, (mem_insert h).symm.imp_right fun hmem => ⟨e, hmem, rfl⟩⟩
  by_cases hk : ∃ entry ∈ entries, sameKey entry.1 k = true
  · rw [insert_of_mem hk] at h
    obtain ⟨entry, hentry, rfl⟩ := List.mem_map.mp h
    exact .inr ⟨entry, hentry, rfl⟩
  · rw [insert_of_not_mem hk] at h
    rcases List.mem_append.mp h with h | h
    · exact .inr ⟨e, h, rfl⟩
    · exact .inl (congrArg Prod.fst (List.mem_singleton.mp h))

/-! ## Distinct keys -/

/-- No key of a mapping is there twice. -/
def Distinct (entries : List (Document × Document)) : Prop :=
  (entries.map (·.1)).Pairwise fun k k' => sameKey k k' = false

theorem distinct_nil : Distinct [] := .nil

theorem Distinct.tail {entry : Document × Document} (h : Distinct (entry :: entries)) :
    Distinct entries := (List.pairwise_cons.mp h).2

/-- What is under a key in front is nowhere else. -/
theorem Distinct.find?_tail (h : Distinct ((str key, d) :: entries)) : find? entries key = none := by
  rw [find?_eq_none_iff]
  intro entry hentry he
  have hne := (List.pairwise_cons.mp h).1 entry.1 (List.mem_map_of_mem hentry)
  rw [he, sameKey_str_self] at hne
  cases hne

/-- What is under a key is nowhere before or after it. -/
theorem Distinct.find?_around {front back : List (Document × Document)}
    (h : Distinct (front ++ (str key, d) :: back)) :
    find? front key = none ∧ find? back key = none := by
  rw [Distinct, List.map_append, List.map_cons] at h
  obtain ⟨-, hback, hfront⟩ := List.pairwise_append.mp h
  refine ⟨find?_eq_none_iff.mpr fun entry hentry he => ?_, Distinct.find?_tail (d := d) hback⟩
  have hne := hfront entry.1 (List.mem_map_of_mem hentry) (str key) List.mem_cons_self
  rw [he, sameKey_str_self] at hne
  cases hne

theorem distinct_insert (h : Distinct entries) (k d : Document) :
    Distinct (insert entries k d) := by
  by_cases hk : ∃ entry ∈ entries, sameKey entry.1 k = true
  · rw [insert_of_mem hk, Distinct, List.map_map]
    exact h
  · rw [insert_of_not_mem hk, Distinct, List.map_append]
    refine List.pairwise_append.mpr ⟨h, List.pairwise_singleton .., ?_⟩
    intro k' hk' k'' hk''
    obtain ⟨entry, hentry, rfl⟩ := List.mem_map.mp hk'
    obtain rfl := List.mem_singleton.mp hk''
    exact Bool.eq_false_iff.mpr fun he => hk ⟨entry, hentry, he⟩

mutual

/-- No mapping in a document has a key twice. -/
def WellKeyed : Document → Prop
  | list items | set items => ItemsWellKeyed items
  | map entries => Distinct entries ∧ ValuesWellKeyed entries
  | _ => True

def ItemsWellKeyed : List Document → Prop
  | [] => True
  | d :: rest => WellKeyed d ∧ ItemsWellKeyed rest

def ValuesWellKeyed : List (Document × Document) → Prop
  | [] => True
  | (_, d) :: rest => WellKeyed d ∧ ValuesWellKeyed rest

end

theorem itemsWellKeyed_iff {items : List Document} :
    ItemsWellKeyed items ↔ ∀ d ∈ items, d.WellKeyed := by
  induction items with
  | nil => simp [ItemsWellKeyed]
  | cons d items ih => rw [ItemsWellKeyed, ih, List.forall_mem_cons]

theorem valuesWellKeyed_iff : ValuesWellKeyed entries ↔ ∀ entry ∈ entries, entry.2.WellKeyed := by
  induction entries with
  | nil => simp [ValuesWellKeyed]
  | cons entry entries ih =>
    obtain ⟨k, d⟩ := entry
    rw [ValuesWellKeyed, ih, List.forall_mem_cons]

theorem wellKeyed_map_iff :
    WellKeyed (map entries) ↔ Distinct entries ∧ ∀ entry ∈ entries, entry.2.WellKeyed := by
  rw [WellKeyed, valuesWellKeyed_iff]

theorem WellKeyed.distinct (h : WellKeyed (map entries)) : Distinct entries :=
  (wellKeyed_map_iff.mp h).1

theorem WellKeyed.value {entry : Document × Document} (h : WellKeyed (map entries))
    (hentry : entry ∈ entries) : entry.2.WellKeyed :=
  (wellKeyed_map_iff.mp h).2 entry hentry

theorem WellKeyed.find? (h : WellKeyed (map entries)) (hd : Document.find? entries key = some d) :
    d.WellKeyed :=
  h.value (mem_of_find? hd)

theorem WellKeyed.item {items : List Document} (h : WellKeyed (list items)) (hd : d ∈ items) :
    d.WellKeyed :=
  itemsWellKeyed_iff.mp h d hd

end TrackerSearch.Document
