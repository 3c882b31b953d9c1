import Mathlib.Data.List.Induction
import TrackerSearch.Proofs.Document.Entries
import TrackerSearch.Proofs.Document.Scalar

/-!
# Mappings with their keys and values as texts

In the long form of a mapping numbers and truth values are texts, and keys that fall together by
this are one key, in the place of the first and with the value of the last. Reading a mapping and
reading its long form give the same. The reason is that only numbers, truth values and their texts
can fall together: a key of another kind is never shown as a number (`text_ne_of_isNumber`).
-/
namespace TrackerSearch.Document

variable {entries front : List (Document × Document)} {a b d k k' v w : Document} {key : String}

/-! ## Putting twice -/

/-- A key is there after something has been put under a text if it was there before or is this
text. -/
theorem exists_insert_str_iff (key : String) (d k : Document) :
    (∃ entry ∈ insert entries (str key) d, sameKey entry.1 k = true) ↔
      (∃ entry ∈ entries, sameKey entry.1 k = true) ∨ sameKey (str key) k = true := by
  by_cases h : ∃ entry ∈ entries, sameKey entry.1 (str key) = true
  · simp only [insert_of_mem h, List.mem_map, exists_exists_and_eq_and]
    refine ⟨.inl, fun hor => hor.elim id fun hkey => ?_⟩
    obtain ⟨entry, hentry, hsame⟩ := h
    exact ⟨entry, hentry, by rw [sameKey_str_iff.mp hsame, hkey]⟩
  · rw [insert_of_not_mem h]
    simp only [List.mem_append, List.mem_singleton, or_and_right, exists_or, exists_eq_left]

/-- Of two values that are put under one text the second one counts. -/
theorem insert_insert_self (entries : List (Document × Document)) (key : String) (a b : Document) :
    insert (insert entries (str key) a) (str key) b = insert entries (str key) b := by
  rw [insert_of_mem ((exists_insert_str_iff key a _).mpr (.inr (sameKey_str_self key)))]
  by_cases hk : ∃ entry ∈ entries, sameKey entry.1 (str key) = true
  · rw [insert_of_mem hk, insert_of_mem hk, List.map_map]
    refine List.map_congr_left fun entry _ => ?_
    by_cases hs : sameKey entry.1 (str key) = true <;> simp [hs]
  · rw [insert_of_not_mem hk, insert_of_not_mem hk, List.map_append]
    have hsame : ∀ entry ∈ entries,
        (entry.1, if sameKey entry.1 (str key) then b else entry.2) = entry :=
      fun entry hentry => by rw [if_neg fun hs => hk ⟨entry, hentry, hs⟩]
    rw [List.map_congr_left hsame, List.map_id']
    simp

/-- What is put under a text that is there does not move anything else. -/
theorem insert_comm (hk : ∃ entry ∈ entries, sameKey entry.1 (str key) = true)
    {other : String} (hne : key ≠ other) (a b : Document) :
    insert (insert entries (str key) a) (str other) b =
      insert (insert entries (str other) b) (str key) a := by
  have hkey : sameKey (str other) (str key) = false := sameKey_str_of_ne (by simpa using hne.symm)
  have hother : sameKey (str key) (str other) = false := sameKey_str_of_ne (by simpa using hne)
  have hkey' := (exists_insert_str_iff other b (str key)).mpr (.inl hk)
  by_cases ho : ∃ entry ∈ entries, sameKey entry.1 (str other) = true
  · have ho' := (exists_insert_str_iff key a (str other)).mpr (.inl ho)
    rw [insert_of_mem ho', insert_of_mem hkey', insert_of_mem hk, insert_of_mem ho, List.map_map,
      List.map_map]
    refine List.map_congr_left fun entry _ => ?_
    dsimp only [Function.comp]
    by_cases hs : sameKey entry.1 (str key) = true
    · have hentry := sameKey_str_iff.mp hs
      simp [hentry, hother]
    · simp [hs]
  · have ho' : ¬∃ entry ∈ insert entries (str key) a, sameKey entry.1 (str other) = true := by
      rw [exists_insert_str_iff, hother]
      simpa using ho
    rw [insert_of_not_mem ho', insert_of_mem hkey', insert_of_mem hk, insert_of_not_mem ho,
      List.map_append]
    simp [hkey]

/-! ## Mappings with text keys -/

/-- A mapping from the texts of the keys: of several values under one text the last one counts. -/
def byText (entries : List (Document × Document)) : List (Document × Document) :=
  entries.foldl (fun acc entry => insert acc (str entry.1.text) entry.2) []

theorem byText_append (entries : List (Document × Document)) (entry : Document × Document) :
    byText (entries ++ [entry]) = insert (byText entries) (str entry.1.text) entry.2 := by
  rw [byText, List.foldl_append]
  rfl

/-- A text is a key of the mapping exactly if it is the text of a key. -/
theorem exists_byText_iff : (∃ entry ∈ byText entries, sameKey entry.1 (str key) = true) ↔
    ∃ entry ∈ entries, entry.1.text = key := by
  induction entries using List.reverseRecOn with
  | nil => simp [byText]
  | append_singleton entries entry ih =>
    rw [byText_append, exists_insert_str_iff, ih, str_sameKey_iff, str.injEq]
    simp only [List.mem_append, List.mem_singleton, or_and_right, exists_or, exists_eq_left]
    exact or_congr_right eq_comm

/-- Where the values under one text are replaced by one value, this value is under the text. -/
theorem byText_replace (entries : List (Document × Document)) (key : String) (v : Document) :
    byText (entries.map fun entry => (entry.1, if entry.1.text = key then v else entry.2)) =
      if ∃ entry ∈ entries, entry.1.text = key then insert (byText entries) (str key) v
      else byText entries := by
  induction entries using List.reverseRecOn with
  | nil => simp [byText]
  | append_singleton entries entry ih =>
    rw [List.map_append, List.map_singleton, byText_append, byText_append, ih]
    have hexists : (∃ e ∈ entries ++ [entry], e.1.text = key) ↔
        (∃ e ∈ entries, e.1.text = key) ∨ entry.1.text = key := by
      simp only [List.mem_append, List.mem_singleton, or_and_right, exists_or, exists_eq_left]
    simp only [hexists]
    by_cases htext : entry.1.text = key
    · simp only [htext, or_true, if_true, insert_insert_self]
      split
      · rw [insert_insert_self]
      · rfl
    · simp only [htext, or_false, if_false]
      split
      · rename_i hkey
        exact insert_comm (exists_byText_iff.mpr hkey) (Ne.symm htext) v entry.2
      · rfl

/-! ## Putting together keys that are equal -/

/-- The entries one after the other, each put over those before it. -/
def merged (entries : List (Document × Document)) : List (Document × Document) :=
  entries.foldl (fun acc entry => insert acc entry.1 entry.2) []

theorem merged_append (entries : List (Document × Document)) (entry : Document × Document) :
    merged (entries ++ [entry]) = insert (merged entries) entry.1 entry.2 := by
  rw [merged, List.foldl_append]
  rfl

theorem key_value_of_mem_merged {e : Document × Document} (h : e ∈ merged entries) :
    (∃ entry ∈ entries, entry.1 = e.1) ∧ ∃ entry ∈ entries, entry.2 = e.2 := by
  induction entries using List.reverseRecOn generalizing e with
  | nil => cases h
  | append_singleton entries entry ih =>
    rw [merged_append] at h
    obtain ⟨hkey, hvalue⟩ := key_value_of_mem_insert h
    constructor
    · rcases hkey with hkey | ⟨e', he', hkey⟩
      · exact ⟨entry, by simp, hkey.symm⟩
      · obtain ⟨e'', he'', hkey'⟩ := (ih he').1
        exact ⟨e'', List.mem_append_left _ he'', hkey'.trans hkey⟩
    · rcases hvalue with hvalue | ⟨e', he', hvalue⟩
      · exact ⟨entry, by simp, hvalue.symm⟩
      · obtain ⟨e'', he'', hvalue'⟩ := (ih he').2
        exact ⟨e'', List.mem_append_left _ he'', hvalue'.trans hvalue⟩

/-- Keys that are equal have the same text, and where a key comes again no other key has its
text. -/
structure TextsApart (entries : List (Document × Document)) : Prop where
  text_eq : ∀ entry ∈ entries, ∀ entry' ∈ entries, sameKey entry.1 entry'.1 = true →
    entry.1.text = entry'.1.text
  again : ∀ front entry back, entries = front ++ entry :: back →
    (∃ entry' ∈ front, sameKey entry'.1 entry.1 = true) →
    ∀ entry' ∈ front, entry'.1.text = entry.1.text → sameKey entry'.1 entry.1 = true

/-- Then it does not matter whether equal keys are put together before the texts are taken. -/
theorem byText_merged (h : TextsApart entries) : byText (merged entries) = byText entries := by
  induction entries using List.reverseRecOn with
  | nil => rfl
  | append_singleton entries entry ih =>
    have hfront : TextsApart entries := {
      text_eq := fun e he e' he' =>
        h.text_eq e (List.mem_append_left _ he) e' (List.mem_append_left _ he')
      again := fun front e back heq => h.again front e (back ++ [entry]) (by simp [heq]) }
    rw [merged_append, byText_append, ← ih hfront]
    by_cases hk : ∃ e ∈ merged entries, sameKey e.1 entry.1 = true
    · have hagain : ∃ e ∈ entries, sameKey e.1 entry.1 = true := by
        obtain ⟨e, he, hsame⟩ := hk
        obtain ⟨e', he', hkey⟩ := (key_value_of_mem_merged he).1
        exact ⟨e', he', hkey ▸ hsame⟩
      have hsame : ∀ e ∈ merged entries, sameKey e.1 entry.1 = true ↔
          e.1.text = entry.1.text := by
        intro e he
        obtain ⟨e', he', hkey⟩ := (key_value_of_mem_merged he).1
        rw [← hkey]
        exact ⟨h.text_eq e' (List.mem_append_left _ he') entry (by simp),
          h.again entries entry [] rfl hagain e' he'⟩
      have hreplace : ∀ e ∈ merged entries,
          (e.1, if sameKey e.1 entry.1 then entry.2 else e.2) =
            (e.1, if e.1.text = entry.1.text then entry.2 else e.2) := by
        intro e he
        by_cases hs : sameKey e.1 entry.1 = true
        · rw [if_pos hs, if_pos ((hsame e he).mp hs)]
        · rw [if_neg hs, if_neg fun ht => hs ((hsame e he).mpr ht)]
      obtain ⟨e, he, hs⟩ := hk
      rw [insert_of_mem ⟨e, he, hs⟩, List.map_congr_left hreplace, byText_replace,
        if_pos ⟨e, he, (hsame e he).mp hs⟩]
    · rw [insert_of_not_mem hk, byText_append]

/-! ## The long form -/

/-- A value in the long form of a mapping; nothing is the empty text. -/
def longValue (d : Document) : Document := if d matches null then str "" else d.scalarText

/-- The long form of a mapping: numbers and truth values are texts, as keys and as values. Nothing
in place of the mapping is the empty mapping. -/
def longMap : Document → Document
  | null => map []
  | map entries => map (merged (entries.map fun entry => (entry.1.scalarText, longValue entry.2)))
  | d => d

theorem scalarMap_map (entries : List (Document × Document)) :
    scalarMap (map entries) =
      map (byText (entries.map fun entry => (entry.1.scalarText, longValue entry.2))) := by
  rw [byText, List.foldl_map]
  rfl

theorem longValue_longValue (d : Document) : longValue (longValue d) = longValue d := by
  cases d <;> rfl

/-- Keys of other kinds that are equal have the same text. -/
theorem text_eq_of_sameKey (ha : a.isNumber = false) (hb : b.isNumber = false)
    (h : sameKey a b = true) : a.text = b.text := by
  cases a with
  | bool | int | float => cases ha
  | str s => rw [str_sameKey_iff.mp h]
  | _ => cases b <;> simp_all [sameKey, isNumber]

/-- Keys that are equal as texts but not before are equal to the text of a number or of a truth
value. -/
theorem exists_number_of_sameKey (hsame : sameKey a.scalarText b.scalarText = true)
    (hne : sameKey a b = false) :
    ∃ n s, isNumber n = true ∧ n.scalarText = str s ∧ b.scalarText = str s := by
  cases hb : b.isNumber with
  | true =>
    obtain ⟨s, hs, -⟩ := scalarText_of_isNumber hb
    exact ⟨b, s, hb, hs, hs⟩
  | false =>
    cases ha : a.isNumber with
    | true =>
      obtain ⟨s, hs, -⟩ := scalarText_of_isNumber ha
      rw [hs] at hsame
      exact ⟨a, s, ha, hs, str_sameKey_iff.mp hsame⟩
    | false =>
      rw [scalarText_of_not_isNumber ha, scalarText_of_not_isNumber hb, hne] at hsame
      cases hsame

theorem textsApart_long (h : Distinct entries) :
    TextsApart (entries.map fun entry => (entry.1.scalarText, longValue entry.2)) where
  text_eq := by
    intro e he e' he' hsame
    obtain ⟨x, -, rfl⟩ := List.mem_map.mp he
    obtain ⟨y, -, rfl⟩ := List.mem_map.mp he'
    exact text_eq_of_sameKey (isNumber_scalarText _) (isNumber_scalarText _) hsame
  again := by
    rintro front entry back heq ⟨e, he, hsame⟩ e' he' htext
    obtain ⟨front', rest, rfl, rfl, hrest⟩ := List.map_eq_append_iff.mp heq
    obtain ⟨entry', back', rfl, rfl, rfl⟩ := List.map_eq_cons_iff.mp hrest
    obtain ⟨x, hx, rfl⟩ := List.mem_map.mp he
    obtain ⟨y, hy, rfl⟩ := List.mem_map.mp he'
    have hne : sameKey x.1 entry'.1 = false := by
      rw [Distinct, List.map_append, List.map_cons] at h
      exact (List.pairwise_append.mp h).2.2 _ (List.mem_map_of_mem hx) _ (List.mem_cons_self ..)
    obtain ⟨n, s, hn, hs, hkey⟩ := exists_number_of_sameKey hsame hne
    dsimp only at htext ⊢
    rw [hkey] at htext ⊢
    by_cases hstr : ∃ t, y.1.scalarText = str t
    · obtain ⟨t, ht⟩ := hstr
      rw [ht] at htext ⊢
      obtain rfl : t = s := htext
      exact sameKey_str_self t
    · have hother := text_ne_of_isNumber hn hs (isNumber_scalarText y.1)
        fun t ht => hstr ⟨t, ht⟩
      exact absurd htext hother

/-- What is merged of a long form is in the long form. -/
theorem long_of_mem_merged {e : Document × Document}
    (h : e ∈ merged (entries.map fun entry => (entry.1.scalarText, longValue entry.2))) :
    (e.1.scalarText, longValue e.2) = e := by
  obtain ⟨⟨x, hx, hkey⟩, y, hy, hvalue⟩ := key_value_of_mem_merged h
  obtain ⟨x', -, rfl⟩ := List.mem_map.mp hx
  obtain ⟨y', -, rfl⟩ := List.mem_map.mp hy
  rw [← hkey, ← hvalue, scalarText_scalarText, longValue_longValue]
  exact Prod.ext hkey hvalue

/-- Reading a mapping of scalars and reading its long form give the same. -/
theorem scalarMap_longMap (h : ∀ entries, d = map entries → Distinct entries) :
    scalarMap (longMap d) = scalarMap d := by
  cases d with
  | map entries =>
    have hapart := textsApart_long (h entries rfl)
    rw [longMap, scalarMap_map, scalarMap_map, ← byText_merged hapart]
    rw [List.map_congr_left (fun e he => long_of_mem_merged he), List.map_id']
  | _ => rfl

end TrackerSearch.Document
