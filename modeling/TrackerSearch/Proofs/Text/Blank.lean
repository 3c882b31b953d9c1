import Mathlib.Data.List.TakeWhile
import TrackerSearch.Text.Blank

/-!
# Trimmed texts

Trimming leaves a text that neither starts nor ends with a blank.
-/
namespace TrackerSearch.Text

variable {p : Char → Bool} {s : List Char}

/-- Neither the first nor the last character is a blank. -/
structure Trimmed (s : List Char) : Prop where
  head : ∀ c ∈ s.head?, isBlank c = false
  last : ∀ c ∈ s.getLast?, isBlank c = false

theorem head?_dropWhile {c : Char} (h : (s.dropWhile p).head? = some c) : p c = false := by
  have hnot := List.head?_dropWhile_not p s
  rw [h] at hnot
  simpa using hnot

theorem getLast?_trimEndBy {c : Char} (h : (trimEndBy p s).getLast? = some c) : p c = false := by
  rw [trimEndBy, List.getLast?_reverse] at h
  exact head?_dropWhile h

/-- Trimming at the end touches the first character only if it leaves nothing. -/
theorem head?_trimEndBy {c : Char} (h : (trimEndBy p s).head? = some c) : s.head? = some c := by
  have hprefix : trimEndBy p s <+: s := by
    have hsuffix := (List.dropWhile_suffix p : s.reverse.dropWhile p <:+ s.reverse)
    rw [← List.reverse_prefix, List.reverse_reverse] at hsuffix
    exact hsuffix
  obtain ⟨t, ht⟩ := hprefix
  rw [← ht, List.head?_append, h]
  rfl

theorem trimmed_trim (s : List Char) : Trimmed (trim s) where
  head _ h := head?_dropWhile (head?_trimEndBy h)
  last _ h := getLast?_trimEndBy h

theorem dropWhile_of_head? (h : ∀ c ∈ s.head?, p c = false) : s.dropWhile p = s := by
  cases s with
  | nil => rfl
  | cons c s => exact List.dropWhile_cons_of_neg (by simp [h c rfl])

theorem trim_of_trimmed (h : Trimmed s) : trim s = s := by
  rw [trim, trimBy, trimStartBy, dropWhile_of_head? h.head, trimEndBy, dropWhile_of_head?,
    List.reverse_reverse]
  rw [List.head?_reverse]
  exact h.last

theorem Trimmed.of_forall (h : ∀ c ∈ s, isBlank c = false) : Trimmed s where
  head c hc := h c (List.mem_of_mem_head? hc)
  last c hc := h c (List.mem_of_mem_getLast? hc)

/-! ## What is dropped -/

/-- A text is what trimming leaves of it, between dropped characters. -/
theorem exists_trimBy (p : Char → Bool) (s : List Char) : ∃ before after,
    s = before ++ trimBy p s ++ after ∧ (∀ c ∈ before, p c = true) ∧ ∀ c ∈ after, p c = true := by
  have hstart := List.takeWhile_append_dropWhile (p := p) (l := s)
  have hend := List.takeWhile_append_dropWhile (p := p) (l := (s.dropWhile p).reverse)
  refine ⟨s.takeWhile p, ((s.dropWhile p).reverse.takeWhile p).reverse, ?_, ?_, ?_⟩
  · rw [trimBy, trimEndBy, trimStartBy, List.append_assoc, ← List.reverse_append, hend,
      List.reverse_reverse, hstart]
  · exact fun c hc => List.mem_takeWhile_imp hc
  · exact fun c hc => List.mem_takeWhile_imp (List.mem_reverse.mp hc)

/-- Trimming drops what is put around a text that starts and ends otherwise. -/
theorem trimBy_around {before after : List Char} (hbefore : ∀ c ∈ before, p c = true)
    (hafter : ∀ c ∈ after, p c = true) (hhead : ∀ c ∈ s.head?, p c = false)
    (hlast : ∀ c ∈ s.getLast?, p c = false) : trimBy p (before ++ s ++ after) = s := by
  have hreverse : s.reverse.dropWhile p = s.reverse :=
    dropWhile_of_head? (by rwa [List.head?_reverse])
  rw [trimBy, trimStartBy, trimEndBy, List.append_assoc, List.dropWhile_append_of_pos hbefore]
  cases s with
  | nil =>
    rw [List.nil_append, List.dropWhile_eq_nil_iff.mpr hafter]
    rfl
  | cons c s =>
    rw [List.cons_append, List.dropWhile_cons_of_neg (by simp [hhead c rfl]), ← List.cons_append,
      List.reverse_append, List.dropWhile_append_of_pos fun c hc => hafter c (List.mem_reverse.mp hc),
      hreverse, List.reverse_reverse]

theorem trim_around {before after : List Char} (hbefore : ∀ c ∈ before, isBlank c = true)
    (hafter : ∀ c ∈ after, isBlank c = true) (h : Trimmed s) : trim (before ++ s ++ after) = s :=
  trimBy_around hbefore hafter h.head h.last

/-- Trimming leaves nothing of blanks only. -/
theorem trim_eq_nil_iff : trim s = [] ↔ ∀ c ∈ s, isBlank c = true := by
  rw [trim, trimBy, trimEndBy, List.reverse_eq_nil_iff, List.dropWhile_eq_nil_iff, trimStartBy]
  constructor
  · intro h
    -- What is left at the start of the text begins with no blank, and so nothing is left.
    have hstart : s.dropWhile isBlank = [] := by
      cases hd : s.dropWhile isBlank with
      | nil => rfl
      | cons c rest =>
        have hblank : isBlank c = true := h c (by rw [hd]; simp)
        have hfirst : isBlank c = false := head?_dropWhile (s := s) (by rw [hd]; rfl)
        exact absurd hblank (Bool.eq_false_iff.mp hfirst)
    exact List.dropWhile_eq_nil_iff.mp hstart
  · intro h
    rw [List.dropWhile_eq_nil_iff.mpr h]
    simp

theorem trimmed_stripped (s : String) : Trimmed (stripped s).toList := by
  rw [stripped, String.toList_ofList]
  exact trimmed_trim _

theorem stripped_of_trimmed {s : String} (h : Trimmed s.toList) : stripped s = s := by
  rw [stripped, trim_of_trimmed h, String.ofList_toList]

theorem stripped_eq_empty_iff {s : String} :
    stripped s = "" ↔ ∀ c ∈ s.toList, isBlank c = true := by
  rw [stripped, String.ofList_eq_empty_iff, trim_eq_nil_iff]

end TrackerSearch.Text
