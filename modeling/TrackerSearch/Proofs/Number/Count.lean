import TrackerSearch.Proofs.Number.Numeral

/-!
# Counts in cells

A count is read off a cell exactly or not at all. `Counts` says which count stands in a cell: a text
has one if it writes an integer once the blanks around it and its commas are gone. Every other cell
is read as the default (`countOf_cases`). So a natural number is read back from its decimal digits
wherever commas are put into them (`countOf_exact`).
-/
namespace TrackerSearch.Number

open Text

variable {s t before after : List Char} {z : Int}

/-! ## Commas -/

/-- A text with commas put in somewhere, any number of them. -/
inductive Commaed : List Char → List Char → Prop
  | nil : Commaed [] []
  | comma {s t : List Char} : Commaed s t → Commaed (',' :: s) t
  | keep {s t : List Char} (c : Char) : Commaed s t → Commaed (c :: s) (c :: t)

theorem commaed_filter (s : List Char) : Commaed s (s.filter (· ≠ ',')) := by
  induction s with
  | nil => exact .nil
  | cons c s ih =>
    by_cases hc : c = ','
    · subst hc
      exact .comma ih
    · rw [List.filter_cons_of_pos (by simpa using hc)]
      exact .keep c ih

theorem Commaed.filter_eq (h : Commaed s t) (ht : ',' ∉ t) : s.filter (· ≠ ',') = t := by
  induction h with
  | nil => rfl
  | comma _ ih => exact ih ht
  | keep c _ ih =>
    rw [List.mem_cons, not_or] at ht
    rw [List.filter_cons_of_pos (by simpa using Ne.symm ht.1), ih ht.2]

theorem Commaed.of_mem (h : Commaed s t) : ∀ c ∈ s, c = ',' ∨ c ∈ t := by
  induction h with
  | nil => simp
  | comma _ ih => exact List.forall_mem_cons.mpr ⟨.inl rfl, ih⟩
  | keep c _ ih =>
    exact List.forall_mem_cons.mpr ⟨.inr List.mem_cons_self,
      fun x hx => (ih x hx).imp_right (List.mem_cons_of_mem c)⟩

/-- A character that is put behind leading commas. -/
theorem Commaed.insert {lead : List Char} (hlead : ∀ c ∈ lead, c = ',')
    (h : Commaed (lead ++ s) t) (ht : ',' ∉ t) (c : Char) : Commaed (lead ++ c :: s) (c :: t) := by
  induction lead with
  | nil => exact .keep c h
  | cons x lead ih =>
    obtain ⟨rfl, hmore⟩ := List.forall_mem_cons.mp hlead
    cases h with
    | comma h => exact .comma (ih hmore h)
    | keep _ h => exact absurd List.mem_cons_self ht

theorem Writes.comma_not_mem (h : Writes s z) : ',' ∉ s := by
  obtain ⟨before, body, after, rfl, hbefore, hafter, hbody⟩ := h
  simp only [List.mem_append, not_or]
  refine ⟨⟨fun hc => ?_, fun hc => ?_⟩, fun hc => ?_⟩
  · exact absurd (hbefore _ hc) (by decide)
  · rcases hbody.of_mem _ hc with h | h | h | ⟨d, hd⟩
    · exact absurd h (by decide)
    · exact absurd h (by decide)
    · exact absurd h (by decide)
    · exact absurd hd (by rw [show digitValue? ',' = none by decide]; simp)
  · exact absurd (hafter _ hc) (by decide)

/-! ## Counts -/

/-- The count that stands in a cell: an integer that is not negative, or a text that writes one once
the blanks around it and the commas are gone. -/
inductive Counts : Cell → Int → Prop
  | int {n : Int} : 0 ≤ n → Counts (.int n) n
  | text {before s after t : List Char} {n : Int} : (∀ c ∈ before, isBlank c = true) →
      (∀ c ∈ after, isBlank c = true) → Trimmed s → Commaed s t → Writes t n → 0 ≤ n →
      Counts (.text (String.ofList (before ++ s ++ after))) n

theorem counts_text_iff {s : String} :
    Counts (.text s) z ↔ readInt? ((trim s.toList).filter (· ≠ ',')) = some z ∧ 0 ≤ z := by
  constructor
  · intro h
    cases h with
    | text hbefore hafter hs hcommas hwrites hnonneg =>
      rw [String.toList_ofList, trim_around hbefore hafter hs,
        hcommas.filter_eq hwrites.comma_not_mem]
      exact ⟨readInt?_eq_some_iff.mpr hwrites, hnonneg⟩
  · rintro ⟨hread, hnonneg⟩
    obtain ⟨before, after, hs, hbefore, hafter⟩ := exists_trimBy isBlank s.toList
    rw [← String.ofList_toList (s := s), hs]
    exact .text hbefore hafter (trimmed_trim _) (commaed_filter _) (readInt?_eq_some_iff.mp hread)
      hnonneg

/-- A cell is read as the count that stands in it, and one without a count as the default. -/
theorem countOf_cases (default : Int) (cell : Cell) :
    (∃ z, Counts cell z ∧ 0 ≤ z ∧ countOf default cell = z) ∨
      ((∀ z, ¬Counts cell z) ∧ countOf default cell = default) := by
  -- The two cells with an integer differ only in where it comes from.
  have hint (n : Int) (hcounts : ∀ z, Counts cell z ↔ n = z ∧ 0 ≤ z)
      (hcell : countOf default cell = nonNegativeOr default n) :
      (∃ z, Counts cell z ∧ 0 ≤ z ∧ countOf default cell = z) ∨
        ((∀ z, ¬Counts cell z) ∧ countOf default cell = default) := by
    rw [hcell, nonNegativeOr]
    by_cases hn : 0 ≤ n
    · exact .inl ⟨n, (hcounts n).mpr ⟨rfl, hn⟩, hn, if_pos hn⟩
    · refine .inr ⟨fun z hz => ?_, if_neg hn⟩
      obtain ⟨rfl, hnonneg⟩ := (hcounts z).mp hz
      exact hn hnonneg
  cases cell with
  | absent | truth b =>
    refine .inr ⟨?_, rfl⟩
    rintro z ⟨⟩
  | int n =>
    refine hint n (fun z => ⟨fun hz => ?_, ?_⟩) rfl
    · cases hz with
      | int hn => exact ⟨rfl, hn⟩
    · rintro ⟨rfl, hn⟩
      exact .int hn
  | text s =>
    cases hread : readInt? ((trim s.toList).filter (· ≠ ',')) with
    | some n =>
      refine hint n (fun z => ?_) ?_
      · rw [counts_text_iff, hread, Option.some.injEq]
      · rw [countOf, countOfText, hread]
    | none =>
      refine .inr ⟨fun z hz => ?_, ?_⟩
      · rw [counts_text_iff, hread] at hz
        cases hz.1
      · rw [countOf, countOfText, hread]

/-! ## The law of counts -/

/-- Blanks around a text and commas in it do not count. -/
theorem countOf_around (default : Int) (hbefore : ∀ c ∈ before, isBlank c = true)
    (hafter : ∀ c ∈ after, isBlank c = true) (hcommas : Commaed s t)
    (ht : ∀ c ∈ t, isBlank c = false ∧ c ≠ ',') :
    countOf default (.text (String.ofList (before ++ s ++ after))) =
      ((readInt? t).map (nonNegativeOr default)).getD default := by
  have hs : ∀ c ∈ s, isBlank c = false := by
    intro c hc
    rcases hcommas.of_mem c hc with rfl | hc
    · decide
    · exact (ht c hc).1
  rw [countOf, countOfText, String.toList_ofList, trim_around hbefore hafter (.of_forall hs),
    hcommas.filter_eq fun hc => (ht ',' hc).2 rfl]
  cases readInt? t <;> rfl

theorem Digits.ne_comma (h : Digits s) : ∀ c ∈ s, c ≠ ',' := by
  rintro c hc rfl
  exact absurd (h ',' hc) (by decide)

/-- **Counts are read exactly or not at all.** A number of at most 4300 digits is read back from its
digits, wherever commas are put into them and whatever blanks stand around; behind a minus sign the
default takes its place, unless it is zero. Every cell is read as the count that stands in it, which
is not negative, and a cell without one as the default. -/
theorem countOf_exact (default : Int) :
    (∀ n before lead s after, (∀ c ∈ before, isBlank c = true) → (∀ c ∈ after, isBlank c = true) →
      (∀ c ∈ lead, c = ',') → Commaed (lead ++ s) (Nat.toDigits 10 n) →
      countOf default (.text (String.ofList (before ++ (lead ++ s) ++ after))) =
        (if (Nat.toDigits 10 n).length ≤ 4300 then (n : Int) else default) ∧
      countOf default (.text (String.ofList (before ++ (lead ++ '-' :: s) ++ after))) =
        if n = 0 then 0 else default) ∧
    ∀ cell, (∃ z, Counts cell z ∧ 0 ≤ z ∧ countOf default cell = z) ∨
      ((∀ z, ¬Counts cell z) ∧ countOf default cell = default) := by
  refine ⟨fun n before lead s after hbefore hafter hlead hcommas => ?_, countOf_cases default⟩
  have hdigits : ∀ c ∈ Nat.toDigits 10 n, isBlank c = false ∧ c ≠ ',' := fun c hc =>
    ⟨(digits_toDigits n).not_isBlank c hc, (digits_toDigits n).ne_comma c hc⟩
  have hminus : Commaed (lead ++ '-' :: s) ('-' :: Nat.toDigits 10 n) :=
    hcommas.insert hlead (fun hc => (hdigits _ hc).2 rfl) '-'
  constructor
  · rw [countOf_around default hbefore hafter hcommas hdigits, readInt?_toDigits, maxDigits]
    split
    · simp [nonNegativeOr]
    · rfl
  · rw [countOf_around default hbefore hafter hminus (List.forall_mem_cons.mpr ⟨by decide, hdigits⟩),
      readInt?_minus_toDigits]
    by_cases hn : n = 0
    · subst hn
      rfl
    · rw [if_neg hn]
      split
      · have hneg : ¬0 ≤ -(n : Int) := by omega
        simp only [Option.map_some, Option.getD_some, nonNegativeOr, if_neg hneg]
      · rfl

theorem countOf_of_commas :
    (countOf 7 (.text ",1,,234, \x1c") = 1234 ∧ countOf 7 (.text ",-1,,234, \x1c") = 7) ∧
      countOf 7 (.text "0") = 0 ∧ countOf 7 (.text "-0") = 0 := by
  have hdigits : Commaed ([','] ++ "1,,234,".toList) (Nat.toDigits 10 1234) := by
    have hfilter : Nat.toDigits 10 1234 = ([','] ++ "1,,234,".toList).filter (· ≠ ',') := by decide
    rw [hfilter]
    exact commaed_filter _
  have hzero : Commaed ([] ++ ['0']) (Nat.toDigits 10 0) := .keep '0' .nil
  have hspace : ∀ c ∈ [' ', '\x1c'], isBlank c = true := List.all_eq_true.mp rfl
  have hnone : ∀ c ∈ ([] : List Char), isBlank c = true := List.forall_mem_nil _
  exact ⟨(countOf_exact 7).1 1234 [] [','] "1,,234,".toList [' ', '\x1c'] hnone hspace
      (List.forall_mem_singleton.mpr rfl) hdigits,
    (countOf_exact 7).1 0 [] [] ['0'] [] hnone hnone (List.forall_mem_nil _) hzero⟩

end TrackerSearch.Number
