import TrackerSearch.Definition.Reading
import TrackerSearch.Proofs.Number.Decimal

/-!
# Numbers and truth values as texts

The text of a number or a truth value is a text and nothing else: no other kind of value, not even
a date, is shown in the same way. So a key of another kind never falls together with a number.
-/
namespace TrackerSearch.Document

open Number Text

variable {d n : Document}

/-- A number or a truth value. -/
def isNumber : Document → Bool
  | bool _ | int _ | float _ => true
  | _ => false

theorem scalarText_of_not_isNumber (h : d.isNumber = false) : d.scalarText = d := by
  cases d with
  | bool b => cases h
  | int n => cases h
  | float x => cases h
  | _ => rfl

theorem scalarText_of_isNumber (h : d.isNumber = true) :
    ∃ s : String, d.scalarText = str s ∧ NumberWord s.toList := by
  cases d with
  | bool b =>
    refine ⟨_, rfl, ?_⟩
    cases b
    · exact .of_mem (c := 'e') (forall_mem_of_all (by decide)) (by decide) (by decide)
    · exact .of_mem (c := 'e') (forall_mem_of_all (by decide)) (by decide) (by decide)
  | int n => exact ⟨_, rfl, numberWord_int n⟩
  | float x => exact ⟨_, rfl, numberWord_float x⟩
  | _ => cases h

@[simp] theorem isNumber_scalarText (d : Document) : d.scalarText.isNumber = false := by
  cases d <;> rfl

@[simp] theorem scalarText_scalarText (d : Document) : d.scalarText.scalarText = d.scalarText :=
  scalarText_of_not_isNumber (isNumber_scalarText d)

/-- A date has digits and minus signs only, and one of these comes after a digit. -/
theorem toList_dateText (year month day : Nat) :
    (∀ c ∈ (dateText year month day).toList, c.isDigit = true ∨ c = '-') ∧
      '-' ∈ (dateText year month day).toList.tail := by
  have hyear := digits_padded 4 year
  have hmonth := digits_padded 2 month
  have hday := digits_padded 2 day
  obtain ⟨c, rest, hpadded⟩ := List.exists_cons_of_ne_nil (padded_ne_nil 4 year)
  rw [dateText, String.toList_ofList]
  constructor
  · intro c hc
    simp only [List.mem_append, List.mem_cons] at hc
    rcases hc with ((hc | rfl | hc) | rfl | hc)
    · exact .inl (hyear c hc)
    · exact .inr rfl
    · exact .inl (hmonth c hc)
    · exact .inr rfl
    · exact .inl (hday c hc)
  · rw [hpadded]
    simp

theorem mem_around {c : Char} {lead : String} (h : c ∈ lead.toList) (s t : String) :
    c ∈ (lead ++ s ++ t).toList := by
  rw [String.toList_append, String.toList_append]
  exact List.mem_append_left _ (List.mem_append_left _ h)

theorem colon_mem_momentText (t : Time.Timestamp) : ':' ∈ (momentText t).toList := by
  rw [momentText, String.toList_ofList]
  refine List.mem_map.mpr ⟨':', ?_, by decide⟩
  simp only [Time.Timestamp.toIso, List.mem_append, List.mem_cons, true_or, or_true]

/-- No value of another kind is shown as a number is. -/
theorem not_numberWord_text (h : d.isNumber = false) (hstr : ∀ s, d ≠ str s) :
    ¬NumberWord d.text.toList := by
  intro hword
  -- Most kinds have a character that numbers do not have.
  have habsent : ∀ c ∈ d.text.toList, isNumberChar c = true := hword.chars
  cases d with
  | str s => exact hstr s rfl
  | bool b => cases h
  | int n => cases h
  | float x => cases h
  | null => exact absurd (habsent 'N' (by decide)) (by decide)
  | bytes data =>
    refine absurd (habsent 'b' ?_) (by decide)
    change 'b' ∈ (bytesText data).toList
    simp [bytesText]
  | date year month day =>
    have hshown : (date year month day).text = dateText year month day := rfl
    obtain ⟨htext, hfirst⟩ := toList_dateText year month day
    rw [hshown] at hword
    obtain ⟨c, hc, hdigit, hminus⟩ := hword.sign hfirst
    exact (htext c hc).elim (fun h => by simp [h] at hdigit) hminus
  | moment t =>
    have hshown : (moment t).text = momentText t := rfl
    rw [hshown] at habsent
    exact absurd (habsent ':' (colon_mem_momentText t)) (by decide)
  | list items =>
    refine absurd (habsent '[' ?_) (by decide)
    unfold text shown
    exact mem_around (by decide) _ _
  | set items =>
    cases items with
    | nil => exact absurd (habsent '(' (by decide)) (by decide)
    | cons j rest =>
      refine absurd (habsent '\x7b' ?_) (by decide)
      unfold text shown
      exact mem_around (by decide) _ _
  | map entries =>
    refine absurd (habsent '\x7b' ?_) (by decide)
    unfold text shown
    exact mem_around (by decide) _ _

/-- A key of another kind than text is never shown as a number. -/
theorem text_ne_of_isNumber {s : String} (hn : n.isNumber = true) (hs : n.scalarText = str s)
    (hd : d.isNumber = false) (hstr : ∀ s, d ≠ str s) : d.text ≠ s := by
  obtain ⟨s', hs', hword⟩ := scalarText_of_isNumber hn
  obtain rfl : s' = s := Document.str.inj (hs'.symm.trans hs)
  rintro rfl
  exact not_numberWord_text hd hstr hword

end TrackerSearch.Document
