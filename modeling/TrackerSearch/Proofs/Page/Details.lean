import TrackerSearch.Proofs.Page.Validity

/-!
# The link on a page of details

The rules for the link are tried in order, and the first one that reads more than blanks gives the
link. That no link was found is said of a page exactly if every rule reads nothing but blanks off it;
a rule whose selector cannot be read ends the search for the link in another way.
-/
namespace TrackerSearch.Page

open Text Html Web

variable {base link value : List Char} {page : Place} {rule : SelectorRule}
  {rules : List SelectorRule}

/-- What a rule for a link reads off a page, without the blanks around it. -/
def Reads (page : Place) (rule : SelectorRule) (value : List Char) : Prop :=
  ∃ raw, (extract page (linkRule rule)).outcome = .ok (some raw) ∧ trim raw = value

/-- The first value that is not empty, of the rules in their order. -/
def FirstRead (page : Place) (rules : List SelectorRule) (value : List Char) : Prop :=
  ∃ before rule after, rules = before ++ rule :: after ∧ (∀ r ∈ before, Reads page r []) ∧
    Reads page rule value ∧ value ≠ []

theorem Reads.unique {value' : List Char} (h : Reads page rule value)
    (h' : Reads page rule value') : value' = value := by
  obtain ⟨raw, hraw, rfl⟩ := h
  obtain ⟨raw', hraw', rfl⟩ := h'
  obtain rfl := Option.some.inj (Except.ok.inj (hraw'.symm.trans hraw))
  rfl

/-! ## Trying the rules -/

theorem firstLink_of_empty (h : Reads page rule []) (rules : List SelectorRule) :
    (firstLink base page (rule :: rules)).outcome = (firstLink base page rules).outcome := by
  obtain ⟨raw, hraw, hempty⟩ := h
  rw [firstLink, Traced.outcome_bind, hraw, Except.bind]
  simp [hempty]

theorem firstLink_of_value (h : Reads page rule value) (hne : value ≠ [])
    (rules : List SelectorRule) :
    (firstLink base page (rule :: rules)).outcome = resolved base value := by
  obtain ⟨raw, hraw, rfl⟩ := h
  rw [firstLink, Traced.outcome_bind, hraw, Except.bind]
  simp [hne]

/-- The failures of a rule: a selector that cannot be read, and faults. -/
def IsOfRule : Failure → Prop
  | .unreadableFragment _ | .fault _ => True
  | _ => False

theorem isOfRule_resolved {failure : Failure} (h : resolved base value = .error failure) :
    IsOfRule failure := by
  unfold resolved at h
  split at h
  · cases h
  · obtain rfl := Except.error.inj h
    trivial

theorem isOfRule_selectorOf {text : String} {failure : Failure}
    (h : selectorOf text = .error failure) : IsOfRule failure := by
  unfold selectorOf at h
  split at h
  · cases h
  · obtain rfl := Except.error.inj h
    trivial
  · obtain rfl := Except.error.inj h
    trivial

theorem isOfRule_target? {selector : String} {failure : Failure}
    (h : target? page selector = .error failure) : IsOfRule failure := by
  unfold target? at h
  split at h
  · cases h
  · rcases except_bind_eq_error.mp h with h | ⟨s, -, h⟩
    · exact isOfRule_selectorOf h
    · cases h

theorem isOfRule_rawValue? {failure : Failure} (h : rawValue? page rule = .error failure) :
    IsOfRule failure := by
  unfold rawValue? at h
  split at h
  · cases h
  · rcases except_bind_eq_error.mp h with h | ⟨found, -, h⟩
    · exact isOfRule_target? h
    · split at h
      · cases h
      · dsimp only at h
        split at h
        · cases h
        · rcases except_bind_eq_error.mp h with h | ⟨s, -, h⟩
          · exact isOfRule_selectorOf h
          · cases h

theorem isOfRule_extract {failure : Failure} (h : (extract page rule).outcome = .error failure) :
    IsOfRule failure := by
  unfold extract at h
  rcases Traced.outcome_bind_eq_error.mp h with h | ⟨raw, -, h⟩
  · exact isOfRule_rawValue? h
  · split at h
    · cases h
    · rename_i value
      cases hfilters : (Filter.applyAll rule.filters
          (some (throughCases rule.cases value))).outcome with
      | ok v =>
        rw [Traced.mapError, hfilters] at h
        cases h
      | error fault =>
        rw [Traced.mapError, hfilters] at h
        obtain rfl := Except.error.inj h
        trivial

/-- A rule reads a text, empty or not, or it fails. -/
theorem reads_cases (page : Place) (rule : SelectorRule) :
    (∃ value, Reads page rule value) ∨ (∀ value, ¬Reads page rule value) ∧
      ∃ failure, IsOfRule failure ∧
        ∀ base rules, (firstLink base page (rule :: rules)).outcome = .error failure := by
  cases hread : (extract page (linkRule rule)).outcome with
  | error failure =>
    refine .inr ⟨?_, failure, isOfRule_extract hread, fun base rules => ?_⟩
    · rintro value ⟨raw, hraw, -⟩
      cases hread.symm.trans hraw
    · rw [firstLink, Traced.outcome_bind, hread, Except.bind]
  | ok found =>
    cases found with
    | none =>
      refine .inr ⟨?_, .fault .wrongType, trivial, fun base rules => ?_⟩
      · rintro value ⟨raw, hraw, -⟩
        cases hread.symm.trans hraw
      · rw [firstLink, Traced.outcome_bind, hread, Except.bind]
        rfl
    | some raw => exact .inl ⟨trim raw, raw, hread, rfl⟩

/-- The first value is the one of the first rule, unless that is empty. -/
theorem firstRead_cons : FirstRead page (rule :: rules) value ↔
    (Reads page rule value ∧ value ≠ []) ∨ Reads page rule [] ∧ FirstRead page rules value := by
  constructor
  · rintro ⟨before, r, after, hrules, hbefore, hread, hne⟩
    cases before with
    | nil =>
      obtain ⟨rfl, rfl⟩ := List.cons.inj hrules
      exact .inl ⟨hread, hne⟩
    | cons r' before =>
      obtain ⟨rfl, rfl⟩ := List.cons.inj hrules
      obtain ⟨hempty, hbefore⟩ := List.forall_mem_cons.mp hbefore
      exact .inr ⟨hempty, before, r, after, rfl, hbefore, hread, hne⟩
  · rintro (⟨hread, hne⟩ | ⟨hempty, before, r, after, rfl, hbefore, hread, hne⟩)
    · exact ⟨[], rule, rules, rfl, by simp, hread, hne⟩
    · exact ⟨rule :: before, r, after, rfl, List.forall_mem_cons.mpr ⟨hempty, hbefore⟩, hread, hne⟩

/-- The link is what the first value stands for. -/
theorem firstLink_eq_ok : (firstLink base page rules).outcome = .ok link ↔
    ∃ value, FirstRead page rules value ∧ resolved base value = .ok link := by
  induction rules with
  | nil =>
    constructor
    · intro h
      cases h
    · rintro ⟨value, ⟨before, rule, after, hrules, -⟩, -⟩
      cases List.append_eq_nil_iff.mp hrules.symm |>.2
  | cons rule rules ih =>
    simp only [firstRead_cons]
    rcases reads_cases page rule with ⟨value, hread⟩ | ⟨hnone, failure, -, hfails⟩
    · by_cases hne : value = []
      · subst hne
        rw [firstLink_of_empty hread, ih]
        constructor
        · rintro ⟨value, hfirst, hlink⟩
          exact ⟨value, .inr ⟨hread, hfirst⟩, hlink⟩
        · rintro ⟨value, ⟨hvalue, hne⟩ | ⟨-, hfirst⟩, hlink⟩
          · exact absurd (hread.unique hvalue) hne
          · exact ⟨value, hfirst, hlink⟩
      · rw [firstLink_of_value hread hne]
        constructor
        · intro hlink
          exact ⟨value, .inl ⟨hread, hne⟩, hlink⟩
        · rintro ⟨value', ⟨hvalue, -⟩ | ⟨hempty, -⟩, hlink⟩
          · rw [← hread.unique hvalue]
            exact hlink
          · exact absurd (hempty.unique hread) hne
    · rw [hfails]
      constructor
      · intro h
        cases h
      · rintro ⟨value, ⟨hvalue, -⟩ | ⟨hempty, -⟩, -⟩
        · exact absurd hvalue (hnone value)
        · exact absurd hempty (hnone [])

/-- No link is found exactly if there is no value. -/
theorem firstLink_eq_linkNotFound : (firstLink base page rules).outcome = .error .linkNotFound ↔
    ∀ rule ∈ rules, Reads page rule [] := by
  induction rules with
  | nil => simp [firstLink]
  | cons rule rules ih =>
    rw [List.forall_mem_cons]
    rcases reads_cases page rule with ⟨value, hread⟩ | ⟨hnone, failure, hother, hfails⟩
    · by_cases hne : value = []
      · subst hne
        rw [firstLink_of_empty hread, ih]
        exact (and_iff_right hread).symm
      · rw [firstLink_of_value hread hne]
        constructor
        · intro h
          cases isOfRule_resolved h
        · rintro ⟨hempty, -⟩
          exact absurd (hempty.unique hread) hne
    · rw [hfails]
      constructor
      · rintro h
        obtain rfl := Except.error.inj h
        cases hother
      · rintro ⟨hempty, -⟩
        exact absurd hempty (hnone [])

/-! ## Whole pages -/

variable {source : Source}

theorem parseDetails_eq_ok : (parseDetails base rules source).outcome = .ok link ↔
    ∃ top value, source.read none = .ok top ∧ FirstRead top rules value ∧
      resolveLink? base value = some link := by
  rw [parseDetails, Traced.outcome_bind_eq_ok]
  simp only [Traced.outcome_ofExcept, firstLink_eq_ok, resolved_eq_ok]
  constructor
  · rintro ⟨top, htop, value, hfirst, hlink⟩
    exact ⟨top, value, htop, hfirst, hlink⟩
  · rintro ⟨top, value, htop, hfirst, hlink⟩
    exact ⟨top, htop, value, hfirst, hlink⟩

theorem parseDetails_eq_linkNotFound :
    (parseDetails base rules source).outcome = .error .linkNotFound ↔
      ∃ top, source.read none = .ok top ∧ ∀ rule ∈ rules, Reads top rule [] := by
  rw [parseDetails, Traced.outcome_bind_eq_error]
  simp only [Traced.outcome_ofExcept, firstLink_eq_linkNotFound]
  refine or_iff_right fun h => ?_
  unfold Source.read at h
  split at h
  · cases h
  · cases h

end TrackerSearch.Page
