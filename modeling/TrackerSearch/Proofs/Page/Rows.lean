import TrackerSearch.Page.Rows

/-!
# Where candidates come from

A candidate of a page is made from the values of one of its rows; it has a title and a link that was
resolved against the base link, and its counts are not negative.
-/
namespace TrackerSearch.Page

open Text Html

variable {d : Definition} {values : RowValues} {c : Candidate} {cs : List Candidate}

/-- A candidate of some rows is made from the values of one of them. -/
theorem mem_candidatesOf {fields : Table SelectorRule} {rows : List Place}
    (h : (candidatesOf d fields rows).outcome = .ok cs) (hc : c ∈ cs) :
    ∃ row ∈ rows, ∃ values, (extractFields row fields).outcome = .ok values ∧
      toCandidate d values = .ok (some c) := by
  induction rows generalizing cs with
  | nil =>
    obtain rfl := Except.ok.inj h
    simp at hc
  | cons row rows ih =>
    simp only [candidatesOf, Traced.outcome_bind_eq_ok, Traced.outcome_ofExcept,
      Traced.outcome_pure, Except.ok.injEq] at h
    obtain ⟨values, hv, found, hf, more, hm, rfl⟩ := h
    rcases List.mem_append.mp hc with hc | hc
    · obtain rfl := Option.mem_toList.mp hc
      exact ⟨row, List.mem_cons_self .., values, hv, hf⟩
    · obtain ⟨row', hr, hrest⟩ := ih hm hc
      exact ⟨row', List.mem_cons_of_mem _ hr, hrest⟩

/-- A page that is not refused has rows, and its candidates are theirs. -/
theorem exists_rows_of_parseRows {page : Source} (h : (parseRows d page).outcome = .ok cs) :
    ∃ search top rows, d.search = some search ∧ page.read (some d.encoding) = .ok top ∧
      locateRows top search.rows = .ok rows ∧
      (candidatesOf d search.fields rows).outcome = .ok cs := by
  unfold parseRows at h
  cases hs : d.search.filter (!·.rows.selector.isEmpty) with
  | none => simp [hs] at h
  | some search =>
    simp only [hs, Traced.outcome_bind_eq_ok, Traced.outcome_ofExcept, Traced.outcome_pure,
      Except.ok.injEq] at h
    obtain ⟨top, htop, rows, hrows, found, hfound, -, -, rfl⟩ := h
    exact ⟨search, top, rows, (Option.filter_eq_some_iff.mp hs).1, htop, hrows, hfound⟩

/-- The values of the fields of a row on the page. -/
def IsRowOf (d : Definition) (page : Source) (values : RowValues) : Prop :=
  ∃ search top rows row, d.search = some search ∧ page.read (some d.encoding) = .ok top ∧
    locateRows top search.rows = .ok rows ∧ row ∈ rows ∧
      (extractFields row search.fields).outcome = .ok values

/-- A candidate of a page is made from the values of one of its rows. -/
theorem mem_parseRows {page : Source} (h : (parseRows d page).outcome = .ok cs) (hc : c ∈ cs) :
    ∃ values, IsRowOf d page values ∧ toCandidate d values = .ok (some c) := by
  obtain ⟨search, top, rows, hsearch, htop, hrows, hcs⟩ := exists_rows_of_parseRows h
  obtain ⟨row, hrow, values, hvalues, hcandidate⟩ := mem_candidatesOf hcs hc
  exact ⟨values, ⟨search, top, rows, row, hsearch, htop, hrows, hrow, hvalues⟩, hcandidate⟩

/-- What a row needs to make a candidate, and what the candidate is. -/
theorem toCandidate_eq_some (h : toCandidate d values = .ok (some c)) :
    ∃ title link magnet detail details, fieldText values "title" = .ok title ∧
      fieldText values "download" = .ok link ∧ resolved d.baseLink.toList link = .ok magnet ∧
      fieldText values "details" = .ok detail ∧
      resolved d.baseLink.toList detail = .ok details ∧ title ≠ [] ∧ magnet ≠ [] ∧
      c = { title := String.ofList title
            magnet := String.ofList magnet
            indexer := d.id
            size := (fieldValue values "size").bind nonEmpty?
            seeders := fieldCount values "seeders"
            leechers := fieldCount values "leechers"
            publishedAt := (dateFields.findSome? fun name =>
                (fieldValue values name).filter (!·.isEmpty)).bind
              fun s => Time.timestampOf (String.ofList s)
            details := nonEmpty? details } := by
  unfold toCandidate at h
  simp only [except_bind_eq_ok] at h
  obtain ⟨title, htitle, link, hlink, magnet, hmagnet, h⟩ := h
  split at h
  · simp [pure, Except.pure] at h
  · rename_i hne
    simp only [except_bind_eq_ok] at h
    obtain ⟨detail, hdetail, details, hdetails, h⟩ := h
    simp only [pure, Except.pure, Except.ok.injEq, Option.some.injEq] at h
    simp only [Bool.or_eq_true, List.isEmpty_iff, not_or] at hne
    exact ⟨title, link, magnet, detail, details, htitle, hlink, hmagnet, hdetail, hdetails,
      hne.1, hne.2, h.symm⟩

theorem countOfText_nonneg (s : List Char) : 0 ≤ Number.countOfText 0 s := by
  unfold Number.countOfText
  split
  · unfold Number.nonNegativeOr
    split
    · assumption
    · exact Int.le_refl 0
  · exact Int.le_refl 0

theorem fieldCount_nonneg (values : RowValues) (name : String) : 0 ≤ fieldCount values name := by
  unfold fieldCount
  split
  · exact countOfText_nonneg _
  · exact Int.le_refl 0

/-- Rows never count fewer than no seeders. -/
theorem seeders_nonneg {page : Source} (h : (parseRows d page).outcome = .ok cs) (hc : c ∈ cs) :
    0 ≤ c.seeders := by
  obtain ⟨values, _, hv⟩ := mem_parseRows h hc
  obtain ⟨_, _, _, _, _, _, _, _, _, _, _, _, rfl⟩ := toCandidate_eq_some hv
  exact fieldCount_nonneg values "seeders"

end TrackerSearch.Page
