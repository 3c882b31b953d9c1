import TrackerSearch.Proofs.Page.Rows

/-!
# What decides which releases are found

Two definitions that agree in their identifier, their links and their encoding, in how rows are
found, and in the rules of the title and the download link read the same releases off a page,
whatever their other rules are. The values of the other fields are a matter of these rules, and so is
whether the page is refused; nothing is said about pages that one of the two refuses.
-/
namespace TrackerSearch.Page

open Text Html

variable {d d' : Definition} {values values' : RowValues} {fields fields' : Table SelectorRule}
  {row : Place} {rows : List Place} {cs cs' : List Candidate} {name : String}

/-- What tells one release from another: its title, its link and its site. -/
def release (c : Candidate) : String × String × String := (c.title, c.magnet, c.indexer)

/-- The rule of a field. -/
def ruleOf? (d : Definition) (name : String) : Option SelectorRule :=
  d.search.bind fun search => search.fields.lookup? name

/-- The same site, and the same rules for its rows, titles and download links. -/
structure SameReleases (d d' : Definition) : Prop where
  id_eq : d'.id = d.id
  links_eq : d'.links = d.links
  encoding_eq : d'.encoding = d.encoding
  rows_eq : d'.search.map (·.rows) = d.search.map (·.rows)
  title_eq : ruleOf? d' "title" = ruleOf? d "title"
  download_eq : ruleOf? d' "download" = ruleOf? d "download"

/-! ## One row -/

/-- What a rule reads off a row; a field without a rule is empty. -/
def readBy (row : Place) (name : String) : Option SelectorRule → Except Failure (Option (List Char))
  | some rule => (extract row (fieldRule name rule)).outcome
  | none => .ok (some [])

/-- The value of a field is a matter of its own rule, whatever rules stand around it. -/
theorem readBy_of_extractFields (h : (extractFields row fields).outcome = .ok values)
    (name : String) : readBy row name (fields.lookup? name) = .ok (fieldValue values name) := by
  induction fields generalizing values with
  | nil =>
    obtain rfl := Except.ok.inj h
    rfl
  | cons field fields ih =>
    obtain ⟨key, rule⟩ := field
    simp only [extractFields, Traced.outcome_bind_eq_ok, Traced.outcome_pure,
      Except.ok.injEq] at h
    obtain ⟨value, hvalue, more, hmore, rfl⟩ := h
    by_cases hkey : key = name
    · subst hkey
      simp [Table.lookup?, fieldValue, readBy, hvalue]
    · have hrest := ih hmore
      simpa [Table.lookup?, fieldValue, hkey] using hrest

theorem fieldValue_eq (hrule : fields'.lookup? name = fields.lookup? name)
    (h : (extractFields row fields).outcome = .ok values)
    (h' : (extractFields row fields').outcome = .ok values') :
    fieldValue values' name = fieldValue values name := by
  have hread := readBy_of_extractFields h name
  have hread' := readBy_of_extractFields h' name
  rw [hrule] at hread'
  exact Except.ok.inj (hread'.symm.trans hread)

/-- What a row makes of its title and its link. -/
theorem release_of_toCandidate {found : Option Candidate}
    (h : toCandidate d values = .ok found) :
    ∃ title link magnet, fieldText values "title" = .ok title ∧
      fieldText values "download" = .ok link ∧ resolved d.baseLink.toList link = .ok magnet ∧
      found.map release = if title.isEmpty || magnet.isEmpty then none else
        some (String.ofList title, String.ofList magnet, d.id) := by
  unfold toCandidate at h
  simp only [except_bind_eq_ok] at h
  obtain ⟨title, htitle, link, hlink, magnet, hmagnet, h⟩ := h
  refine ⟨title, link, magnet, htitle, hlink, hmagnet, ?_⟩
  split at h
  · rename_i hempty
    rw [if_pos hempty, ← Except.ok.inj h]
    rfl
  · rename_i hfull
    simp only [except_bind_eq_ok] at h
    obtain ⟨detail, -, details, -, h⟩ := h
    rw [if_neg hfull, ← Except.ok.inj h]
    rfl

/-- Rows that agree in title and link make the same release or none. -/
theorem release_eq (hid : d'.id = d.id) (hlinks : d'.links = d.links)
    (htitle : fieldValue values' "title" = fieldValue values "title")
    (hdownload : fieldValue values' "download" = fieldValue values "download")
    {found found' : Option Candidate} (h : toCandidate d values = .ok found)
    (h' : toCandidate d' values' = .ok found') : found'.map release = found.map release := by
  obtain ⟨title, link, magnet, ht, hl, hm, hfound⟩ := release_of_toCandidate h
  obtain ⟨title', link', magnet', ht', hl', hm', hfound'⟩ := release_of_toCandidate h'
  have hbase : d'.baseLink = d.baseLink := by rw [Definition.baseLink, hlinks, Definition.baseLink]
  unfold fieldText at ht ht' hl hl'
  rw [htitle] at ht'
  rw [hdownload] at hl'
  obtain rfl := Except.ok.inj (ht'.symm.trans ht)
  obtain rfl := Except.ok.inj (hl'.symm.trans hl)
  rw [hbase] at hm'
  obtain rfl := Except.ok.inj (hm'.symm.trans hm)
  rw [hfound, hfound', hid]

/-! ## Whole pages -/

theorem map_release_candidatesOf (hid : d'.id = d.id) (hlinks : d'.links = d.links)
    (htitle : fields'.lookup? "title" = fields.lookup? "title")
    (hdownload : fields'.lookup? "download" = fields.lookup? "download")
    (h : (candidatesOf d fields rows).outcome = .ok cs)
    (h' : (candidatesOf d' fields' rows).outcome = .ok cs') :
    cs'.map release = cs.map release := by
  induction rows generalizing cs cs' with
  | nil =>
    obtain rfl := Except.ok.inj h
    obtain rfl := Except.ok.inj h'
    rfl
  | cons row rows ih =>
    simp only [candidatesOf, Traced.outcome_bind_eq_ok, Traced.outcome_ofExcept,
      Traced.outcome_pure, Except.ok.injEq] at h h'
    obtain ⟨values, hvalues, found, hfound, more, hmore, rfl⟩ := h
    obtain ⟨values', hvalues', found', hfound', more', hmore', rfl⟩ := h'
    have hrelease := release_eq hid hlinks (fieldValue_eq htitle hvalues hvalues')
      (fieldValue_eq hdownload hvalues hvalues') hfound hfound'
    have hlist : found'.toList.map release = found.toList.map release := by
      rw [← Option.toList_map, ← Option.toList_map, hrelease]
    rw [List.map_append, List.map_append, hlist, ih hmore hmore']

/-- **Secondary fields never decide which releases are found.** Two definitions that agree in the site
and in the rules for rows, titles and download links find as many candidates on a page that neither
refuses, and at each place one with the same title, the same link and the same site. Their other
rules may be any: other ones, more of them or none, and in any order. -/
theorem parseRows_releases (hsame : SameReleases d d') {page : Source}
    (h : (parseRows d page).outcome = .ok cs) (h' : (parseRows d' page).outcome = .ok cs') :
    cs'.map release = cs.map release := by
  obtain ⟨search, top, rows, hs, htop, hrows, hcs⟩ := exists_rows_of_parseRows h
  obtain ⟨search', top', rows', hs', htop', hrows', hcs'⟩ := exists_rows_of_parseRows h'
  have hrule := hsame.rows_eq
  have htitle := hsame.title_eq
  have hdownload := hsame.download_eq
  rw [ruleOf?, ruleOf?, hs, hs', Option.bind_some, Option.bind_some] at htitle hdownload
  rw [hs, hs', Option.map_some, Option.map_some, Option.some.injEq] at hrule
  rw [hsame.encoding_eq] at htop'
  obtain rfl := Except.ok.inj (htop'.symm.trans htop)
  rw [hrule] at hrows'
  obtain rfl := Except.ok.inj (hrows'.symm.trans hrows)
  exact map_release_candidatesOf hsame.id_eq hsame.links_eq htitle hdownload hcs hcs'

/-! ## A site with two tables of rules -/

def ruledSite (fields : Table SelectorRule) : Definition where
  id := "x"
  name := "x"
  links := ["https://x.example/"]
  search := some { rows := { selector := "p" }, fields := fields }

def shortRules : Table SelectorRule :=
  [("title", { selector := "a" }), ("download", { selector := "a" }),
    ("seeders", { selector := "b" })]

/-- The counts are read off the title here, and there are more rules. -/
def longRules : Table SelectorRule :=
  [("details", { selector := "i" }), ("download", { selector := "a" }),
    ("seeders", { selector := "a" }), ("title", { selector := "a" }), ("size", { selector := "b" })]

def countedPage : Source :=
  .text "<p><a href=/1>7</a><b>many</b><p><a href=/2>A</a><b>5</b><p><a href=/3></a>".toList

def counted (title link : String) (size : Option String) (seeders : Int) : Candidate where
  title := title
  magnet := link
  indexer := "x"
  size := size
  seeders := seeders

/-- A count that is no number, a title that is one, and a row without a title. -/
theorem parseRows_releases_of_two_tables :
    SameReleases (ruledSite shortRules) (ruledSite longRules) ∧
    (parseRows (ruledSite shortRules) countedPage).outcome =
      .ok [counted "7" "https://x.example/1" none 0, counted "A" "https://x.example/2" none 5] ∧
    (parseRows (ruledSite longRules) countedPage).outcome =
      .ok [counted "7" "https://x.example/1" (some "many") 7,
        counted "A" "https://x.example/2" (some "5") 0] ∧
    [counted "7" "https://x.example/1" (some "many") 7,
        counted "A" "https://x.example/2" (some "5") 0].map release =
      [counted "7" "https://x.example/1" none 0, counted "A" "https://x.example/2" none 5].map
        release := by
  have hsame : SameReleases (ruledSite shortRules) (ruledSite longRules) := by
    refine ⟨rfl, rfl, rfl, rfl, ?_, ?_⟩
    · decide
    · decide
  have hshort : (parseRows (ruledSite shortRules) countedPage).outcome =
      .ok [counted "7" "https://x.example/1" none 0, counted "A" "https://x.example/2" none 5] := by
    decide +kernel
  have hlong : (parseRows (ruledSite longRules) countedPage).outcome =
      .ok [counted "7" "https://x.example/1" (some "many") 7,
        counted "A" "https://x.example/2" (some "5") 0] := by
    decide +kernel
  exact ⟨hsame, hshort, hlong, parseRows_releases hsame hshort hlong⟩

end TrackerSearch.Page
