import TrackerSearch.Proofs.Page.Rows
import TrackerSearch.Proofs.Text.Blank
import TrackerSearch.Proofs.Web.Link

/-!
# Candidates of a page are valid

Whatever stands on a page and whatever the filters make of it, a candidate has a title and an
absolute link, and its other fields are missing rather than empty. Nothing is said about pages that
are refused.
-/
namespace TrackerSearch.Page

open Text Html Web

variable {d : Definition} {values : RowValues} {c : Candidate} {cs : List Candidate}

/-- What a candidate of a site fulfils. -/
structure IsValid (d : Definition) (c : Candidate) : Prop where
  title_ne_empty : c.title ≠ ""
  title_trimmed : Trimmed c.title.toList
  magnet_ne_empty : c.magnet ≠ ""
  magnet_absolute : isAbsoluteLink c.magnet.toList = true
  /-- Resolving a link once more does not change it. -/
  magnet_resolved : resolveLink? d.baseLink.toList c.magnet.toList = some c.magnet.toList
  seeders_nonneg : 0 ≤ c.seeders
  leechers_nonneg : 0 ≤ c.leechers
  size_ne_empty : c.size ≠ some ""
  details_absolute : ∀ link ∈ c.details, isAbsoluteLink link.toList = true
  details_resolved : ∀ link ∈ c.details,
    resolveLink? d.baseLink.toList link.toList = some link.toList
  published_aware : ∀ t ∈ c.publishedAt, t.offset.isSome = true
  indexer_eq : c.indexer = d.id

/-- The link of a candidate whose row gives a path is that path behind the base link. -/
def IsLinkOf (d : Definition) (values : RowValues) (magnet : List Char) : Prop :=
  ∃ value, fieldText values "download" = .ok value ∧
    (isAbsoluteLink value = false → startsWith ['/', '/'] value = false →
      magnet = dropFinalSlash d.baseLink.toList ++ '/' :: dropFirstSlash value)

theorem ofList_ne_empty {s : List Char} (h : s ≠ []) : String.ofList s ≠ "" :=
  fun he => h (String.ofList_injective he)

theorem nonEmpty?_eq_some {s : List Char} {text : String} (h : nonEmpty? s = some text) :
    s ≠ [] ∧ text = String.ofList s := by
  unfold nonEmpty? at h
  split at h
  · cases h
  · rename_i hs
    exact ⟨fun he => hs (by rw [he]; rfl), (Option.some.inj h).symm⟩

theorem nonEmpty?_ne_some_empty (s : List Char) : nonEmpty? s ≠ some "" := by
  intro h
  obtain ⟨hne, he⟩ := nonEmpty?_eq_some h
  exact ofList_ne_empty hne he.symm

theorem resolved_eq_ok {base value link : List Char} :
    resolved base value = .ok link ↔ resolveLink? base value = some link := by
  unfold resolved
  split <;> simp_all

theorem fieldText_trimmed {name : String} {s : List Char} (h : fieldText values name = .ok s) :
    Trimmed s := by
  unfold fieldText at h
  split at h
  · rw [← Except.ok.inj h]
    exact trimmed_trim _
  · cases h

theorem timestampOf_offset {s : String} {t : Time.Timestamp} (h : Time.timestampOf s = some t) :
    t.offset.isSome = true := by
  unfold Time.timestampOf at h
  split at h
  · cases h
  · obtain ⟨u, _, rfl⟩ := Option.map_eq_some_iff.mp h
    rfl

/-- A row of a site of the web makes a valid candidate or none. -/
theorem toCandidate_isValid (hw : IsWebLink d.baseLink.toList)
    (h : toCandidate d values = .ok (some c)) :
    IsValid d c ∧ IsLinkOf d values c.magnet.toList := by
  obtain ⟨title, link, magnet, detail, details, htitle, hlink, hmagnet, _, hdetails, htitle_ne,
    hmagnet_ne, rfl⟩ := toCandidate_eq_some h
  rw [resolved_eq_ok] at hmagnet hdetails
  have habsolute := isAbsoluteLink_resolveLink? hw hmagnet hmagnet_ne
  have hdetail : ∀ text ∈ nonEmpty? details, isAbsoluteLink text.toList = true := by
    intro text ht
    obtain ⟨hne, rfl⟩ := nonEmpty?_eq_some ht
    rw [String.toList_ofList]
    exact isAbsoluteLink_resolveLink? hw hdetails hne
  constructor
  · refine {
      title_ne_empty := ofList_ne_empty htitle_ne
      title_trimmed := ?_
      magnet_ne_empty := ofList_ne_empty hmagnet_ne
      magnet_absolute := ?_
      magnet_resolved := ?_
      seeders_nonneg := fieldCount_nonneg values "seeders"
      leechers_nonneg := fieldCount_nonneg values "leechers"
      size_ne_empty := ?_
      details_absolute := hdetail
      details_resolved := fun text ht => resolveLink?_of_isAbsoluteLink (hdetail text ht) _
      published_aware := ?_
      indexer_eq := rfl }
    · rw [String.toList_ofList]
      exact fieldText_trimmed htitle
    · rw [String.toList_ofList]
      exact habsolute
    · rw [String.toList_ofList]
      exact resolveLink?_of_isAbsoluteLink habsolute _
    · intro hsize
      obtain ⟨s, _, hs⟩ := Option.bind_eq_some_iff.mp hsize
      exact nonEmpty?_ne_some_empty s hs
    · intro t ht
      obtain ⟨_, _, hs⟩ := Option.bind_eq_some_iff.mp ht
      exact timestampOf_offset hs
  · refine ⟨link, hlink, fun ha hn => ?_⟩
    have hne : link ≠ [] := by
      rintro rfl
      exact hmagnet_ne (Option.some.inj hmagnet).symm
    rw [resolveLink?_of_path hne ha hn] at hmagnet
    rw [String.toList_ofList, Option.some.inj hmagnet]

/-- Every candidate of a page of a site of the web is valid and comes from a row whose link it
carries. -/
theorem parseRows_isValid {page : Source} (hw : IsWebLink d.baseLink.toList)
    (h : (parseRows d page).outcome = .ok cs) :
    ∀ c ∈ cs, IsValid d c ∧ ∃ values, IsRowOf d page values ∧
      toCandidate d values = .ok (some c) ∧ IsLinkOf d values c.magnet.toList := by
  intro c hc
  obtain ⟨values, hrow, hv⟩ := mem_parseRows h hc
  obtain ⟨hvalid, hlink⟩ := toCandidate_isValid hw hv
  exact ⟨hvalid, values, hrow, hv, hlink⟩

def sampleSite : Definition where
  id := "sample"
  name := "Sample"
  links := ["HTTPS://sample.example/"]
  search := some {
    rows := { selector := "p" }
    fields := [("title", { selector := "a" }), ("download", { selector := "a" })] }

/-- Three rows: a path, a network reference, a magnet link; and one without a link. -/
def samplePage : Source :=
  .text "<p><a href=/x>A</a><p><a href=//b.example/y>B</a><p><a href=MAGNET:z>C</a><p>D".toList

def sampleCandidates : List Candidate :=
  [{ title := "A", magnet := "HTTPS://sample.example/x", indexer := "sample" },
    { title := "B", magnet := "https://b.example/y", indexer := "sample" },
    { title := "C", magnet := "MAGNET:z", indexer := "sample" }]

theorem parseRows_of_three_links :
    IsWebLink sampleSite.baseLink.toList ∧
    (parseRows sampleSite samplePage).outcome = .ok sampleCandidates ∧
    ∀ c ∈ sampleCandidates, IsValid sampleSite c ∧ ∃ values,
      IsRowOf sampleSite samplePage values ∧ toCandidate sampleSite values = .ok (some c) ∧
        IsLinkOf sampleSite values c.magnet.toList :=
  have hw : IsWebLink sampleSite.baseLink.toList := by decide +kernel
  have h : (parseRows sampleSite samplePage).outcome = .ok sampleCandidates := by decide +kernel
  ⟨hw, h, parseRows_isValid hw h⟩

end TrackerSearch.Page
