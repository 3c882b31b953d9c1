import TrackerSearch.Proofs.Page.Details
import TrackerSearch.Proofs.Search.Winner
import TrackerSearch.Proofs.Text.Letter

/-!
# Looking up one link

The look-up of a candidate's link fetches one page at most, and changes the link at most. It visits
the page of details, or else the candidate's own link unless that is a magnet link. Only magnet links
whose scheme is in lower case are recognized here, although links are told apart ignoring case
elsewhere; one with a capital in it is fetched as if it were a page. Nothing is said about where
redirects lead a fetch.
-/
namespace TrackerSearch

/-- A magnet link, ignoring case. -/
def Candidate.HasMagnetLink (c : Candidate) : Prop :=
  Text.startsWith "magnet:".toList (Text.lower c.magnet.toList) = true

instance : DecidablePred Candidate.HasMagnetLink := fun c =>
  inferInstanceAs (Decidable (Text.startsWith _ (Text.lower c.magnet.toList) = true))

namespace Search

open Http

variable {c : Candidate} {d : Definition} {e : Engine} {page : String} {rule : DownloadRule}
  {world : Network} {past : List Request}

/-! ## The page -/

/-- The page that is visited for a candidate: the one with its details, or else the one under its own
link, unless that is a magnet link. A scheme with a capital in it does not count as one. -/
inductive Visits (c : Candidate) : String → Prop where
  | details {page : String} : c.details = some page → page ≠ "" → Visits c page
  | own : (∀ page ∈ c.details, page = "") → c.magnet ≠ "" → ¬c.HasMagnetLink → Visits c c.magnet
  | capital : (∀ page ∈ c.details, page = "") → c.HasMagnetLink → c.isMagnet = false →
      Visits c c.magnet

theorem hasMagnetLink_of_isMagnet (h : c.isMagnet = true) : c.HasMagnetLink := by
  obtain ⟨rest, hrest⟩ := String.startsWith_string_iff.mp h
  exact (Text.startsWith_lower (Text.forall_mem_of_all (by decide))).mpr
    ⟨"magnet:".toList, rest, hrest.symm, Text.forall_mem_of_all (by decide), by decide⟩

theorem magnet_ne_of_hasMagnetLink (h : c.HasMagnetLink) : c.magnet ≠ "" := by
  intro hempty
  rw [Candidate.HasMagnetLink, hempty] at h
  exact absurd h (by decide)

theorem visits_own (hdetails : ∀ page ∈ c.details, page = "") (hne : c.magnet ≠ "")
    (hmagnet : c.isMagnet = false) : Visits c c.magnet := by
  by_cases hlink : c.HasMagnetLink
  · exact .capital hdetails hlink hmagnet
  · exact .own hdetails hne hlink

theorem detailsPage?_eq_some : Engine.detailsPage? c = some page ↔ Visits c page := by
  have hnone : (∀ page ∈ c.details, page = "") → c.details.filter (!·.isEmpty) = none := by
    intro hempty
    rw [Option.filter_eq_none_iff]
    intro page hpage
    simp [hempty page hpage]
  have hown : (∀ page ∈ c.details, page = "") → c.magnet ≠ "" → c.isMagnet = false →
      Engine.detailsPage? c = some c.magnet := by
    intro hempty hne hmagnet
    have hvisit : ¬(c.isMagnet || c.magnet.isEmpty) = true := by simp [hmagnet, hne]
    rw [Engine.detailsPage?, hnone hempty]
    exact if_neg hvisit
  constructor
  · intro h
    unfold Engine.detailsPage? at h
    cases hfilter : c.details.filter (!·.isEmpty) with
    | some found =>
      simp only [hfilter] at h
      obtain rfl := Option.some.inj h
      obtain ⟨hdetails, hne⟩ := Option.filter_eq_some_iff.mp hfilter
      exact .details hdetails (by simpa using hne)
    | none =>
      simp only [hfilter] at h
      split at h
      · cases h
      · rename_i hvisit
        obtain rfl := Option.some.inj h
        simp only [Bool.or_eq_true, String.isEmpty_iff, not_or, Bool.not_eq_true] at hvisit
        refine visits_own (fun page hpage => ?_) hvisit.2 hvisit.1
        simpa using Option.filter_eq_none_iff.mp hfilter page hpage
  · intro h
    cases h with
    | details hdetails hne =>
      have hfilter : c.details.filter (!·.isEmpty) = some page :=
        Option.filter_eq_some_iff.mpr ⟨hdetails, by simp [hne]⟩
      rw [Engine.detailsPage?, hfilter]
    | own hempty hne hlink =>
      exact hown hempty hne (Bool.eq_false_iff.mpr fun h => hlink (hasMagnetLink_of_isMagnet h))
    | capital hempty hlink hmagnet =>
      exact hown hempty (magnet_ne_of_hasMagnetLink hlink) hmagnet

namespace Engine

/-- The fetch of a page by the rule for its link. -/
def pageFetch (e : Engine) (d : Definition) (rule : DownloadRule) (page : String) :
    Online Failure Page.Source := do
  let route ← Dialogue.ofTraced (e.means.routeFor d e.useRelay)
  route.fetch page.toList rule.method.wire []

theorem detailsFetch?_eq_some (hrule : d.download = some rule) (hne : rule.selectors ≠ [])
    (hpage : Visits c page) : e.detailsFetch? d c = some (e.pageFetch d rule page) := by
  have hfilter : d.download.filter (!·.selectors.isEmpty) = some rule :=
    Option.filter_eq_some_iff.mpr ⟨hrule, by simp [hne]⟩
  rw [detailsFetch?, hfilter, detailsPage?_eq_some.mpr hpage]
  rfl

theorem detailsFetch?_eq_none
    (h : (∀ rule ∈ d.download, rule.selectors = []) ∨ ∀ page, ¬Visits c page) :
    e.detailsFetch? d c = none := by
  rcases h with h | h
  · have hfilter : d.download.filter (!·.selectors.isEmpty) = none := by
      rw [Option.filter_eq_none_iff]
      intro rule hrule
      simp [h rule hrule]
    rw [detailsFetch?, hfilter]
  · have hpage : detailsPage? c = none := by
      rw [Option.eq_none_iff_forall_ne_some]
      exact fun page hpage => h page (detailsPage?_eq_some.mp hpage)
    rw [detailsFetch?, hpage]
    cases d.download.filter (!·.selectors.isEmpty) with
    | none => rfl
    | some rule => rfl

/-! ## What becomes of the candidate -/

/-- A computation that fetches a page first and then asks for nothing else. -/
def FetchesOnce {α : Type} (x : Online Failure α) (fetch : Online Failure Page.Source) : Prop :=
  ∃ rest : Page.Source → Online Failure α, x = fetch >>= rest ∧
    ∀ source world past, (rest source world past).asked = []

/-- What becomes of a candidate whose page is visited by a rule. -/
structure LooksUpOn (e : Engine) (d : Definition) (c : Candidate) (rule : DownloadRule)
    (page : String) : Prop where
  fetches_once : FetchesOnce (e.resolveDownload d c) (e.pageFetch d rule page)
  /-- The link is what the first value stands for. -/
  ending_eq_done : ∀ (world : Network) (past : List Request) (c' : Candidate),
    (e.resolveDownload d c world past).ending = .done c' ↔ ∃ source top value link,
      (e.pageFetch d rule page world past).ending = .done source ∧
      source.read none = .ok top ∧ Page.FirstRead top rule.selectors value ∧
      Web.resolveLink? d.baseLink.toList value = some link ∧
      c' = { c with magnet := String.ofList link }
  /-- No link is found exactly if there is no value. -/
  ending_eq_linkNotFound : ∀ (world : Network) (past : List Request),
    (e.resolveDownload d c world past).ending = .failed .linkNotFound ↔ ∃ source top,
      (e.pageFetch d rule page world past).ending = .done source ∧
      source.read none = .ok top ∧ ∀ r ∈ rule.selectors, Page.Reads top r []

theorem fetchesOnce_of_fetch {fetch : Online Failure Page.Source}
    (h : e.detailsFetch? d c = some fetch) : FetchesOnce (e.resolveDownload d c) fetch :=
  ⟨relink d c, resolveDownload_of_fetch h, asked_relink d c⟩

/-- Fetching a page never says that there is no link on it. -/
theorem ending_pageFetch_ne_linkNotFound :
    (e.pageFetch d rule page world past).ending ≠ .failed .linkNotFound := by
  intro h
  obtain ⟨route, hroute⟩ := Fetch.Means.outcome_routeFor e.means d e.useRelay
  rcases Dialogue.ending_bind_eq_failed.mp h with h | ⟨route', -, h⟩
  · rw [Dialogue.ending_ofTraced_eq_failed, hroute] at h
    cases h
  · exact Fetch.isOfFetch_fetch h

/-- A look-up says that there is no link exactly if the page that was fetched has none. -/
theorem ending_resolveDownload_eq_linkNotFound {fetch : Online Failure Page.Source}
    (h : e.detailsFetch? d c = some fetch)
    (hfetch : (fetch world past).ending ≠ .failed .linkNotFound) :
    (e.resolveDownload d c world past).ending = .failed .linkNotFound ↔ ∃ source,
      (fetch world past).ending = .done source ∧ detailsLink d source = .error .linkNotFound := by
  rw [resolveDownload_of_fetch h]
  simp only [relink, Dialogue.ending_bind_eq_failed, Dialogue.ending_ofTraced_eq_failed]
  constructor
  · rintro (hfailed | ⟨source, hsource, hlink | ⟨link, -, hreport | ⟨_, -, hdone⟩⟩⟩)
    · exact absurd hfailed hfetch
    · exact ⟨source, hsource, hlink⟩
    · cases hreport
    · cases hdone
  · rintro ⟨source, hsource, hlink⟩
    exact .inr ⟨source, hsource, .inl hlink⟩

theorem looksUpOn (hrule : d.download = some rule) (hne : rule.selectors ≠ [])
    (hpage : Visits c page) : e.LooksUpOn d c rule page := by
  have hfetch := detailsFetch?_eq_some (e := e) hrule hne hpage
  have hselectors : (d.download.map (·.selectors)).getD [] = rule.selectors := by
    rw [hrule]
    rfl
  refine ⟨fetchesOnce_of_fetch hfetch, fun world past c' => ?_, fun world past => ?_⟩
  · rw [ending_resolveDownload_eq_done hfetch]
    simp only [detailsLink, hselectors, Page.parseDetails_eq_ok]
    constructor
    · rintro ⟨source, link, hsource, ⟨top, value, htop, hfirst, hlink⟩, rfl⟩
      exact ⟨source, top, value, link, hsource, htop, hfirst, hlink, rfl⟩
    · rintro ⟨source, top, value, link, hsource, htop, hfirst, hlink, rfl⟩
      exact ⟨source, link, hsource, ⟨top, value, htop, hfirst, hlink⟩, rfl⟩
  · rw [ending_resolveDownload_eq_linkNotFound hfetch ending_pageFetch_ne_linkNotFound]
    simp only [detailsLink, hselectors, Page.parseDetails_eq_linkNotFound]
    constructor
    · rintro ⟨source, hsource, top, htop, hempty⟩
      exact ⟨source, top, hsource, htop, hempty⟩
    · rintro ⟨source, top, hsource, htop, hempty⟩
      exact ⟨source, hsource, top, htop, hempty⟩

theorem exists_link_of_resolveDownload {c' : Candidate}
    (h : (e.resolveDownload d c world past).ending = .done c') :
    ∃ link, c' = { c with magnet := link } := by
  cases hfetch : e.detailsFetch? d c with
  | none =>
    rw [resolveDownload_of_no_fetch hfetch] at h
    obtain rfl := Ending.done.inj h
    exact ⟨c.magnet, rfl⟩
  | some fetch =>
    obtain ⟨source, link, -, -, rfl⟩ := (ending_resolveDownload_eq_done hfetch).mp h
    exact ⟨String.ofList link, rfl⟩

/-- **A look-up fetches one page and changes one link.** What it returns differs from the candidate
in the link at most. With selectors in the rule and a page to visit it makes one fetch and no other,
and the link is what the first value off the page stands for; that there is none is said exactly if
every selector reads an empty value. Without selectors or a page it returns the candidate, and asks
for nothing. -/
theorem resolveDownload_visits (e : Engine) (d : Definition) (c : Candidate) :
    (∀ (world : Network) (past : List Request) (c' : Candidate),
      (e.resolveDownload d c world past).ending = .done c' →
        ∃ link, c' = { c with magnet := link }) ∧
    (∀ rule page, d.download = some rule → rule.selectors ≠ [] → Visits c page →
      e.LooksUpOn d c rule page) ∧
    ((∀ rule ∈ d.download, rule.selectors = []) ∨ (∀ page, ¬Visits c page) →
      e.resolveDownload d c = pure c) :=
  ⟨fun _ _ _ h => exists_link_of_resolveDownload h,
    fun _ _ hrule hne hpage => looksUpOn hrule hne hpage,
    fun h => resolveDownload_of_no_fetch (detailsFetch?_eq_none h)⟩

/-! ## A site whose second selector finds the link -/

def linkRules : DownloadRule := { selectors := [{ selector := "b" }, { selector := "a" }] }

def linkedSite : Definition where
  id := "x"
  name := "x"
  links := ["https://x.example/"]
  download := some linkRules

def linkingEngine : Engine where
  means := { client := { userAgent := none, followRedirects := true }, relay := none }

/-- Every page has a link in bold type that leads nowhere, and one without a site. -/
def linkedNetwork : Network := fun _ _ =>
  some (.ok { status := 200, body := Text.utf8 "<b href=' '>A</b><a href=' /9 '>A</a>".toList })

def listedAt (link : String) : Candidate where
  title := "A"
  magnet := link
  indexer := "x"

theorem not_visits_magnet : ∀ page, ¬Visits (listedAt "magnet:9") page := fun _ h => by
  have hpage := detailsPage?_eq_some.mpr h
  have hnone : detailsPage? (listedAt "magnet:9") = none := by decide +kernel
  cases hpage.symm.trans hnone

/-- A candidate with a page, and one with a magnet link. -/
theorem resolveDownload_visits_of_listed :
    (linkedSite.download = some linkRules ∧ linkRules.selectors ≠ [] ∧
      Visits (listedAt "https://x.example/1") "https://x.example/1" ∧
      linkingEngine.LooksUpOn linkedSite (listedAt "https://x.example/1") linkRules
        "https://x.example/1") ∧
    ((linkingEngine.resolveDownload linkedSite (listedAt "https://x.example/1") linkedNetwork
        []).ending = .done (listedAt "https://x.example/9") ∧
      ∃ link, listedAt "https://x.example/9" =
        { listedAt "https://x.example/1" with magnet := link }) ∧
    (∀ page, ¬Visits (listedAt "magnet:9") page) ∧
    linkingEngine.resolveDownload linkedSite (listedAt "magnet:9") = pure (listedAt "magnet:9") := by
  have hvisits : Visits (listedAt "https://x.example/1") "https://x.example/1" :=
    detailsPage?_eq_some.mp (by decide +kernel)
  have hdone : (linkingEngine.resolveDownload linkedSite (listedAt "https://x.example/1")
      linkedNetwork []).ending = .done (listedAt "https://x.example/9") := by decide +kernel
  obtain ⟨hlink, hlooks, -⟩ :=
    resolveDownload_visits linkingEngine linkedSite (listedAt "https://x.example/1")
  obtain ⟨-, -, hnone⟩ := resolveDownload_visits linkingEngine linkedSite (listedAt "magnet:9")
  exact ⟨⟨rfl, by decide, hvisits, hlooks linkRules _ rfl (by decide) hvisits⟩,
    ⟨hdone, hlink _ _ _ hdone⟩, not_visits_magnet, hnone (.inr not_visits_magnet)⟩

/-- A magnet link with a capital in its scheme is fetched. -/
theorem resolveDownload_of_capital_magnet :
    (listedAt "MAGNET:?x").HasMagnetLink ∧ (listedAt "MAGNET:?x").details = none ∧
    (linkingEngine.resolveDownload linkedSite (listedAt "MAGNET:?x") linkedNetwork []).asked ≠ [] ∧
    linkingEngine.resolveDownload linkedSite (listedAt "MAGNET:?x") ≠
      pure (listedAt "MAGNET:?x") := by
  have hasked : (linkingEngine.resolveDownload linkedSite (listedAt "MAGNET:?x") linkedNetwork
      []).asked ≠ [] := by decide +kernel
  refine ⟨by decide +kernel, rfl, hasked, fun hpure => hasked ?_⟩
  rw [hpure]
  rfl

end Engine

end Search
end TrackerSearch
