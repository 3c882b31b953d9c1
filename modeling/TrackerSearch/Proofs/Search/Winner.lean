import Mathlib.Data.List.Nodup
import TrackerSearch.Proofs.Search.Resolution

/-!
# What looking up the link changes

Two runs of one search are compared, the first without and the second with the look-up of the
selected candidate's link; the searches of both contribute the same. Their selections differ in the
link of the candidate at the head of the ranking and in nothing else (`SameButLink`). The second run
asks for one page more at most, and it reads that page by the rule and the base link of the one
definition whose search can have found the candidate. Nothing is said about runs that have no answer.
-/
namespace TrackerSearch.Search

variable {cs : List Candidate} {c c' : Candidate} {minSeeders : Int}

/-- The same selection, but for the link of the candidate at the head. -/
structure Selection.SameButLink (before after : Selection) : Prop where
  outcome_eq : after.outcome = before.outcome
  minSeeders_eq : after.minSeeders = before.minSeeders
  failures_eq : after.failures = before.failures
  total_eq : after.totalResults = before.totalResults
  behind_eq : ∀ i, 0 < i → after.ranked[i]? = before.ranked[i]?
  head_eq : after.ranked.head? = before.ranked.head? ∨ ∃ c link,
    before.ranked.head? = some c ∧ after.ranked.head? = some { c with magnet := link }
  selected_eq : after.selected = if after.outcome = .found then after.ranked.head? else none

/-! ## The candidate at the head -/

/-- The selected candidate is replaced at the head, even among equal ones. -/
theorem replaceSelected_of_head (h : minSeeders ≤ c.seeders) (c' : Candidate) :
    replaceSelected (c :: cs) minSeeders c' = c' :: cs := by
  have hfirst : (c :: cs).findIdx? (hasEnough minSeeders) = some 0 := by
    simp [List.findIdx?_cons, hasEnough, h]
  rw [replaceSelected, hfirst]
  rfl

/-- Where a candidate is selected, it is at the head; elsewhere there is none. -/
theorem selected_selectionOf (minSeeders : Int) (results : List Contribution) :
    (selectionOf minSeeders results).selected =
      if (selectionOf minSeeders results).outcome = .found then
        (selectionOf minSeeders results).ranked.head?
      else none := by
  have hpolicy := policy_selectionOf minSeeders results
  split
  · rename_i hfound
    obtain ⟨c, hc⟩ := Option.isSome_iff_exists.mp (hpolicy.isSome_iff.mpr hfound)
    rw [hc, (hpolicy.selected c hc).2.1]
  · rename_i hnot
    exact Option.not_isSome_iff_eq_none.mp fun hsome => hnot (hpolicy.isSome_iff.mp hsome)

theorem sameButLink_refl (minSeeders : Int) (results : List Contribution) :
    (selectionOf minSeeders results).SameButLink (selectionOf minSeeders results) where
  outcome_eq := rfl
  minSeeders_eq := rfl
  failures_eq := rfl
  total_eq := rfl
  behind_eq _ _ := rfl
  head_eq := .inl rfl
  selected_eq := selected_selectionOf minSeeders results

/-- Looking up the link that a candidate has changes nothing. -/
theorem withResolved_self {results : List Contribution}
    (hc : (selectionOf minSeeders results).selected = some c) :
    (selectionOf minSeeders results).withResolved c = selectionOf minSeeders results := by
  obtain ⟨-, hhead, henough⟩ := (policy_selectionOf minSeeders results).selected c hc
  obtain ⟨rest, hranked⟩ := List.head?_eq_some_iff.mp hhead
  have hsame : replaceSelected (selectionOf minSeeders results).ranked
      (selectionOf minSeeders results).minSeeders c = (selectionOf minSeeders results).ranked := by
    rw [hranked]
    exact replaceSelected_of_head henough c
  rw [Selection.withResolved, hsame, ← hc]

theorem sameButLink_withResolved {results : List Contribution} (link : String)
    (hc : (selectionOf minSeeders results).selected = some c) :
    (selectionOf minSeeders results).SameButLink
      ((selectionOf minSeeders results).withResolved { c with magnet := link }) := by
  have hpolicy := policy_selectionOf minSeeders results
  obtain ⟨-, hhead, henough⟩ := hpolicy.selected c hc
  have hfound : (selectionOf minSeeders results).outcome = .found :=
    hpolicy.isSome_iff.mp (by rw [hc]; rfl)
  obtain ⟨rest, hranked⟩ := List.head?_eq_some_iff.mp hhead
  have hafter : replaceSelected (selectionOf minSeeders results).ranked minSeeders
      { c with magnet := link } = { c with magnet := link } :: rest := by
    rw [hranked]
    exact replaceSelected_of_head henough _
  refine {
    outcome_eq := rfl, minSeeders_eq := rfl, failures_eq := rfl
    total_eq := ?_, behind_eq := ?_, head_eq := .inr ⟨c, link, hhead, ?_⟩, selected_eq := ?_ }
  · change (replaceSelected _ minSeeders _).length = _
    rw [hafter, Selection.totalResults, hranked]
    rfl
  · intro i hi
    change (replaceSelected _ minSeeders _)[i]? = _
    obtain ⟨i, rfl⟩ := Nat.exists_eq_add_one.mpr hi
    rw [hafter, hranked, List.getElem?_cons_succ, List.getElem?_cons_succ]
  · change (replaceSelected _ minSeeders _).head? = _
    rw [hafter, List.head?_cons]
  · change some _ = if (selectionOf minSeeders results).outcome = .found then
      (replaceSelected _ minSeeders _).head? else none
    rw [if_pos hfound, hafter, List.head?_cons]

/-! ## Runs with and without the look-up -/

/-- A query with or without the look-up. -/
def Query.resolving (q : Query) (resolve : Bool) : Query := { q with resolveDownload := resolve }

namespace Searcher

variable {Q A ε ε' : Type} {s : Searcher Q A ε} {q : Query} {ds : List Definition}
  {world : World Q A} {past : List Q} {found : Selection}

theorem fanOut_resolving (s : Searcher Q A ε) (q : Query) (resolve : Bool) (ds : List Definition)
    (f : FanOut) (i : Nat) :
    (s.fanOut (q.resolving resolve) f i ds : Dialogue Q A ε' FanOut) = s.fanOut q f i ds := by
  induction ds generalizing f i with
  | nil => rfl
  | cons d ds ih =>
    rw [fanOut, fanOut]
    exact congrArg (s.advance q f i d >>= ·) (funext fun f => ih f (i + 1))

/-- What the searches contribute does not depend on the look-up. -/
theorem results_resolving (s : Searcher Q A ε) (q : Query) (resolve : Bool)
    (ds : List Definition) : s.results (q.resolving resolve) ds = s.results q ds := by
  unfold results
  rw [fanOut_resolving]
  rfl

/-- An answered request was accepted, and its searches have contributed. -/
theorem results_of_aggregate (h : (s.aggregate q ds world past).ending = .done found) :
    q.check ds = .ok () ∧ ∃ results,
      (s.results q (q.chosen ds) world past).ending = .done results := by
  cases hcheck : q.check ds with
  | error r =>
    rw [aggregate_refused s hcheck] at h
    cases h
  | ok u =>
    refine ⟨rfl, ?_⟩
    unfold aggregate at h
    rw [hcheck, mapError_ok, Dialogue.ofExcept_ok_bind, Dialogue.ending_bind_eq_done] at h
    obtain ⟨results, hresults, -⟩ := h
    exact ⟨results, hresults⟩

/-- What the look-up of the selected candidate's link asks. -/
def lookupAsked (s : Searcher Q A ε) (ds : List Definition) (found : Selection)
    (world : World Q A) (past : List Q) : List Q :=
  ((found.selected.bind fun c =>
    (ds.find? (·.id == c.indexer)).map fun d => (s.resolve d c world past).asked)).getD []

theorem asked_resolveSelected (s : Searcher Q A ε) (ds : List Definition) (found : Selection)
    (world : World Q A) (past : List Q) :
    (s.resolveSelected ds found world past).asked = s.lookupAsked ds found world past := by
  unfold resolveSelected lookupAsked
  cases found.selected with
  | none => rfl
  | some c =>
    rw [Option.bind_some]
    cases hd : ds.find? (·.id == c.indexer) with
    | none =>
      simp only [hd]
      rfl
    | some d =>
      simp only [hd, Option.map_some, Option.getD_some]
      refine Dialogue.asked_bind_of_silent fun ending past => ?_
      cases ending with
      | done resolved => rfl
      | waiting => rfl
      | failed e =>
        by_cases hcrash : (s.trouble e).isCrash = true
        · simp [hcrash, Dialogue.fail, bind]
        · simp [hcrash, Dialogue.report, bind]

/-- An accepted request asks what its searches ask, and then what the look-up asks. -/
theorem asked_aggregate {results : List Contribution} (h : q.check ds = .ok ())
    (hres : (s.results q (q.chosen ds) world past).ending = .done results) :
    (s.aggregate q ds world past).asked =
      (s.results q (q.chosen ds) world past).asked ++
        if q.resolveDownload then
          s.lookupAsked (q.chosen ds) (selectionOf q.minSeeders results) world
            (past ++ (s.results q (q.chosen ds) world past).asked)
        else [] := by
  have hreport : ∀ (x : Dialogue Q A (Refusal ε) Selection) (past : List Q),
      ((x >>= fun found => do
        Dialogue.report .aggregatedSearchCompleted
        return found) world past).asked = (x world past).asked :=
    fun x past => Dialogue.asked_bind_of_silent fun _ _ => rfl
  unfold aggregate
  rw [h, mapError_ok, Dialogue.ofExcept_ok_bind, Dialogue.asked_bind_of_done hres]
  cases q.resolveDownload with
  | true => exact congrArg _ ((hreport _ _).trans (asked_resolveSelected s _ _ world _))
  | false => exact congrArg _ (hreport (pure _) _)

/-- Without the look-up, a run asks what its searches ask and selects from what they contribute. -/
theorem aggregate_not_resolving {results : List Contribution} (h : q.check ds = .ok ())
    (hres : (s.results q (q.chosen ds) world past).ending = .done results) :
    (s.aggregate (q.resolving false) ds world past).ending =
        .done (selectionOf q.minSeeders results) ∧
      (s.aggregate (q.resolving false) ds world past).asked =
        (s.results q (q.chosen ds) world past).asked := by
  rw [← results_resolving s q false] at hres
  have hasked := asked_aggregate (q := q.resolving false) h hres
  have hending := ending_aggregate (q := q.resolving false) h hres
  rw [results_resolving] at hasked
  exact ⟨hending, hasked.trans (List.append_nil _)⟩

/-- With the look-up, a run asks what its searches and then the look-up ask, and ends as the look-up
lets it. -/
theorem aggregate_resolving {results : List Contribution} (h : q.check ds = .ok ())
    (hres : (s.results q (q.chosen ds) world past).ending = .done results) :
    let found := selectionOf q.minSeeders results
    let later := past ++ (s.results q (q.chosen ds) world past).asked
    (s.aggregate (q.resolving true) ds world past).ending =
        s.afterLookup found (s.lookup? (q.chosen ds) found world later) ∧
      (s.aggregate (q.resolving true) ds world past).asked =
        (s.results q (q.chosen ds) world past).asked ++
          s.lookupAsked (q.chosen ds) found world later := by
  intro found later
  rw [← results_resolving s q true] at hres
  have hasked := asked_aggregate (q := q.resolving true) h hres
  have hending := ending_aggregate (q := q.resolving true) h hres
  rw [results_resolving] at hasked hending
  exact ⟨hending, hasked⟩

end Searcher

open Http

namespace Engine

variable {e : Engine} {q : Query} {ds : List Definition} {d d' : Definition} {world : Network}
  {past : List Request}

/-- The one fetch that looking up the link of a candidate can make, by the rule of its
definition. -/
def detailsFetch? (e : Engine) (d : Definition) (c : Candidate) :
    Option (Online Failure Page.Source) :=
  match d.download.filter (!·.selectors.isEmpty), detailsPage? c with
  | some rule, some page => some do
    let route ← Dialogue.ofTraced (e.means.routeFor d e.useRelay)
    route.fetch page.toList rule.method.wire []
  | _, _ => none

/-- The link of a page of details, by the rule and the base link of a definition. -/
def detailsLink (d : Definition) (source : Page.Source) : Except Failure (List Char) :=
  (Page.parseDetails d.baseLink.toList ((d.download.map (·.selectors)).getD []) source).outcome

theorem resolveDownload_of_no_fetch (h : e.detailsFetch? d c = none) :
    e.resolveDownload d c = pure c := by
  unfold detailsFetch? at h
  unfold resolveDownload
  split
  · rename_i hrule hpage
    simp [hrule, hpage] at h
  · rfl

/-- Put the link of a page of details in the place of a candidate's link. -/
def relink (d : Definition) (c : Candidate) (source : Page.Source) : Online Failure Candidate := do
  let link ← Dialogue.ofTraced
    (Page.parseDetails d.baseLink.toList ((d.download.map (·.selectors)).getD []) source)
  Dialogue.report .downloadResolved
  return { c with magnet := String.ofList link }

theorem asked_relink (d : Definition) (c : Candidate) (source : Page.Source) (world : Network)
    (past : List Request) : (relink d c source world past).asked = [] :=
  (Dialogue.asked_bind_of_silent fun _ _ => rfl).trans (Dialogue.asked_ofTraced _)

/-- A look-up with a fetch reads the link off the page that is fetched. -/
theorem resolveDownload_of_fetch {fetch : Online Failure Page.Source}
    (h : e.detailsFetch? d c = some fetch) : e.resolveDownload d c = fetch >>= relink d c := by
  unfold detailsFetch? at h
  unfold resolveDownload
  cases hrule : d.download.filter (!·.selectors.isEmpty) with
  | none => simp [hrule] at h
  | some rule =>
    cases hpage : detailsPage? c with
    | none => simp [hrule, hpage] at h
    | some page =>
      simp only [hrule, hpage, Option.some.injEq] at h
      have hselectors : (d.download.map (·.selectors)).getD [] = rule.selectors := by
        rw [(Option.filter_eq_some_iff.mp hrule).1]
        rfl
      unfold relink
      rw [← h, hselectors]
      exact (Dialogue.bind_assoc _ _ _).symm

theorem asked_resolveDownload {fetch : Online Failure Page.Source}
    (h : e.detailsFetch? d c = some fetch) :
    (e.resolveDownload d c world past).asked = (fetch world past).asked := by
  rw [resolveDownload_of_fetch h]
  exact Dialogue.asked_bind_of_silent fun source past => asked_relink d c source world past

/-- A look-up that succeeds has fetched the page and read the link off it. -/
theorem ending_resolveDownload_eq_done {fetch : Online Failure Page.Source} {c' : Candidate}
    (h : e.detailsFetch? d c = some fetch) :
    (e.resolveDownload d c world past).ending = .done c' ↔ ∃ source link,
      (fetch world past).ending = .done source ∧ detailsLink d source = .ok link ∧
        c' = { c with magnet := String.ofList link } := by
  rw [resolveDownload_of_fetch h]
  simp only [relink, Dialogue.ending_bind_eq_done, Dialogue.ending_ofTraced_eq_done]
  constructor
  · rintro ⟨source, hsource, link, hlink, -, -, hdone⟩
    exact ⟨source, link, hsource, hlink, (Ending.done.inj hdone).symm⟩
  · rintro ⟨source, link, hsource, hlink, rfl⟩
    exact ⟨source, hsource, link, hlink, (), rfl, rfl⟩

/-- The candidates of a search carry the identifier of its definition. -/
theorem indexer_of_search {cs : List Candidate} {keywords : String} {category : Option String}
    (h : (e.search d keywords category world past).ending = .done cs) (hc : c ∈ cs) :
    c.indexer = d.id := by
  unfold search at h
  simp only [Dialogue.ending_bind_eq_done, Dialogue.ending_ofTraced_eq_done] at h
  obtain ⟨_, _, page, _, rows, hrows, _, _, hdone⟩ := h
  obtain rfl := Ending.done.inj hdone
  obtain ⟨values, -, hvalues⟩ := Page.mem_parseRows hrows hc
  obtain ⟨_, _, _, _, _, _, _, _, _, _, _, _, rfl⟩ := Page.toCandidate_eq_some hvalues
  rfl

/-- A search that finds the candidate somewhere, for the same query. -/
def Finds (e : Engine) (q : Query) (d : Definition) (c : Candidate) (world : Network) : Prop :=
  ∃ cs past, c ∈ cs ∧ (e.search d q.keywords q.category world past).ending = .done cs

theorem indexer_of_finds (h : e.Finds q d c world) : c.indexer = d.id := by
  obtain ⟨cs, past, hc, hsearch⟩ := h
  exact indexer_of_search hsearch hc

/-- The selected candidate was found by the search of a chosen definition. -/
theorem finds_of_selected {results : List Contribution}
    (h : (e.searcher.results q ds world past).ending = .done results)
    (hc : (selectionOf q.minSeeders results).selected = some c) :
    ∃ d ∈ ds, e.Finds q d c world := by
  obtain ⟨hfirst, -⟩ := (policy_selectionOf q.minSeeders results).selected c hc
  obtain ⟨front, back, hmerged, -⟩ := hfirst
  obtain ⟨d, hd, cs, past', hm, hend⟩ := Searcher.mem_mergedCandidates h
    (hmerged ▸ List.mem_append_right front (List.mem_cons_self ..))
  refine ⟨d, hd, cs, past', hm, ?_⟩
  obtain ⟨cs', hcs, hdone⟩ := Dialogue.ending_bind_eq_done.mp hend
  obtain rfl := Option.some.inj (Ending.done.inj hdone)
  exact hcs

end Engine

variable {e : Engine} {q : Query} {ds : List Definition} {d : Definition} {world : Network}
  {past : List Request}

theorem mem_of_mem_chosen (h : d ∈ q.chosen ds) : d ∈ ds := by
  unfold Query.chosen at h
  split at h
  · exact h
  · exact List.mem_of_mem_filter h

/-- Under distinct identifiers, the definition that is looked up is the one that found the
candidate. -/
theorem find?_chosen (hids : (ds.map (·.id)).Nodup) (hd : d ∈ q.chosen ds)
    (hc : c.indexer = d.id) : (q.chosen ds).find? (·.id == c.indexer) = some d := by
  have hsome : ((q.chosen ds).find? (·.id == c.indexer)).isSome := by
    rw [List.find?_isSome]
    exact ⟨d, hd, by rw [hc]; exact beq_self_eq_true _⟩
  obtain ⟨d', hd'⟩ := Option.isSome_iff_exists.mp hsome
  have hid : d'.id = d.id := by
    have := List.find?_some hd'
    rw [← hc]
    exact eq_of_beq this
  have hmem := mem_of_mem_chosen (List.mem_of_find?_eq_some hd')
  rw [hd', List.inj_on_of_nodup_map hids hmem (mem_of_mem_chosen hd) hid]

/-- What the look-up does to the selection `before` of a search that has found something, by the
definition `d` of the selected candidate `c`: it asks `extra` and leaves `after`. -/
structure Engine.LooksUp (e : Engine) (d : Definition) (c : Candidate) (world : Network)
    (past extra : List Request) (before after : Selection) : Prop where
  without_page : e.detailsFetch? d c = none → extra = [] ∧ after = before
  with_page : ∀ fetch, e.detailsFetch? d c = some fetch → extra = (fetch world past).asked ∧
    (after = before ∨ ∃ source link, (fetch world past).ending = .done source ∧
      Engine.detailsLink d source = .ok link ∧
      after = before.withResolved { c with magnet := String.ofList link })

theorem Engine.looksUp_of_afterLookup {results : List Contribution} {extra : List Request}
    {after : Selection} (hc : (selectionOf minSeeders results).selected = some c)
    (hextra : extra = (e.resolveDownload d c world past).asked)
    (hafter : e.searcher.afterLookup (selectionOf minSeeders results)
      (some (e.resolveDownload d c world past).ending) = .done after) :
    e.LooksUp d c world past extra (selectionOf minSeeders results) after where
  without_page hfetch := by
    rw [Engine.resolveDownload_of_no_fetch hfetch] at hextra hafter
    obtain rfl := Ending.done.inj hafter
    exact ⟨hextra, withResolved_self hc⟩
  with_page fetch hfetch := by
    refine ⟨hextra.trans (Engine.asked_resolveDownload hfetch), ?_⟩
    refine (Searcher.of_afterLookup_eq_done hafter).imp_right ?_
    rintro ⟨c', hdone, rfl⟩
    obtain ⟨source, link, hsource, hlink, rfl⟩ :=
      (Engine.ending_resolveDownload_eq_done hfetch).mp (Option.some.inj hdone)
    exact ⟨source, link, hsource, hlink, rfl⟩

/-- Whatever a look-up does, it leaves the same selection but for the link. -/
theorem Engine.LooksUp.sameButLink {results : List Contribution} {extra : List Request}
    {after : Selection} (h : e.LooksUp d c world past extra (selectionOf minSeeders results) after)
    (hc : (selectionOf minSeeders results).selected = some c) :
    (selectionOf minSeeders results).SameButLink after := by
  have hor : after = selectionOf minSeeders results ∨ ∃ link,
      after = (selectionOf minSeeders results).withResolved { c with magnet := link } := by
    cases hfetch : e.detailsFetch? d c with
    | none => exact .inl (h.without_page hfetch).2
    | some fetch =>
      refine (h.with_page fetch hfetch).2.imp_right ?_
      rintro ⟨source, link, -, -, rfl⟩
      exact ⟨String.ofList link, rfl⟩
  obtain rfl | ⟨link, rfl⟩ := hor
  · exact sameButLink_refl _ _
  · exact sameButLink_withResolved link hc

/-- **Looking up the link touches the selected candidate only.** Two runs over definitions with
distinct identifiers whose searches contribute the same, the first without and the second with the
look-up, end in selections that differ in the link at the head of the ranking at most. The second
run asks what its searches ask and then, only if something is found, what one look-up asks; it is
made by the definition whose search found the selected candidate, and no other definition can have
found it. -/
theorem aggregate_with_lookup (e : Engine) (q : Query) {ds : List Definition}
    (hids : (ds.map (·.id)).Nodup) {world world' : Network} {past past' : List Request}
    (hsame : (e.searcher.results q (q.chosen ds) world' past').ending =
      (e.searcher.results q (q.chosen ds) world past).ending)
    {before after : Selection}
    (hbefore : (e.searcher.aggregate (q.resolving false) ds world past).ending = .done before)
    (hafter : (e.searcher.aggregate (q.resolving true) ds world' past').ending = .done after) :
    before.SameButLink after ∧
    (e.searcher.aggregate (q.resolving false) ds world past).asked =
      (e.searcher.results q (q.chosen ds) world past).asked ∧
    ∃ extra, (e.searcher.aggregate (q.resolving true) ds world' past').asked =
        (e.searcher.results q (q.chosen ds) world' past').asked ++ extra ∧
      (before.outcome ≠ .found → extra = [] ∧ after = before) ∧
      (before.outcome = .found → ∃ c, before.selected = some c ∧ ∃ d ∈ q.chosen ds,
        e.Finds q d c world' ∧ (∀ d' ∈ ds, ∀ world, e.Finds q d' c world → d' = d) ∧
        e.LooksUp d c world'
          (past' ++ (e.searcher.results q (q.chosen ds) world' past').asked) extra before after) := by
  obtain ⟨hcheck, results, hresults⟩ := Searcher.results_of_aggregate hbefore
  rw [Searcher.results_resolving] at hresults
  have hresults' := hsame.trans hresults
  obtain ⟨hending, hasked⟩ := Searcher.aggregate_not_resolving (q := q) hcheck hresults
  obtain ⟨hending', hasked'⟩ := Searcher.aggregate_resolving (q := q) hcheck hresults'
  obtain rfl := Ending.done.inj (hbefore.symm.trans hending)
  have hlooked := hending'.symm.trans hafter
  have hpolicy := policy_selectionOf q.minSeeders results
  cases hc : (selectionOf q.minSeeders results).selected with
  | none =>
    have hnot : (selectionOf q.minSeeders results).outcome ≠ .found := fun hfound => by
      have hsome := hpolicy.isSome_iff.mpr hfound
      simp [hc] at hsome
    rw [Searcher.lookup?, hc] at hlooked
    rw [Searcher.lookupAsked, hc] at hasked'
    obtain rfl := Ending.done.inj hlooked
    exact ⟨sameButLink_refl _ _, hasked, [], hasked', fun _ => ⟨rfl, rfl⟩, fun h => absurd h hnot⟩
  | some c =>
    obtain ⟨d, hd, hfinds⟩ := Engine.finds_of_selected hresults' hc
    have hindexer := Engine.indexer_of_finds hfinds
    have hfind := find?_chosen hids hd hindexer
    have hfound : (selectionOf q.minSeeders results).outcome = .found :=
      hpolicy.isSome_iff.mp (by rw [hc]; rfl)
    rw [Searcher.lookup?, hc, Option.bind_some, hfind] at hlooked
    rw [Searcher.lookupAsked, hc, Option.bind_some, hfind] at hasked'
    have hlooks := Engine.looksUp_of_afterLookup hc rfl hlooked
    have honly : ∀ d' ∈ ds, ∀ world, e.Finds q d' c world → d' = d := by
      intro d' hd' world hfinds'
      have hid : d'.id = d.id := (Engine.indexer_of_finds hfinds').symm.trans hindexer
      exact List.inj_on_of_nodup_map hids hd' (mem_of_mem_chosen hd) hid
    exact ⟨hlooks.sameButLink hc, hasked, _, hasked', fun h => absurd hfound h,
      fun _ => ⟨c, rfl, d, hd, hfinds, honly, hlooks⟩⟩

/-! ## Two sites, the second with a page of details -/

def seededSite (id : String) (download : Option DownloadRule) : Definition where
  id := id
  name := id
  links := [s!"https://{id}.example/"]
  search := some {
    paths := [{ path := "s" }], rows := { selector := "p" }
    fields := [("title", { selector := "a" }), ("download", { selector := "a" }),
      ("seeders", { selector := "b" })] }
  download := download

def twoSites : List Definition :=
  [seededSite "x" none, seededSite "y" (some { selectors := [{ selector := "a" }] })]

def plainEngine : Engine where
  means := { client := { userAgent := none, followRedirects := true }, relay := none }

/-- Each site has one result; that of the second site has more seeders and a page of details. -/
def seededNetwork : Network := fun _ r =>
  let page :=
    if r.url.path = "/9".toList then "<a href=magnet:9>B</a>"
    else if r.url.host = "x.example".toList then "<p><a href=/8>A</a><b>1</b>"
    else "<p><a href=/9>B</a><b>5</b>"
  some (.ok { status := 200, body := Text.utf8 page.toList })

def seededQuery : Query := { keywords := "k" }

def firstCandidate : Candidate where
  title := "A"
  magnet := "https://x.example/8"
  indexer := "x"
  seeders := 1

def secondCandidate (link : String) : Candidate where
  title := "B"
  magnet := link
  indexer := "y"
  seeders := 5

def secondSelected (link : String) : Selection where
  outcome := .found
  ranked := [secondCandidate link, firstCandidate]
  selected := some (secondCandidate link)

theorem selectionOf_second (link : String) :
    selectionOf 0 [.ok [firstCandidate], .ok [secondCandidate link]] = secondSelected link := by
  have hranked : rank [firstCandidate, secondCandidate link] =
      [secondCandidate link, firstCandidate] := by
    simp [rank, List.mergeSort, List.MergeSort.Internal.splitInTwo, firstCandidate, secondCandidate]
  have hmerged : mergedCandidates [.ok [firstCandidate], .ok [secondCandidate link]] =
      [firstCandidate, secondCandidate link] := rfl
  rw [selectionOf, hmerged, hranked]
  rfl

/-- The second site wins, and its page has the link. -/
theorem aggregate_with_lookup_of_two_sites :
    (twoSites.map (·.id)).Nodup ∧
    (plainEngine.searcher.aggregate (seededQuery.resolving false) twoSites seededNetwork
      []).ending = .done (secondSelected "https://y.example/9") ∧
    (plainEngine.searcher.aggregate (seededQuery.resolving true) twoSites seededNetwork
      []).ending = .done (secondSelected "magnet:9") ∧
    (secondSelected "https://y.example/9").SameButLink (secondSelected "magnet:9") := by
  have hids : (twoSites.map (·.id)).Nodup := by decide
  have hresults : (plainEngine.searcher.results seededQuery (seededQuery.chosen twoSites)
      seededNetwork []).ending =
        .done [.ok [firstCandidate], .ok [secondCandidate "https://y.example/9"]] := by
    decide +kernel
  have hselection : selectionOf seededQuery.minSeeders
      [.ok [firstCandidate], .ok [secondCandidate "https://y.example/9"]] =
        secondSelected "https://y.example/9" := selectionOf_second _
  have hbefore : (plainEngine.searcher.aggregate (seededQuery.resolving false) twoSites
      seededNetwork []).ending = .done (secondSelected "https://y.example/9") :=
    (Searcher.aggregate_not_resolving rfl hresults).1.trans (congrArg Ending.done hselection)
  have hafter : (plainEngine.searcher.aggregate (seededQuery.resolving true) twoSites
      seededNetwork []).ending = .done (secondSelected "magnet:9") := by
    rw [(Searcher.aggregate_resolving rfl hresults).1, hselection]
    decide +kernel
  exact ⟨hids, hbefore, hafter,
    (aggregate_with_lookup plainEngine seededQuery hids rfl hbefore hafter).1⟩

end TrackerSearch.Search
