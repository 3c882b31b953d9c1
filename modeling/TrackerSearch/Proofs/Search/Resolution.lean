import TrackerSearch.Proofs.Fetch.Exchange
import TrackerSearch.Proofs.Search.Policy

/-!
# What can end an aggregated search

In a network that answers every request, an aggregated search that is not refused always has
contributions, whatever the sites answer, and the only thing that can still end it is the look-up of
the selected candidate's link. A look-up that fails as sites and pages are expected to fail leaves
the selection as it is; a fault that it meets, in fetching the page or in reading it, ends the whole
search. Nothing is said about networks that leave a request without an answer.
-/
namespace TrackerSearch.Search

/-- A selection whose candidate has got its link. -/
def Selection.withResolved (found : Selection) (c : Candidate) : Selection :=
  { found with selected := some c, ranked := replaceSelected found.ranked found.minSeeders c }

namespace Searcher

variable {Q A ε : Type} {s : Searcher Q A ε} {q : Query} {ds : List Definition}
  {world : World Q A} {past : List Q} {results : List Contribution}

/-- Searches that do not wait contribute, with a deadline and without. -/
theorem exists_results (h : Dialogue.Answers world)
    (hs : ∀ d ∈ ds, (s.search d q.keywords q.category).Built)
    (past : List Q) : ∃ results, (s.results q ds world past).ending = .done results := by
  obtain ⟨endings, moves, f, hactual, hrun, hstuck, hend⟩ := results_of_run s q ds world past
  have hends : ∀ i, i < ds.length → endings i ≠ .waiting := by
    intro i hi
    obtain ⟨past', hpast⟩ := hactual i _ (List.getElem?_eq_getElem hi)
    rw [hpast]
    exact (hs _ (List.getElem_mem hi)).ending_ne h past'
  have hsome := contributions?_isSome_of_stuck hrun hstuck hends
  obtain ⟨results, hresults⟩ := Option.isSome_iff_exists.mp hsome
  refine ⟨results, ?_⟩
  rw [hend, hresults]

/-- How the look-up of the selected candidate's link ends; there is none without a candidate whose
definition is known. -/
def lookup? (s : Searcher Q A ε) (ds : List Definition) (found : Selection) (world : World Q A)
    (past : List Q) : Option (Ending ε Candidate) :=
  found.selected.bind fun c =>
    (ds.find? (·.id == c.indexer)).map fun d => (s.resolve d c world past).ending

/-- What is left of a selection after a look-up. -/
def afterLookup (s : Searcher Q A ε) (found : Selection) :
    Option (Ending ε Candidate) → Ending (Refusal ε) Selection
  | none => .done found
  | some (.done c) => .done (found.withResolved c)
  | some (.failed e) => if (s.trouble e).isCrash then .failed (.crashed e) else .done found
  | some .waiting => .waiting

theorem lookup?_eq_some {found : Selection} {outcome : Ending ε Candidate} :
    s.lookup? ds found world past = some outcome ↔ ∃ c d, found.selected = some c ∧
      ds.find? (·.id == c.indexer) = some d ∧ (s.resolve d c world past).ending = outcome := by
  unfold lookup?
  simp only [Option.bind_eq_some_iff, Option.map_eq_some_iff]
  constructor
  · rintro ⟨c, hc, d, hd, hend⟩
    exact ⟨c, d, hc, hd, hend⟩
  · rintro ⟨c, d, hc, hd, hend⟩
    exact ⟨c, hc, d, hd, hend⟩

section AfterLookup

variable {found : Selection} {outcome : Option (Ending ε Candidate)}

theorem afterLookup_eq_failed {refusal : Refusal ε} :
    s.afterLookup found outcome = .failed refusal ↔ ∃ failure, outcome = some (.failed failure) ∧
      (s.trouble failure).isCrash = true ∧ refusal = .crashed failure := by
  rcases outcome with _ | c | failure | _
  · simp [afterLookup]
  · simp [afterLookup]
  · by_cases hcrash : (s.trouble failure).isCrash = true
    · simp only [afterLookup, hcrash, if_true, Ending.failed.injEq, Option.some.injEq,
        exists_eq_left', true_and]
      exact eq_comm
    · simp [afterLookup, hcrash]
  · simp [afterLookup]

theorem afterLookup_eq_waiting :
    s.afterLookup found outcome = .waiting ↔ outcome = some .waiting := by
  rcases outcome with _ | c | failure | _
  · simp [afterLookup]
  · simp [afterLookup]
  · by_cases hcrash : (s.trouble failure).isCrash = true
    · simp [afterLookup, hcrash]
    · simp [afterLookup, hcrash]
  · simp [afterLookup]

theorem of_afterLookup_eq_done {after : Selection}
    (h : s.afterLookup found outcome = .done after) :
    after = found ∨ ∃ c, outcome = some (.done c) ∧ after = found.withResolved c := by
  rcases outcome with _ | c | failure | _
  · exact .inl (Ending.done.inj h).symm
  · exact .inr ⟨c, rfl, (Ending.done.inj h).symm⟩
  · by_cases hcrash : (s.trouble failure).isCrash = true
    · simp [afterLookup, hcrash] at h
    · simp only [afterLookup, hcrash] at h
      exact .inl (Ending.done.inj h).symm
  · cases h

end AfterLookup

theorem ending_resolveSelected (s : Searcher Q A ε) (ds : List Definition) (found : Selection)
    (world : World Q A) (past : List Q) :
    (s.resolveSelected ds found world past).ending =
      s.afterLookup found (s.lookup? ds found world past) := by
  unfold resolveSelected lookup?
  cases found.selected with
  | none => rfl
  | some c =>
    rw [Option.bind_some]
    cases hd : ds.find? (·.id == c.indexer) with
    | none =>
      simp only [hd]
      rfl
    | some d =>
      simp only [hd, Dialogue.ending_attempt_bind, Option.map_some]
      cases (s.resolve d c world past).ending with
      | done resolved => rfl
      | waiting => rfl
      | failed e =>
        by_cases hcrash : (s.trouble e).isCrash = true
        · simp [afterLookup, hcrash, Dialogue.fail, bind]
        · simp [afterLookup, hcrash, Dialogue.report, bind]

/-- An accepted request comes down to the look-up once the searches have contributed. -/
theorem ending_aggregate (h : q.check ds = .ok ())
    (hres : (s.results q (q.chosen ds) world past).ending = .done results) :
    (s.aggregate q ds world past).ending =
      s.afterLookup (selectionOf q.minSeeders results)
        (if q.resolveDownload then
          s.lookup? (q.chosen ds) (selectionOf q.minSeeders results) world
            (past ++ (s.results q (q.chosen ds) world past).asked)
        else none) := by
  have hreport : ∀ (x : Dialogue Q A (Refusal ε) Selection) (past : List Q),
      ((x >>= fun found => do
        Dialogue.report .aggregatedSearchCompleted
        return found) world past).ending = (x world past).ending := by
    intro x past
    cases hx : (x world past).ending with
    | done found =>
      rw [Dialogue.bind_of_done hx]
      rfl
    | failed e => rw [Dialogue.bind_of_failed hx]
    | waiting => rw [Dialogue.bind_of_waiting hx]
  unfold aggregate
  rw [h, Except.mapError, Dialogue.ofExcept_ok_bind, Dialogue.bind_of_done hres]
  cases q.resolveDownload with
  | true => exact (hreport _ _).trans (ending_resolveSelected s _ _ world _)
  | false => exact hreport (pure _) _

end Searcher

open Http

namespace Engine

variable {e : Engine} {d : Definition} {c : Candidate} {world : Network}

theorem search_built (e : Engine) (d : Definition) (keywords : String)
    (category : Option String) : (e.search d keywords category).Built := by
  refine (Dialogue.Built.ofTraced _).bind fun plan => ?_
  refine (plan.route.fetch_built _ _ _).bind fun page => ?_
  refine (Dialogue.Built.ofTraced _).bind fun found => ?_
  exact (Dialogue.Built.report _).bind fun _ => Dialogue.Built.pure found

theorem searcher_built (e : Engine) (d : Definition)
    (keywords : String) (category : Option String) :
    (e.searcher.search d keywords category).Built :=
  (search_built e d keywords category).bind fun _ => Dialogue.Built.pure _

theorem resolveDownload_built (e : Engine) (d : Definition)
    (c : Candidate) : (e.resolveDownload d c).Built := by
  unfold resolveDownload
  split
  · refine (Dialogue.Built.ofTraced _).bind fun route => ?_
    refine (route.fetch_built _ _ _).bind fun source => ?_
    refine (Dialogue.Built.ofTraced _).bind fun link => ?_
    exact (Dialogue.Built.report _).bind fun _ => Dialogue.Built.pure _
  · exact Dialogue.Built.pure _

/-- Looking up the link of a candidate meets a fault: in fetching its page, or in reading it. -/
def MeetsFault (e : Engine) (d : Definition) (c : Candidate) (world : Network)
    (past : List Request) (f : Fault) : Prop :=
  ∃ rule page route, d.download.filter (!·.selectors.isEmpty) = some rule ∧
    detailsPage? c = some page ∧ (e.means.routeFor d e.useRelay).outcome = .ok route ∧
    ((route.fetch page.toList rule.method.wire [] world past).ending = .failed (.fault f) ∨
      ∃ source, (route.fetch page.toList rule.method.wire [] world past).ending = .done source ∧
        (Page.parseDetails d.baseLink.toList rule.selectors source).outcome = .error (.fault f))

/-- There is no other way for a look-up to end in a fault. -/
theorem ending_resolveDownload_eq_fault {past : List Request} {f : Fault} :
    (e.resolveDownload d c world past).ending = .failed (.fault f) ↔
      e.MeetsFault d c world past f := by
  unfold resolveDownload MeetsFault
  cases hrule : d.download.filter (!·.selectors.isEmpty) with
  | none => simp
  | some rule =>
    cases hpage : detailsPage? c with
    | none => simp
    | some page =>
      obtain ⟨route, hroute⟩ := e.means.outcome_routeFor d e.useRelay
      have hdone : ((Dialogue.ofTraced (e.means.routeFor d e.useRelay) :
          Online Failure Fetch.Route) world past).ending = .done route :=
        Dialogue.ending_ofTraced_eq_done.mpr hroute
      dsimp only
      rw [Dialogue.bind_of_done hdone, Dialogue.asked_ofTraced, List.append_nil,
        Dialogue.ending_bind_eq_failed]
      have hread : ∀ source past', (((Dialogue.ofTraced
          (Page.parseDetails d.baseLink.toList rule.selectors source) >>= fun link => do
            Dialogue.report .downloadResolved
            return { c with magnet := String.ofList link }) : Online Failure Candidate)
              world past').ending = .failed (.fault f) ↔
          (Page.parseDetails d.baseLink.toList rule.selectors source).outcome =
            .error (.fault f) := by
        intro source past'
        rw [Dialogue.ending_bind_eq_failed, Dialogue.ending_ofTraced_eq_failed]
        refine or_iff_left ?_
        rintro ⟨link, -, h⟩
        cases h
      constructor
      · intro h
        refine ⟨rule, page, route, rfl, rfl, hroute, h.imp_right ?_⟩
        rintro ⟨source, hsource, hfault⟩
        exact ⟨source, hsource, (hread source _).mp hfault⟩
      · rintro ⟨rule', page', route', hrule', hpage', hroute', h⟩
        obtain rfl := Option.some.inj hrule'
        obtain rfl := Option.some.inj hpage'
        obtain rfl := Except.ok.inj (hroute.symm.trans hroute')
        refine h.imp_right ?_
        rintro ⟨source, hsource, hfault⟩
        exact ⟨source, hsource, (hread source _).mpr hfault⟩

end Engine

theorem isCrash_troubleOf (failure : Failure) :
    (troubleOf failure).isCrash = true ↔ ∃ f, failure = .fault f := by
  cases failure <;> simp [troubleOf, Failure.isExpected]

/-- The link of the selected candidate is looked up, and the look-up meets a fault. -/
def CrashesOn (e : Engine) (q : Query) (ds : List Definition) (world : Network)
    (past : List Request) (f : Fault) : Prop :=
  q.check ds = .ok () ∧ q.resolveDownload = true ∧ ∃ results c d,
    (e.searcher.results q (q.chosen ds) world past).ending = .done results ∧
    (selectionOf q.minSeeders results).selected = some c ∧
    (q.chosen ds).find? (·.id == c.indexer) = some d ∧
    e.MeetsFault d c world (past ++ (e.searcher.results q (q.chosen ds) world past).asked) f

/-- **What can end an aggregated search.** In a network that answers every request, the searches of
an accepted request contribute. The whole then fails exactly if the link of the selected candidate
is to be looked up and the look-up meets a fault. Any other failure of the look-up leaves the
selection as it was, and only a look-up that succeeds changes it. -/
theorem aggregate_of_answering_network {world : Network} (h : Dialogue.Answers world) (e : Engine)
    (q : Query) (ds : List Definition) (past : List Request) (hmin : 0 ≤ q.minSeeders)
    (hkept : ∃ d ∈ ds, q.only = [] ∨ d.id ∈ q.only) :
    ∃ results, (e.searcher.results q (q.chosen ds) world past).ending = .done results ∧
      let before := selectionOf q.minSeeders results
      let later := past ++ (e.searcher.results q (q.chosen ds) world past).asked
      let ending := (e.searcher.aggregate q ds world past).ending
      ending ≠ .waiting ∧
      (∀ refusal, ending = .failed refusal ↔ q.resolveDownload = true ∧ ∃ c d f,
        before.selected = some c ∧ (q.chosen ds).find? (·.id == c.indexer) = some d ∧
          e.MeetsFault d c world later f ∧ refusal = .crashed (.fault f)) ∧
      (∀ c d failure, before.selected = some c →
        (q.chosen ds).find? (·.id == c.indexer) = some d →
        (e.resolveDownload d c world later).ending = .failed failure →
        failure.isExpected = true → ending = .done before) ∧
      ∀ found, ending = .done found → found = before ∨ q.resolveDownload = true ∧ ∃ c d c',
        before.selected = some c ∧ (q.chosen ds).find? (·.id == c.indexer) = some d ∧
          (e.resolveDownload d c world later).ending = .done c' ∧
          found = before.withResolved c' := by
  have hne : q.chosen ds ≠ [] := by
    intro hnil
    obtain ⟨d, hd, hor⟩ := hkept
    obtain ⟨ho, hm⟩ := Searcher.chosen_eq_nil_iff.mp hnil d hd
    exact hor.elim ho hm
  have hcheck := Searcher.check_eq_ok_iff.mpr ⟨hmin, hne⟩
  obtain ⟨results, hresults⟩ := Searcher.exists_results h
    (fun d (_ : d ∈ q.chosen ds) => Engine.searcher_built e d q.keywords q.category) past
  refine ⟨results, hresults, ?_⟩
  intro before later ending
  let outcome := if q.resolveDownload then e.searcher.lookup? (q.chosen ds) before world later
    else none
  have hending : ending = e.searcher.afterLookup before outcome :=
    Searcher.ending_aggregate hcheck hresults
  have houtcome : ∀ x, outcome = some x ↔ q.resolveDownload = true ∧ ∃ c d,
      before.selected = some c ∧ (q.chosen ds).find? (·.id == c.indexer) = some d ∧
        (e.resolveDownload d c world later).ending = x := by
    intro x
    rw [Option.ite_none_right_eq_some, Searcher.lookup?_eq_some]
    rfl
  refine ⟨?_, ?_, ?_, ?_⟩
  · intro hwait
    rw [hending, Searcher.afterLookup_eq_waiting, houtcome] at hwait
    obtain ⟨-, c, d, -, -, hwait⟩ := hwait
    exact (Engine.resolveDownload_built e d c).ending_ne h later hwait
  · intro refusal
    rw [hending, Searcher.afterLookup_eq_failed]
    constructor
    · rintro ⟨failure, hout, hcrash, hrefusal⟩
      obtain ⟨f, rfl⟩ := (isCrash_troubleOf failure).mp hcrash
      obtain ⟨hresolve, c, d, hc, hd, hend⟩ := (houtcome _).mp hout
      exact ⟨hresolve, c, d, f, hc, hd, Engine.ending_resolveDownload_eq_fault.mp hend, hrefusal⟩
    · rintro ⟨hresolve, c, d, f, hc, hd, hfault, hrefusal⟩
      have hend := Engine.ending_resolveDownload_eq_fault.mpr hfault
      exact ⟨.fault f, (houtcome _).mpr ⟨hresolve, c, d, hc, hd, hend⟩,
        (isCrash_troubleOf _).mpr ⟨f, rfl⟩, hrefusal⟩
  · intro c d failure hc hd hend hexpected
    have hcrash : (e.searcher.trouble failure).isCrash = false := by
      change (!failure.isExpected) = false
      rw [hexpected]
      rfl
    rw [hending]
    cases hresolve : q.resolveDownload with
    | false =>
      have hout : outcome = none := by simp [outcome, hresolve]
      rw [hout]
      rfl
    | true =>
      rw [(houtcome _).mpr ⟨hresolve, c, d, hc, hd, hend⟩, Searcher.afterLookup, hcrash]
      rfl
  · intro found hfound
    rw [hending] at hfound
    refine (Searcher.of_afterLookup_eq_done hfound).imp_right ?_
    rintro ⟨c', hout, heq⟩
    obtain ⟨hresolve, c, d, hc, hd, hend⟩ := (houtcome _).mp hout
    exact ⟨hresolve, c, d, c', hc, hd, hend, heq⟩

/-! ## A site with a page of details -/

deriving instance DecidableEq for Refusal

def detailsSite : Definition where
  id := "x"
  name := "X"
  links := ["https://x.example/"]
  search := some {
    paths := [{ path := "s" }], rows := { selector := "p" }
    fields := [("title", { selector := "a" }), ("download", { selector := "a" })] }
  download := some { selectors := [{ selector := "a" }] }

def directEngine : Engine where
  means := { client := { userAgent := none, followRedirects := true }, relay := none }

/-- One result, whose page of details is given. -/
def oneResult (details : String) : Network := fun _ r =>
  let page := if r.url.path = "/9".toList then details else "<p><a href=/9>A</a>"
  some (.ok { status := 200, body := Text.utf8 page.toList })

def resolving : Query := { keywords := "k", resolveDownload := true }

def oneFound : Selection where
  outcome := .found
  ranked := [{ title := "A", magnet := "https://x.example/9", indexer := "x" }]
  selected := some { title := "A", magnet := "https://x.example/9", indexer := "x" }

/-- A page without a link is one of the failures that leave the selection as it is. -/
theorem aggregate_of_details_without_link :
    Dialogue.Answers (oneResult "<p>B") ∧ 0 ≤ resolving.minSeeders ∧
      (∃ d ∈ [detailsSite], resolving.only = [] ∨ d.id ∈ resolving.only) ∧
      (directEngine.searcher.aggregate resolving [detailsSite] (oneResult "<p>B") []).ending =
        .done oneFound := by
  have hanswers : Dialogue.Answers (oneResult "<p>B") := by
    intro past r hnone
    cases hnone
  have hkept : ∃ d ∈ [detailsSite], resolving.only = [] ∨ d.id ∈ resolving.only :=
    ⟨detailsSite, List.mem_singleton.mpr rfl, .inl rfl⟩
  refine ⟨hanswers, by decide, hkept, ?_⟩
  obtain ⟨results, hresults, -, -, hkeep, -⟩ :=
    aggregate_of_answering_network hanswers directEngine resolving [detailsSite] [] (by decide) hkept
  have hfound : (directEngine.searcher.results resolving (resolving.chosen [detailsSite])
      (oneResult "<p>B") []).ending = .done [.ok oneFound.ranked] := by decide +kernel
  obtain rfl := Ending.done.inj (hresults.symm.trans hfound)
  have hbefore : selectionOf resolving.minSeeders [.ok oneFound.ranked] = oneFound := by
    decide +kernel
  rw [hbefore] at hkeep
  exact hkeep { title := "A", magnet := "https://x.example/9", indexer := "x" } detailsSite
    .linkNotFound rfl (by decide +kernel) (by decide +kernel) rfl

/-- A link whose host cannot be read ends the search; without the look-up it has an answer. -/
theorem aggregate_of_unreadable_details :
    (directEngine.searcher.aggregate resolving [detailsSite] (oneResult "<a href=//[x>B</a>")
      []).ending = .failed (.crashed (.fault .badValue)) ∧
    (directEngine.searcher.aggregate { resolving with resolveDownload := false } [detailsSite]
      (oneResult "<a href=//[x>B</a>") []).ending = .done oneFound := by
  decide +kernel

end TrackerSearch.Search
