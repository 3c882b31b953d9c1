import TrackerSearch.Proofs.Page.Rows
import TrackerSearch.Proofs.Search.FanOut
import TrackerSearch.Proofs.Search.Ranking

/-!
# The policy of an aggregated search

A request is refused before anything is asked, or else answered with the selection that `Policy`
describes in terms of the merged candidates. Download links are not looked up here.
-/
namespace TrackerSearch.Search

/-- The selection that is wanted from the merged candidates `cs`. -/
structure Policy (cs : List Candidate) (minSeeders : Int) (found : Selection) : Prop where
  perm : found.ranked.Perm cs
  descending : Descending found.ranked
  sameTies : SameTies found.ranked cs
  unique : ∀ ds, ds.Perm cs → Descending ds → SameTies ds cs → ds = found.ranked
  total_eq : found.totalResults = cs.length
  noResults_iff : found.outcome = .noResults ↔ cs = []
  belowThreshold_iff : found.outcome = .belowThreshold ↔
    cs ≠ [] ∧ ∀ c ∈ cs, c.seeders < minSeeders
  found_iff : found.outcome = .found ↔ ∃ c ∈ cs, minSeeders ≤ c.seeders
  isSome_iff : found.selected.isSome ↔ found.outcome = .found
  selected : ∀ c, found.selected = some c →
    IsFirstMaximum cs c ∧ found.ranked.head? = some c ∧ minSeeders ≤ c.seeders

variable {cs : List Candidate} {minSeeders : Int} {results : List Contribution}

theorem rank_eq_nil_iff : rank cs = [] ↔ cs = [] := by
  rw [← List.length_eq_zero_iff, (rank_perm cs).length_eq, List.length_eq_zero_iff]

theorem select_rank_isSome_iff :
    (select (rank cs) minSeeders).isSome ↔ ∃ c ∈ cs, minSeeders ≤ c.seeders := by
  simp [select, hasEnough, (rank_perm cs).mem_iff]

/-- The outcome follows from the merged candidates alone. -/
theorem outcome_selectionOf (minSeeders : Int) (results : List Contribution) :
    (selectionOf minSeeders results).outcome =
      if mergedCandidates results = [] then .noResults
      else if ∃ c ∈ mergedCandidates results, minSeeders ≤ c.seeders then .found
      else .belowThreshold := by
  unfold selectionOf
  simp only [List.isEmpty_iff, rank_eq_nil_iff, ← select_rank_isSome_iff, Option.isNone_iff_eq_none,
    Option.isSome_iff_ne_none, ne_eq, ite_not]

theorem policy_selectionOf (minSeeders : Int) (results : List Contribution) :
    Policy (mergedCandidates results) minSeeders (selectionOf minSeeders results) := by
  have hout := outcome_selectionOf minSeeders results
  have hsome : (selectionOf minSeeders results).selected.isSome ↔ _ := select_rank_isSome_iff
  have hnonempty : (∃ c ∈ mergedCandidates results, minSeeders ≤ c.seeders) →
      mergedCandidates results ≠ [] := by
    rintro ⟨c, hc, _⟩ h
    simp [h] at hc
  constructor
  · exact rank_perm _
  · exact rank_descending _
  · exact rank_sameTies _
  · exact fun ds _ hd ht => eq_rank hd ht
  · exact (rank_perm _).length_eq
  · rw [hout]
    split
    · rename_i h; simp [h]
    · rename_i h; split <;> simp [h]
  · rw [hout]
    split
    · rename_i h; simp [h]
    · rename_i h
      split
      · rename_i hc
        obtain ⟨c, hc, hle⟩ := hc
        simp only [reduceCtorEq, false_iff, not_and, Classical.not_forall]
        exact fun _ => ⟨c, hc, by omega⟩
      · rename_i hc
        simp only [true_iff]
        exact ⟨h, fun c hm => Int.not_le.mp fun hle => hc ⟨c, hm, hle⟩⟩
  · rw [hout]
    split
    · rename_i h; simp [h]
    · split <;> simp_all
  · rw [hsome, hout]
    split
    · rename_i h; simp [h]
    · split <;> simp_all
  · intro c hc
    obtain ⟨hhead, hle⟩ := (select_eq_some_iff (rank_descending _)).mp hc
    exact ⟨isFirstMaximum_of_head? hhead, hhead, hle⟩

/-- Where no candidate counts fewer than no seeders, all of them reach a threshold of zero. -/
theorem outcome_of_nonneg (hne : mergedCandidates results ≠ [])
    (hnonneg : ∀ c ∈ mergedCandidates results, 0 ≤ c.seeders) :
    (selectionOf 0 results).outcome = .found := by
  rw [outcome_selectionOf, if_neg hne, if_pos]
  obtain ⟨c, hc⟩ := List.exists_mem_of_ne_nil _ hne
  exact ⟨c, hc, hnonneg c hc⟩

namespace Searcher

variable {Q A ε : Type} {s : Searcher Q A ε} {q : Query} {ds : List Definition}
  {world : World Q A} {past : List Q}

theorem chosen_eq_nil_iff :
    q.chosen ds = [] ↔ ∀ d ∈ ds, q.only ≠ [] ∧ d.id ∉ q.only := by
  unfold Query.chosen
  split
  · rename_i h
    rw [List.isEmpty_iff] at h
    simp [h, List.eq_nil_iff_forall_not_mem]
  · rename_i h
    rw [List.isEmpty_iff] at h
    simp [h, List.filter_eq_nil_iff]

/-- A request is accepted unless its threshold is negative or it leaves no definition. -/
theorem check_eq_ok_iff : q.check ds = .ok () ↔ 0 ≤ q.minSeeders ∧ q.chosen ds ≠ [] := by
  unfold Query.check
  split
  · simp; omega
  · split
    · rename_i h; simp_all
    · rename_i h; simp_all

/-- A refused request asks nothing and reports nothing, whatever a searcher would do. -/
theorem aggregate_refused (s : Searcher Q A ε) {r : BadRequest} (h : q.check ds = .error r)
    (world : World Q A) (past : List Q) :
    s.aggregate q ds world past = ⟨.failed (.badRequest r), [], []⟩ := by
  unfold aggregate
  rw [h]
  exact Dialogue.bind_of_failed rfl

/-- An accepted request is answered with the selection from what the searches contribute. -/
theorem ending_aggregate_eq_done (h : q.check ds = .ok ()) (hr : q.resolveDownload = false)
    {found : Selection} :
    (s.aggregate q ds world past).ending = .done found ↔
      ∃ results, (s.results q (q.chosen ds) world past).ending = .done results ∧
        found = selectionOf q.minSeeders results := by
  unfold aggregate
  rw [h, hr, Except.mapError, Dialogue.ofExcept_ok_bind]
  simp only [Bool.false_eq_true, if_false, Dialogue.ending_bind_eq_done]
  constructor
  · rintro ⟨results, hres, found', hf, _, _, hdone⟩
    obtain rfl := Ending.done.inj hf
    exact ⟨results, hres, (Ending.done.inj hdone).symm⟩
  · rintro ⟨results, hres, rfl⟩
    exact ⟨results, hres, _, rfl, (), rfl, rfl⟩

/-- **A whole search does not depend on the schedule.** It follows one schedule, and in whatever
order its searches begin and end otherwise, the selection is the same as long as the same ones have
ended by the deadline. -/
theorem aggregate_of_schedules (h : q.check ds = .ok ()) (hr : q.resolveDownload = false)
    (s : Searcher Q A ε) (world : World Q A) (past : List Q) :
    ∃ endings moves f, s.Actual q world (q.chosen ds) endings ∧
      s.Schedule q (q.chosen ds) endings moves f ∧
      ∀ moves' f' results, s.Schedule q (q.chosen ds) endings moves' f' →
        (∀ i, i < (q.chosen ds).length → (.finish i ∈ moves ↔ .finish i ∈ moves')) →
        f'.contributions? q.deadline (q.chosen ds) = some results →
        (s.aggregate q ds world past).ending = .done (selectionOf q.minSeeders results) := by
  obtain ⟨endings, moves, f, hactual, hrun, -, hends⟩ := results_of_run s q (q.chosen ds) world past
  refine ⟨endings, moves, f, hactual, hrun, fun moves' f' results hrun' hsame hresults => ?_⟩
  refine (ending_aggregate_eq_done h hr).mpr ⟨results, ?_, rfl⟩
  cases hf : f.contributions? q.deadline (q.chosen ds) with
  | none =>
    -- The other schedule would have to wait as well.
    obtain ⟨hdeadline, i, hi, hopen⟩ := (contributions?_eq_none_iff hrun).mp hf
    have hopen' : .finish i ∉ moves' := fun hm => hopen ((hsame i hi).mpr hm)
    have hnone := (contributions?_eq_none_iff hrun').mpr ⟨hdeadline, i, hi, hopen'⟩
    cases hnone.symm.trans hresults
  | some results' =>
    obtain rfl := eq_of_schedules hrun hrun' hf hresults fun i hi => ⟨rfl, hsame i hi⟩
    rw [hends, hf]

/-- Looking up a download link never makes a request a bad one. -/
theorem ending_resolveSelected_ne (found : Selection) (r : BadRequest) :
    (s.resolveSelected ds found world past).ending ≠ .failed (.badRequest r) := by
  unfold resolveSelected
  cases found.selected with
  | none => simp
  | some c =>
    cases hf : ds.find? (·.id == c.indexer) with
    | none => simp [hf]
    | some d =>
      simp only [hf, Dialogue.ending_attempt_bind]
      cases (s.resolve d c world past).ending with
      | done resolved => simp
      | waiting => simp [Dialogue.waitForever]
      | failed e =>
        by_cases hc : (s.trouble e).isCrash = true
        · simp [hc, Dialogue.fail, bind]
        · simp [hc, Dialogue.report, bind]

/-- What the searches contribute is there, or is waited for. -/
theorem ending_results_ne (e : Refusal ε) : (s.results q ds world past).ending ≠ .failed e := by
  obtain ⟨_, _, f, _, _, _, hend⟩ := results_of_run s q ds world past
  rw [hend]
  split <;> simp

/-- An accepted request is not refused later on. -/
theorem ending_aggregate_ne (h : q.check ds = .ok ()) (r : BadRequest) :
    (s.aggregate q ds world past).ending ≠ .failed (.badRequest r) := by
  unfold aggregate
  rw [h, Except.mapError, Dialogue.ofExcept_ok_bind]
  have hreport : ∀ (found : Dialogue Q A (Refusal ε) Selection) (past : List Q),
      (found world past).ending ≠ .failed (.badRequest r) →
      ((found >>= fun found => do
        Dialogue.report .aggregatedSearchCompleted
        return found) world past).ending ≠ .failed (.badRequest r) := by
    intro found past hn
    rw [ne_eq, Dialogue.ending_bind_eq_failed]
    rintro (hf | ⟨_, _, hf⟩)
    · exact hn hf
    · simp [Dialogue.report, bind] at hf
  rw [ne_eq, Dialogue.ending_bind_eq_failed]
  rintro (hf | ⟨results, _, hf⟩)
  · exact ending_results_ne _ hf
  · cases hr : q.resolveDownload with
    | false =>
      simp only [hr, Bool.false_eq_true, if_false] at hf
      exact hreport _ _ (by simp) hf
    | true =>
      simp only [hr, if_true] at hf
      exact hreport _ _ (ending_resolveSelected_ne _ r) hf

/-- A merged candidate was found by the search of one of the definitions. -/
theorem mem_mergedCandidates {results : List Contribution} {c : Candidate}
    (h : (s.results q ds world past).ending = .done results) (hc : c ∈ mergedCandidates results) :
    ∃ d ∈ ds, ∃ cs past, c ∈ cs ∧
      (s.search d q.keywords q.category world past).ending = .done (some cs) := by
  obtain ⟨endings, moves, f, hactual, hrun, _, hend⟩ := results_of_run s q ds world past
  rw [hend] at h
  cases hr : f.contributions? q.deadline ds with
  | none => simp [hr] at h
  | some results' =>
    simp only [hr, Ending.done.injEq] at h
    subst h
    rw [(collected_of_run hrun hr).merged_eq] at hc
    obtain ⟨i, hi, hm⟩ := List.mem_flatMap.mp hc
    have hd := List.getElem?_eq_getElem (List.mem_range.mp hi)
    obtain ⟨past, hpast⟩ := hactual i _ hd
    unfold foundAt at hm
    split at hm
    · rename_i cs he
      split at hm
      · exact ⟨_, List.getElem_mem _, cs, past, hm, by rw [← hpast, he]⟩
      · simp at hm
    · simp at hm

end Searcher

open Http

/-- Candidates that are found on the network come from the rows of pages. -/
theorem Engine.seeders_nonneg {e : Engine} {d : Definition} {keywords : String}
    {category : Option String} {world : World Request (Except TransportFault Response)}
    {past : List Request} {cs : List Candidate} {c : Candidate}
    (h : (e.searcher.search d keywords category world past).ending = .done (some cs))
    (hc : c ∈ cs) : 0 ≤ c.seeders := by
  unfold Engine.searcher Engine.search at h
  simp only [Dialogue.ending_bind_eq_done, Dialogue.ending_ofTraced_eq_done] at h
  obtain ⟨found, ⟨_, _, page, _, rows, hrows, _, _, hf⟩, hdone⟩ := h
  obtain rfl := Ending.done.inj hf
  obtain rfl := Option.some.inj (Ending.done.inj hdone)
  exact Page.seeders_nonneg hrows hc

/-- **An aggregated search follows its policy.** A request is refused exactly if its threshold is
negative or its identifiers leave no definition; then nothing is asked, whatever the searcher. Any
other request, links not looked up, is answered if and only if the searches contribute, and the
answer is the `Policy` for their merged candidates. Candidates from the rows of pages always make a
find for a threshold of zero. -/
theorem aggregate_follows_policy {Q A ε : Type} (q : Query) (ds : List Definition)
    (world : World Q A) (past : List Q) :
    (∀ s : Searcher Q A ε,
      (∃ r, (s.aggregate q ds world past).ending = .failed (.badRequest r)) ↔
        q.minSeeders < 0 ∨ ∀ d ∈ ds, q.only ≠ [] ∧ d.id ∉ q.only) ∧
    (∀ (s : Searcher Q A ε) r, (s.aggregate q ds world past).ending = .failed (.badRequest r) →
      ∀ s' : Searcher Q A ε, s'.aggregate q ds world past = ⟨.failed (.badRequest r), [], []⟩) ∧
    (0 ≤ q.minSeeders → (∃ d ∈ ds, q.only = [] ∨ d.id ∈ q.only) → q.resolveDownload = false →
      ∀ s : Searcher Q A ε,
        (∀ results, (s.results q (q.chosen ds) world past).ending = .done results →
          ∃ found, (s.aggregate q ds world past).ending = .done found) ∧
        ∀ found, (s.aggregate q ds world past).ending = .done found →
          ∃ results, (s.results q (q.chosen ds) world past).ending = .done results ∧
            Policy (mergedCandidates results) q.minSeeders found ∧
            found.failures = failuresOf results) ∧
    ∀ (e : Engine) (world : World Request (Except TransportFault Response)) (past : List Request)
      (found : Selection), q.minSeeders = 0 → q.resolveDownload = false →
      (e.searcher.aggregate q ds world past).ending = .done found → found.ranked ≠ [] →
      found.outcome = .found := by
  refine ⟨?_, ?_, ?_, ?_⟩
  · intro s
    cases h : q.check ds with
    | error r =>
      rw [Searcher.aggregate_refused s h]
      simp only [Ending.failed.injEq, Refusal.badRequest.injEq, exists_eq', true_iff]
      rw [← Searcher.chosen_eq_nil_iff]
      by_cases hn : q.minSeeders < 0
      · exact .inl hn
      · refine .inr (Classical.byContradiction fun hc => ?_)
        rw [Searcher.check_eq_ok_iff.mpr ⟨by omega, hc⟩] at h
        simp at h
    | ok u =>
      obtain ⟨hmin, hne⟩ := Searcher.check_eq_ok_iff.mp h
      constructor
      · rintro ⟨r, hr⟩
        exact absurd hr (Searcher.ending_aggregate_ne h r)
      · rintro (hn | hall)
        · omega
        · exact absurd (Searcher.chosen_eq_nil_iff.mpr hall) hne
  · intro s r hr s'
    cases h : q.check ds with
    | error r' =>
      rw [Searcher.aggregate_refused s h] at hr
      simp only [Ending.failed.injEq, Refusal.badRequest.injEq] at hr
      rw [Searcher.aggregate_refused s' h, hr]
    | ok u => exact absurd hr (Searcher.ending_aggregate_ne h r)
  · intro hmin hleft hresolve s
    have hne : q.chosen ds ≠ [] := by
      intro hnil
      obtain ⟨d, hd, hor⟩ := hleft
      obtain ⟨ho, hm⟩ := Searcher.chosen_eq_nil_iff.mp hnil d hd
      exact hor.elim ho hm
    have hiff : ∀ found, (s.aggregate q ds world past).ending = .done found ↔
        ∃ results, (s.results q (q.chosen ds) world past).ending = .done results ∧
          found = selectionOf q.minSeeders results := fun found =>
      Searcher.ending_aggregate_eq_done (Searcher.check_eq_ok_iff.mpr ⟨hmin, hne⟩) hresolve
    constructor
    · exact fun results hres => ⟨_, (hiff _).mpr ⟨results, hres, rfl⟩⟩
    · intro found hfound
      obtain ⟨results, hres, rfl⟩ := (hiff found).mp hfound
      exact ⟨results, hres, policy_selectionOf _ _, rfl⟩
  · intro e world past found hmin hresolve hfound hne
    cases h : q.check ds with
    | error r =>
      rw [Searcher.aggregate_refused _ h] at hfound
      simp at hfound
    | ok u =>
      obtain ⟨results, hres, rfl⟩ := (Searcher.ending_aggregate_eq_done h hresolve).mp hfound
      rw [hmin] at hne ⊢
      apply outcome_of_nonneg
      · exact fun hnil => hne (rank_eq_nil_iff.mpr hnil)
      · intro c hc
        obtain ⟨d, _, cs, past', hm, hend⟩ := Searcher.mem_mergedCandidates hres hc
        exact Engine.seeders_nonneg hend hm

/-- Two candidates of three share the most seeders; the first of them is selected. -/
theorem aggregate_of_a_tie :
    let a : Candidate := { title := "a", magnet := "magnet:a", indexer := "x", seeders := 5 }
    let b : Candidate := { title := "b", magnet := "magnet:b", indexer := "x", seeders := 7 }
    let c : Candidate := { title := "c", magnet := "magnet:c", indexer := "x", seeders := 7 }
    let s : Searcher Unit Unit Failure :=
      ⟨fun _ _ _ => pure (some [a, b, c]), fun _ c => pure c, troubleOf⟩
    let q : Query := { keywords := "k", minSeeders := 6 }
    let d : Definition := { id := "x", name := "X" }
    ∃ found, (s.aggregate q [d] (fun _ _ => none) []).ending = .done found ∧
      Policy [a, b, c] 6 found ∧ found.outcome = .found ∧ found.selected = some b := by
  intro a b c s q d
  have hall := (aggregate_follows_policy q [d] (fun _ _ => none) []).2.2.1 (by decide)
    ⟨d, by simp, .inl rfl⟩ rfl s
  have hres : (s.results q (q.chosen [d]) (fun _ _ => none) []).ending = .done [.ok [a, b, c]] :=
    rfl
  obtain ⟨found, hfound⟩ := hall.1 _ hres
  obtain ⟨results, hres', hpolicy, _⟩ := hall.2 found hfound
  obtain rfl := Ending.done.inj (hres.symm.trans hres')
  have hfind : found.outcome = .found :=
    hpolicy.found_iff.mpr ⟨b, by simp [mergedCandidates, Except.toOption], by decide⟩
  refine ⟨found, hfound, hpolicy, hfind, ?_⟩
  obtain ⟨best, hbest⟩ := Option.isSome_iff_exists.mp (hpolicy.isSome_iff.mpr hfind)
  obtain ⟨⟨before, after, heq, hbefore, hafter⟩, _⟩ := hpolicy.selected best hbest
  have hmerged : mergedCandidates [.ok [a, b, c]] = [a, b, c] := rfl
  rw [hmerged] at heq
  rcases before with _ | ⟨x, _ | ⟨y, _ | ⟨z, before⟩⟩⟩
  · obtain ⟨rfl, rfl⟩ := List.cons.inj heq
    exact absurd (hafter b (by simp)) (by decide)
  · obtain ⟨-, hb⟩ := List.cons.inj heq
    rw [hbest, (List.cons.inj hb).1]
  · obtain ⟨-, hb⟩ := List.cons.inj heq
    obtain ⟨rfl, hc⟩ := List.cons.inj hb
    obtain ⟨rfl, -⟩ := List.cons.inj hc
    exact absurd (hbefore b (by simp)) (by decide)
  · simp at heq

end TrackerSearch.Search
