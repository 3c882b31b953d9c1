import Mathlib.Data.List.Basic
import TrackerSearch.Proofs.Search.Schedule
import TrackerSearch.Search.Site

/-!
# Searching side by side does not depend on the schedule

The searches that a searcher runs end in some way each. What a fan-out contributes is determined,
slot by slot, by how the search of that slot ends and by whether it has ended by the deadline; the
order of begins and ends leaves no trace. The searcher itself follows one schedule, in which the
searches begin in the order of the definitions; it goes on until nothing can happen any more.
-/
namespace TrackerSearch.Search

namespace FanOut

variable {answer : Nat → Option Answer} {n i : Nat} {f : FanOut}

theorem serve_of_waiting (hw : f.slots[i]? = some .waiting) (a : Option Answer) :
    f.serve i a =
      if f.free = 0 then f
      else match a with
        | none => ⟨f.free - 1, f.slots.set i .searching⟩
        | some a => ⟨f.free, f.slots.set i (.ended a)⟩ := by
  obtain ⟨hi, _⟩ := List.getElem?_eq_some_iff.mp hw
  by_cases hfree : f.free = 0
  · simp [serve, start?, hfree]
  · have hpos : 0 < f.free := by omega
    have hs : f.start? i = some ⟨f.free - 1, f.slots.set i .searching⟩ := by simp [start?, hpos, hw]
    cases a with
    | none => simp [serve, hs, hfree]
    | some a =>
      have hback : f.free - 1 + 1 = f.free := by omega
      simp [serve, hs, finish?, hfree, hi, hback]

/-- Serving a search is a stretch of a schedule. -/
theorem serve_run (answer : Nat → Option Answer) (hw : f.slots[i]? = some .waiting) :
    ∃ moves, f.run? answer moves = some (f.serve i (answer i)) := by
  cases hs : f.start? i with
  | none => exact ⟨[], by simp [run?, serve, hs]⟩
  | some begun =>
    cases ha : answer i with
    | none => exact ⟨[.start i], by simp [run?, move?, serve, hs]⟩
    | some a =>
      obtain ⟨_, _, rfl⟩ := start?_eq_some.mp hs
      obtain ⟨hi, _⟩ := List.getElem?_eq_some_iff.mp hw
      exact ⟨[.start i, .finish i], by simp [run?, move?, serve, hs, ha, finish?, hi]⟩

/-- The searches below slot `i` have been served, the others have not begun. -/
structure Served (answer : Nat → Option Answer) (n i : Nat) (f : FanOut) : Prop where
  length_eq : f.slots.length = n
  ahead : ∀ j, i ≤ j → j < n → f.slots[j]? = some .waiting
  kept : ∀ j, f.slots[j]? = some .searching → answer j = none
  full : ∀ j, j < i → f.slots[j]? = some .waiting → f.free = 0

theorem served_initial (answer : Nat → Option Answer) (places n : Nat) :
    Served answer n 0 (.initial places n) := by
  constructor
  · simp [initial]
  · intro j _ hj; simp [initial, hj]
  · intro j hj; simp [initial, List.getElem?_replicate] at hj
  · intro j hj; omega

/-- A free place means that no search below waits, so the search that is served next is the only
one to look at. -/
theorem Served.set (hf : Served answer n i f) (hi : i < n) (hfree : f.free ≠ 0) (free : Nat)
    {slot : Slot} (hw : slot ≠ .waiting) (hs : slot = .searching → answer i = none) :
    Served answer n (i + 1) ⟨free, f.slots.set i slot⟩ := by
  have hlen := hf.length_eq
  have hother : ∀ j, j ≠ i → (f.slots.set i slot)[j]? = f.slots[j]? :=
    fun j hj => List.getElem?_set_ne (Ne.symm hj)
  have hself : (f.slots.set i slot)[i]? = some slot := List.getElem?_set_self (by omega)
  constructor
  · simp [hlen]
  · intro j hj hjn
    exact (hother j (by omega)).trans (hf.ahead j (by omega) hjn)
  · intro j hj
    by_cases hji : j = i
    · subst hji
      exact hs (Option.some.inj (hself.symm.trans hj))
    · exact hf.kept j ((hother j hji).symm.trans hj)
  · intro j hj hjw
    by_cases hji : j = i
    · subst hji
      exact absurd (Option.some.inj (hself.symm.trans hjw)) hw
    · exact absurd (hf.full j (by omega) ((hother j hji).symm.trans hjw)) hfree

theorem Served.step (hf : Served answer n i f) (hi : i < n) :
    Served answer n (i + 1) (f.serve i (answer i)) := by
  rw [serve_of_waiting (hf.ahead i (Nat.le_refl i) hi)]
  split
  · rename_i hfree
    exact ⟨hf.length_eq, fun j hj => hf.ahead j (by omega), hf.kept, fun _ _ _ => hfree⟩
  · rename_i hfree
    cases ha : answer i with
    | none => exact hf.set hi hfree _ (by simp) fun _ => ha
    | some a => exact hf.set hi hfree _ (by simp) (by simp)

/-- When all searches have been served nothing can happen any more. -/
theorem Served.stuck (hf : Served answer n n f) (m : Move) : f.move? answer m = none := by
  cases m with
  | start i =>
    have hn : ¬ (0 < f.free ∧ f.slots[i]? = some .waiting) := by
      rintro ⟨hfree, hw⟩
      obtain ⟨hi, _⟩ := List.getElem?_eq_some_iff.mp hw
      have h0 := hf.full i (hf.length_eq ▸ hi) hw
      omega
    simp [move?, start?, hn]
  | finish i =>
    cases ha : answer i with
    | none => simp [move?, ha]
    | some a =>
      have hn : f.slots[i]? ≠ some .searching := by
        intro hs
        rw [hf.kept i hs] at ha
        simp at ha
      simp [move?, ha, finish?, hn]

end FanOut

namespace Searcher

open FanOut

variable {Q A ε ε' : Type} {s : Searcher Q A ε} {q : Query} {ds : List Definition}
  {endings : Nat → SearchEnding ε} {moves : List Move} {results : List Contribution} {f : FanOut}
  {n : Nat}

/-- How the searches of definitions count if they end as `endings` says. -/
def answers (s : Searcher Q A ε) (ds : List Definition) (endings : Nat → SearchEnding ε) (i : Nat) :
    Option Answer :=
  ds[i]?.bind fun d => s.answer? d (endings i)

theorem ending_advance (s : Searcher Q A ε) (q : Query) (f : FanOut) (i : Nat) (d : Definition)
    (world : World Q A) (past : List Q) :
    ((s.advance q f i d : Dialogue Q A ε' FanOut) world past).ending =
      .done (f.serve i (s.answer? d (s.search d q.keywords q.category world past).ending)) := by
  unfold advance
  cases hs : f.start? i with
  | none => simp [serve, hs]
  | some begun =>
    simp only [Option.isNone_some, Bool.false_eq_true, if_false]
    rw [Dialogue.ending_attempt_bind]
    cases (s.search d q.keywords q.category world past).ending <;> rfl

/-- The moves are a schedule of the searches of definitions that leads to `f`. -/
def Schedule (s : Searcher Q A ε) (q : Query) (ds : List Definition)
    (endings : Nat → SearchEnding ε) (moves : List Move) (f : FanOut) : Prop :=
  (initial q.places ds.length).run? (s.answers ds endings) moves = some f

/-- The endings that the searches of definitions have in a world, each one after some history. -/
def Actual (s : Searcher Q A ε) (q : Query) (world : World Q A) (ds : List Definition)
    (endings : Nat → SearchEnding ε) : Prop :=
  ∀ i d, ds[i]? = some d →
    ∃ past, endings i = (s.search d q.keywords q.category world past).ending

/-- One more in front of the others. -/
def inFront {α : Type} (first : α) (rest : Nat → α) : Nat → α
  | 0 => first
  | k + 1 => rest k

theorem fanOut_served (ε' : Type) (s : Searcher Q A ε) (q : Query) (world : World Q A)
    (ds : List Definition) (f : FanOut) (i : Nat) (past : List Q) :
    ∃ endings, s.Actual q world ds endings ∧
      ∃ g, ((s.fanOut q f i ds : Dialogue Q A ε' FanOut) world past).ending = .done g ∧
        ∀ answer, (∀ k, k < ds.length → answer (i + k) = s.answers ds endings k) →
          Served answer (i + ds.length) i f →
          Served answer (i + ds.length) (i + ds.length) g ∧
            ∃ moves, f.run? answer moves = some g := by
  induction ds generalizing f i past with
  | nil =>
    refine ⟨fun _ => .waiting, fun i d hd => by simp at hd, f, rfl, fun answer _ hf => ?_⟩
    exact ⟨hf, [], rfl⟩
  | cons d ds ih =>
    have hfirst : ((s.advance q f i d : Dialogue Q A ε' FanOut) world past).ending = _ :=
      ending_advance s q f i d world past
    obtain ⟨endings, hactual, g, hg, hrun⟩ := ih
      (f.serve i (s.answer? d (s.search d q.keywords q.category world past).ending)) (i + 1)
      (past ++ ((s.advance q f i d : Dialogue Q A ε' FanOut) world past).asked)
    refine ⟨inFront (s.search d q.keywords q.category world past).ending endings, ?_, g, ?_, ?_⟩
    · intro k d' hd
      cases k with
      | zero => exact ⟨past, by simp at hd; rw [hd]; rfl⟩
      | succ k => exact hactual k d' (by simpa using hd)
    · rw [fanOut, Dialogue.bind_of_done hfirst]
      exact hg
    · intro answer ha hf
      have hn : i + (d :: ds).length = i + 1 + ds.length := by simp; omega
      rw [hn] at hf ⊢
      have h0 : answer i = s.answer? d (s.search d q.keywords q.category world past).ending :=
        ha 0 (by simp)
      have hw := hf.ahead i (Nat.le_refl i) (by omega)
      have hserved := hf.step (by omega)
      obtain ⟨first, hfirst⟩ := serve_run answer hw
      rw [h0] at hserved hfirst
      obtain ⟨hg, rest, hrest⟩ := hrun answer (fun k hk => by
        have hnext : i + 1 + k = i + (k + 1) := by omega
        rw [hnext, ha (k + 1) (by simpa using hk)]
        rfl) hserved
      exact ⟨hg, first ++ rest, by rw [run?_append, hfirst]; exact hrest⟩

/-- Is the search at a position one that has found candidates by the deadline? -/
def succeeded (endings : Nat → SearchEnding ε) (moves : List Move) (i : Nat) : Bool :=
  decide (.finish i ∈ moves) && match endings i with
    | .done (some _) => true
    | _ => false

/-- The candidates that the search at a position has found by the deadline. -/
def foundAt (endings : Nat → SearchEnding ε) (moves : List Move) (i : Nat) : List Candidate :=
  match endings i with
  | .done (some cs) => if .finish i ∈ moves then cs else []
  | _ => []

/-- What the searches of `ds` contribute if they end as `endings` says and those that finish among
`moves` do so by the deadline. -/
structure Collected (s : Searcher Q A ε) (q : Query) (ds : List Definition)
    (endings : Nat → SearchEnding ε) (moves : List Move) (results : List Contribution) : Prop where
  length_eq : results.length = ds.length
  found : ∀ i cs, i < ds.length → .finish i ∈ moves → endings i = .done (some cs) →
    results[i]? = some (.ok cs)
  failed : ∀ i d e, ds[i]? = some d → .finish i ∈ moves → endings i = .failed e →
    results[i]? = some (.error ⟨d.id, (s.trouble e).kind, (s.trouble e).message⟩)
  cancelled : ∀ i d, ds[i]? = some d → .finish i ∉ moves ∨ endings i = .done none →
    results[i]? = some (.error ⟨d.id, .cancelled, some (deadlineText q.deadline)⟩)
  merged_eq : mergedCandidates results = (List.range ds.length).flatMap (foundAt endings moves)
  failures_eq : (failuresOf results).map (·.indexer) =
    (ds.zipIdx.filter fun p => !succeeded endings moves p.2).map (·.1.id)
  count_eq : (failuresOf results).length +
    (List.range ds.length).countP (succeeded endings moves) = ds.length

/-- What the search of a definition contributes after some moves. -/
def contributionAfter (s : Searcher Q A ε) (q : Query) (ds : List Definition)
    (endings : Nat → SearchEnding ε) (moves : List Move) (p : Definition × Nat) : Contribution :=
  (slotAfter (s.answers ds endings) moves p.2).contribution q.deadline p.1

theorem contributionAfter_eq {i : Nat} {d : Definition} (hd : ds[i]? = some d) :
    s.contributionAfter q ds endings moves (d, i) =
      if .finish i ∈ moves then
        match endings i with
        | .done (some cs) => .ok cs
        | .failed e => .error ⟨d.id, (s.trouble e).kind, (s.trouble e).message⟩
        | _ => .error ⟨d.id, .cancelled, some (deadlineText q.deadline)⟩
      else .error ⟨d.id, .cancelled, some (deadlineText q.deadline)⟩ := by
  unfold contributionAfter slotAfter answers
  by_cases hm : .finish i ∈ moves
  · simp only [hm, if_true, hd, Option.bind_some]
    cases endings i with
    | done r => cases r <;> rfl
    | failed e => rfl
    | waiting => rfl
  · simp only [hm, if_false]
    split <;> rfl

theorem contributions?_eq (h : Reached (s.answers ds endings) n ds.length moves f) :
    f.contributions? q.deadline ds =
      if f.isOpen && q.deadline.isNone then none
      else some (ds.zipIdx.map (s.contributionAfter q ds endings moves)) := by
  have hzip : List.zipWith (fun d slot => slot.contribution q.deadline d) ds f.slots =
      ds.zipIdx.map (s.contributionAfter q ds endings moves) := by
    apply List.ext_getElem
    · simp [h.length_eq]
    · intro i hi hi'
      simp [h.slots_eq, contributionAfter]
  unfold contributions?
  rw [hzip]

/-- Failures name the definitions without success, in their order. -/
private theorem failuresOf_map {l : List (Definition × Nat)} {g : Definition × Nat → Contribution}
    {ok : Nat → Bool}
    (h : ∀ p ∈ l, match g p with
      | .ok _ => ok p.2 = true
      | .error e => ok p.2 = false ∧ e.indexer = p.1.id) :
    (failuresOf (l.map g)).map (·.indexer) = (l.filter fun p => !ok p.2).map (·.1.id) := by
  induction l with
  | nil => rfl
  | cons p l ih =>
    have hp := h p (List.mem_cons_self ..)
    have hl := ih fun p hp => h p (List.mem_cons_of_mem _ hp)
    rw [List.map_cons]
    cases hg : g p with
    | ok cs =>
      simp only [hg] at hp
      simp [hp, hl]
    | error e =>
      simp only [hg] at hp
      simp [hp.1, hp.2, hl]

theorem collected_of_zipIdx (s : Searcher Q A ε) (q : Query) (ds : List Definition)
    (endings : Nat → SearchEnding ε) (moves : List Move) :
    s.Collected q ds endings moves (ds.zipIdx.map (s.contributionAfter q ds endings moves)) := by
  have hget : ∀ i d, ds[i]? = some d →
      (ds.zipIdx.map (s.contributionAfter q ds endings moves))[i]? =
        some (s.contributionAfter q ds endings moves (d, i)) := by
    intro i d hd
    simp [hd]
  have hindex : List.range ds.length = ds.zipIdx.map (·.2) := by
    rw [List.zipIdx_map_snd, List.range_eq_range']
  have hfailures : (failuresOf (ds.zipIdx.map (s.contributionAfter q ds endings moves))).map
      (·.indexer) = (ds.zipIdx.filter fun p => !succeeded endings moves p.2).map (·.1.id) := by
    apply failuresOf_map
    rintro ⟨d, i⟩ hp
    rw [contributionAfter_eq (List.mem_zipIdx_iff_getElem?.mp hp)]
    by_cases hm : .finish i ∈ moves
    · cases he : endings i with
      | done r => cases r <;> simp [hm, he, succeeded]
      | failed e => simp [hm, he, succeeded]
      | waiting => simp [hm, he, succeeded]
    · simp [hm, succeeded]
  constructor
  · simp
  · intro i cs hi hm he
    have hd := List.getElem?_eq_getElem hi
    rw [hget i _ hd, contributionAfter_eq hd, if_pos hm, he]
  · intro i d e hd hm he
    rw [hget i d hd, contributionAfter_eq hd, if_pos hm, he]
  · intro i d hd h
    rw [hget i d hd, contributionAfter_eq hd]
    by_cases hm : .finish i ∈ moves
    · rw [if_pos hm, h.resolve_left fun hn => hn hm]
    · rw [if_neg hm]
  · rw [hindex, mergedCandidates, List.flatMap_map, List.flatMap_map]
    apply List.flatMap_congr
    rintro ⟨d, i⟩ hp
    rw [contributionAfter_eq (List.mem_zipIdx_iff_getElem?.mp hp)]
    unfold foundAt
    by_cases hm : .finish i ∈ moves
    · cases he : endings i with
      | done r => cases r <;> simp [hm, Except.toOption]
      | failed e => simp [hm, Except.toOption]
      | waiting => simp [hm, Except.toOption]
    · rw [if_neg hm]
      split <;> simp [hm, Except.toOption]
  · exact hfailures
  · have hlen := congrArg List.length hfailures
    rw [List.length_map, List.length_map, ← List.countP_eq_length_filter] at hlen
    have hall := List.length_eq_countP_add_countP (l := ds.zipIdx)
      fun p : Definition × Nat => succeeded endings moves p.2
    rw [List.length_zipIdx] at hall
    rw [hlen, hindex, List.countP_map, hall, Nat.add_comm]
    congr 1
    apply List.countP_congr
    simp

theorem collected_of_run (h : (initial n ds.length).run? (s.answers ds endings) moves = some f)
    (hr : f.contributions? q.deadline ds = some results) :
    s.Collected q ds endings moves results := by
  rw [contributions?_eq (reached_of_run h)] at hr
  split at hr
  · simp at hr
  · obtain rfl := Option.some.inj hr
    exact collected_of_zipIdx s q ds endings moves

/-- Without contributions some search is open and there is no deadline. -/
theorem contributions?_eq_none_iff
    (h : (initial n ds.length).run? (s.answers ds endings) moves = some f) :
    f.contributions? q.deadline ds = none ↔
      q.deadline = none ∧ ∃ i, i < ds.length ∧ .finish i ∉ moves := by
  have hopen := (reached_of_run h).isOpen_eq_false_iff
  have hopen' : f.isOpen = true ↔ ∃ i, i < ds.length ∧ .finish i ∉ moves := by
    rw [← Bool.not_eq_false, hopen]
    simp
  rw [contributions?_eq (reached_of_run h)]
  simp [hopen', and_comm]

/-- Two schedules agree in every slot whose search ends in the same way and by the deadline in both
or in neither. -/
theorem Collected.getElem?_eq {endings' : Nat → SearchEnding ε} {moves' : List Move}
    {results' : List Contribution} {i : Nat} (h : s.Collected q ds endings moves results)
    (h' : s.Collected q ds endings' moves' results')
    (hends : .finish i ∈ moves → (endings i) ≠ .waiting) (he : endings i = endings' i)
    (hm : .finish i ∈ moves ↔ .finish i ∈ moves') : results[i]? = results'[i]? := by
  by_cases hi : i < ds.length
  · have hd := List.getElem?_eq_getElem hi
    by_cases hf : .finish i ∈ moves
    · have hends := hends hf
      have hf' := hm.mp hf
      cases hr : endings i with
      | waiting => exact absurd hr hends
      | failed e => rw [h.failed i _ e hd hf hr, h'.failed i _ e hd hf' (he ▸ hr)]
      | done r =>
        cases r with
        | some cs => rw [h.found i cs hi hf hr, h'.found i cs hi hf' (he ▸ hr)]
        | none =>
          rw [h.cancelled i _ hd (.inr hr), h'.cancelled i _ hd (.inr (he ▸ hr))]
    · have hf' : .finish i ∉ moves' := fun hf' => hf (hm.mpr hf')
      rw [h.cancelled i _ hd (.inl hf), h'.cancelled i _ hd (.inl hf')]
  · rw [List.getElem?_eq_none (by rw [h.length_eq]; omega),
      List.getElem?_eq_none (by rw [h'.length_eq]; omega)]

theorem ends_of_finish (h : (initial n ds.length).run? (s.answers ds endings) moves = some f)
    {i : Nat} (hm : .finish i ∈ moves) : endings i ≠ .waiting := by
  intro he
  have ha := ((reached_of_run h).ended i hm).2
  cases hd : ds[i]? with
  | none => simp [answers, hd] at ha
  | some d => simp [answers, hd, he, answer?] at ha

/-- Two schedules in which the same searches have ended in the same way by the deadline give the
same. -/
theorem eq_of_schedules {endings' : Nat → SearchEnding ε} {moves' : List Move} {f' : FanOut}
    {results' : List Contribution} (h : s.Schedule q ds endings moves f)
    (h' : s.Schedule q ds endings' moves' f') (hr : f.contributions? q.deadline ds = some results)
    (hr' : f'.contributions? q.deadline ds = some results')
    (hall : ∀ i, i < ds.length → endings i = endings' i ∧ (.finish i ∈ moves ↔ .finish i ∈ moves')) :
    results = results' := by
  have hc := collected_of_run h hr
  have hc' := collected_of_run h' hr'
  apply List.ext_getElem?
  intro i
  by_cases hi : i < ds.length
  · exact hc.getElem?_eq hc' (ends_of_finish h) (hall i hi).1 (hall i hi).2
  · rw [List.getElem?_eq_none (by rw [hc.length_eq]; omega),
      List.getElem?_eq_none (by rw [hc'.length_eq]; omega)]

theorem places_pos (q : Query) : 0 < q.places := by unfold Query.places; omega

/-- A schedule that cannot go on has contributions if every search ends. -/
theorem contributions?_isSome_of_stuck
    (h : s.Schedule q ds endings moves f)
    (hstuck : ∀ m, f.move? (s.answers ds endings) m = none)
    (hends : ∀ i, i < ds.length → endings i ≠ .waiting) :
    (f.contributions? q.deadline ds).isSome := by
  have hanswers : ∀ i, i < ds.length → (s.answers ds endings i).isSome := by
    intro i hi
    have hne := hends i hi
    cases he : endings i with
    | done r => cases r <;> simp [answers, hi, he, answer?]
    | failed e => simp [answers, hi, he, answer?]
    | waiting => exact absurd he hne
  have hnone : (List.range ds.length).countP (fun i => (s.answers ds endings i).isNone) = 0 := by
    apply List.countP_eq_zero.mpr
    intro i hi
    simpa using Option.isSome_iff_ne_none.mp (hanswers i (List.mem_range.mp hi))
  by_contra hn
  obtain ⟨_, i, hi, hm⟩ := (contributions?_eq_none_iff h).mp (by simpa using hn)
  exact hm ((reached_of_run h).finished_of_stuck hstuck (by rw [hnone]; exact places_pos q) hi
    (hanswers i hi))

/-- What a searcher contributes comes from a schedule that has gone on as far as it could. -/
theorem results_of_run (s : Searcher Q A ε) (q : Query) (ds : List Definition) (world : World Q A)
    (past : List Q) :
    ∃ endings moves f, s.Actual q world ds endings ∧
      (initial q.places ds.length).run? (s.answers ds endings) moves = some f ∧
      (∀ m, f.move? (s.answers ds endings) m = none) ∧
      ((s.results q ds) world past).ending = match f.contributions? q.deadline ds with
        | some results => .done results
        | none => .waiting := by
  obtain ⟨endings, hactual, f, hf, hserved⟩ := fanOut_served (Refusal ε) s q world ds
    (.initial q.places ds.length) 0 past
  obtain ⟨hlast, moves, hrun⟩ := hserved (s.answers ds endings) (fun k _ => by rw [Nat.zero_add])
    (by rw [Nat.zero_add]; exact served_initial _ _ _)
  rw [Nat.zero_add] at hlast
  refine ⟨endings, moves, f, hactual, hrun, hlast.stuck, ?_⟩
  unfold results
  rw [Dialogue.bind_of_done hf]
  cases hc : f.contributions? q.deadline ds with
  | none => rfl
  | some results =>
    cases f.isOpen <;> rfl

/-- **A fan-out does not depend on the schedule, and its failures stay where they are.** Whatever
the order in which searches begin and end, a schedule is finite, gives one contribution for each
definition unless it has to wait without a deadline, and what it gives is `Collected`. A slot only
depends on its own search, so that two schedules with the same searches ended by the deadline lead
to one selection. What a searcher does in a world is one such schedule, and how a failure counts is
told by its cause. -/
theorem fanOut_independent_of_schedule (s : Searcher Q A ε) (q : Query) (ds : List Definition) :
    (∀ endings moves f, s.Schedule q ds endings moves f →
      moves.length ≤ 2 * ds.length ∧
      (f.contributions? q.deadline ds = none ↔
        q.deadline = none ∧ ∃ i, i < ds.length ∧ .finish i ∉ moves) ∧
      ((∀ m, f.move? (s.answers ds endings) m = none) →
        (∀ i, i < ds.length → endings i ≠ .waiting) → (f.contributions? q.deadline ds).isSome) ∧
      ∀ results, f.contributions? q.deadline ds = some results →
        s.Collected q ds endings moves results) ∧
    (∀ endings endings' moves moves' f f' results results',
      s.Schedule q ds endings moves f → s.Schedule q ds endings' moves' f' →
      f.contributions? q.deadline ds = some results →
      f'.contributions? q.deadline ds = some results' →
      (∀ i, endings i = endings' i → (.finish i ∈ moves ↔ .finish i ∈ moves') →
        results[i]? = results'[i]?) ∧
      ((∀ i, i < ds.length → endings i = endings' i ∧ (.finish i ∈ moves ↔ .finish i ∈ moves')) →
        results = results' ∧
          selectionOf q.minSeeders results = selectionOf q.minSeeders results')) ∧
    (∀ world past, ∃ endings moves f, s.Actual q world ds endings ∧
      s.Schedule q ds endings moves f ∧ (∀ m, f.move? (s.answers ds endings) m = none) ∧
      ((s.results q ds) world past).ending = match f.contributions? q.deadline ds with
        | some results => .done results
        | none => .waiting) ∧
    ∀ (engine : Engine) (e : Failure), (engine.searcher.trouble e).kind = match e with
      | .definition .. | .unresolved .. => .definition
      | .relay .. => .relay
      | .network .. => .network
      | .unreadableDocument | .unreadableFragment _ | .linkNotFound => .parse
      | .load _ | .notFound _ | .duplicate _ | .fault _ => .unexpected := by
  refine ⟨?_, ?_, fun world past => results_of_run s q ds world past, ?_⟩
  · intro endings moves f h
    refine ⟨(reached_of_run h).length_le, contributions?_eq_none_iff h, ?_, ?_⟩
    · exact fun hstuck hends => contributions?_isSome_of_stuck h hstuck hends
    · exact fun results hr => collected_of_run h hr
  · intro endings endings' moves moves' f f' results results' h h' hr hr'
    have hc := collected_of_run h hr
    have hc' := collected_of_run h' hr'
    have hslot : ∀ i, endings i = endings' i → (.finish i ∈ moves ↔ .finish i ∈ moves') →
        results[i]? = results'[i]? :=
      fun i he hm => hc.getElem?_eq hc' (ends_of_finish h) he hm
    refine ⟨hslot, fun hall => ?_⟩
    have heq := eq_of_schedules h h' hr hr' hall
    exact ⟨heq, by rw [heq]⟩
  · intro engine e
    cases e <;> rfl

/-- Two places, three searches: the second one fails, the third one takes its place and has not
ended by the deadline. -/
theorem fanOut_of_three_searches :
    let s : Searcher Unit Unit Failure := ⟨fun _ _ _ => pure none, fun _ c => pure c, troubleOf⟩
    let q : Query := { keywords := "k", maxConcurrent := 2, deadline := some (.ofInt 30) }
    let a : Definition := { id := "a", name := "A" }
    let b : Definition := { id := "b", name := "B" }
    let ds : List Definition := [a, b, a]
    let c : Candidate := { title := "t", magnet := "magnet:", indexer := "a" }
    let endings : Nat → SearchEnding Failure := fun
      | 0 => .done (some [c])
      | 1 => .failed (.network "u" "down" none)
      | _ => .waiting
    let moves : List Move := [.start 0, .start 1, .finish 1, .start 2, .finish 0]
    let results : List Contribution :=
      [.ok [c], .error ⟨"b", .network, some "down"⟩,
        .error ⟨"a", .cancelled, some (deadlineText q.deadline)⟩]
    ∃ f, s.Schedule q ds endings moves f ∧ f.contributions? q.deadline ds = some results ∧
      s.Collected q ds endings moves results := by
  intro s q a b ds c endings moves results
  have hrun : s.Schedule q ds endings moves
      ⟨1, [.ended (.found [c]), .ended (.failed ⟨"b", .network, some "down"⟩), .searching]⟩ := rfl
  have hall := (fanOut_independent_of_schedule s q ds).1 endings moves _ hrun
  exact ⟨_, hrun, rfl, hall.2.2.2 results rfl⟩

end Searcher

end TrackerSearch.Search
