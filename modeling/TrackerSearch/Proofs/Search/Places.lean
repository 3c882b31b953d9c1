import TrackerSearch.Proofs.Search.FanOut

/-!
# Places for searches

A deadline may pass at any time of a fan-out. From then on no search begins; those that are open are
given up one by one, and some may still end before that. Throughout there are no more searches than
places. Without a deadline no search waits in vain, as long as some place is not kept by a search
that never ends (`Searcher.fanOut_within_places`).
-/
namespace TrackerSearch.Search

/-- What can happen in a fan-out with a deadline. -/
inductive Happening where
  | move (m : Move)
  | expire
  | giveUp (i : Nat)
  deriving Repr, DecidableEq

/-- The search that something happens to. -/
def Happening.search? : Happening → Option Nat
  | move (.start i) | move (.finish i) | giveUp i => some i
  | expire => none

/-- A fan-out, and whether its deadline has passed. -/
structure Timed where
  fan : FanOut
  expired : Bool
  deriving Repr, DecidableEq

namespace Timed

open FanOut

variable {answer : Nat → Option Answer} {places n i : Nat} {past more : List Happening}
  {h : Happening} {t t' : Timed} {old new : Slot}

def initial (places searches : Nat) : Timed := ⟨.initial places searches, false⟩

/-- Give up a search that is open: one that waits leaves, one that goes on gives its place back. -/
def giveUp? (f : FanOut) (i : Nat) : Option FanOut :=
  match f.slots[i]? with
  | some .waiting => some ⟨f.free, f.slots.set i (.ended .nothing)⟩
  | some .searching => some ⟨f.free + 1, f.slots.set i (.ended .nothing)⟩
  | _ => none

/-- Let something happen, if it can. -/
def step? (answer : Nat → Option Answer) (t : Timed) : Happening → Option Timed
  | .move (.start i) =>
    if t.expired then none else (t.fan.move? answer (.start i)).map (⟨·, t.expired⟩)
  | .move (.finish i) => (t.fan.move? answer (.finish i)).map (⟨·, t.expired⟩)
  | .expire => if t.expired then none else some ⟨t.fan, true⟩
  | .giveUp i => if t.expired then (giveUp? t.fan i).map (⟨·, t.expired⟩) else none

/-- Let things happen one after the other, if all of them can. -/
def run? (answer : Nat → Option Answer) (t : Timed) : List Happening → Option Timed
  | [] => some t
  | h :: more => (t.step? answer h).bind fun t' => t'.run? answer more

/-! ## One step -/

/-- Something happens to search `i`: it is `old` before and `new` after, and a place is taken or
given back as this demands. -/
structure Changes (t : Timed) (h : Happening) (t' : Timed) (i : Nat) (old new : Slot) :
    Prop where
  search_eq : h.search? = some i
  old_eq : t.fan.slots[i]? = some old
  slots_eq : t'.fan.slots = t.fan.slots.set i new
  free_eq : t'.fan.free + (if new = .searching then 1 else 0) =
    t.fan.free + (if old = .searching then 1 else 0)
  isOpen : old.isOpen = true
  waiting : new ≠ .waiting
  begins : h = .move (.start i) ↔ new = .searching
  waited : new = .searching → old = .waiting

/-- A search that is given up was open; a place that it kept is free again. -/
theorem giveUp?_eq_some {f g : FanOut} (hg : giveUp? f i = some g) :
    ∃ old, f.slots[i]? = some old ∧ old.isOpen = true ∧
      g = ⟨f.free + (if old = .searching then 1 else 0), f.slots.set i (.ended .nothing)⟩ := by
  unfold giveUp? at hg
  split at hg
  case h_1 hold => exact ⟨.waiting, hold, rfl, (Option.some.inj hg).symm⟩
  case h_2 hold => exact ⟨.searching, hold, rfl, (Option.some.inj hg).symm⟩
  case h_3 => cases hg

/-- The deadline passes, or one search is changed. -/
theorem step?_cases (hstep : t.step? answer h = some t') :
    (h = .expire ∧ t' = ⟨t.fan, true⟩) ∨ ∃ i old new, t.Changes h t' i old new := by
  cases h with
  | expire =>
    simp only [step?] at hstep
    split at hstep
    · cases hstep
    · exact .inl ⟨rfl, (Option.some.inj hstep).symm⟩
  | move m =>
    cases m with
    | start i =>
      simp only [step?] at hstep
      split at hstep
      · cases hstep
      · obtain ⟨f, hf, rfl⟩ := Option.map_eq_some_iff.mp hstep
        obtain ⟨hfree, hold, rfl⟩ := start?_eq_some.mp hf
        refine .inr ⟨i, .waiting, .searching, rfl, hold, rfl, ?_, rfl, by simp, by simp, by simp⟩
        simp only [reduceCtorEq, if_false, if_true]
        omega
    | finish i =>
      obtain ⟨f, hf, rfl⟩ := Option.map_eq_some_iff.mp hstep
      obtain ⟨a, -, hg⟩ := Option.bind_eq_some_iff.mp hf
      obtain ⟨hold, rfl⟩ := finish?_eq_some.mp hg
      exact .inr ⟨i, .searching, .ended a, rfl, hold, rfl, by simp, rfl, by simp, by simp, by simp⟩
  | giveUp i =>
    simp only [step?] at hstep
    split at hstep
    · obtain ⟨f, hf, rfl⟩ := Option.map_eq_some_iff.mp hstep
      obtain ⟨old, hold, hopen, rfl⟩ := giveUp?_eq_some hf
      exact .inr ⟨i, old, .ended .nothing, rfl, hold, rfl, by simp, hopen, by simp, by simp, by simp⟩
    · cases hstep

/-! ## What holds throughout -/

/-- Every place is free or kept by one search; the searches that go on are those that have begun and
have neither ended nor been given up; and none has begun twice. -/
structure Kept (places n : Nat) (past : List Happening) (t : Timed) : Prop where
  length_eq : t.fan.slots.length = n
  places_eq : t.fan.free + t.fan.slots.count .searching = places
  untouched : ∀ i, t.fan.slots[i]? = some .waiting → ∀ h ∈ past, h.search? ≠ some i
  searching_iff : ∀ i, t.fan.slots[i]? = some .searching ↔
    .move (.start i) ∈ past ∧ .move (.finish i) ∉ past ∧ .giveUp i ∉ past
  once : ∀ i, past.count (.move (.start i)) ≤ 1

theorem kept_initial (places n : Nat) : Kept places n [] (initial places n) where
  length_eq := by simp [initial, FanOut.initial]
  places_eq := by simp [initial, FanOut.initial, List.count_replicate]
  untouched _ _ _ hm := by cases hm
  searching_iff i := by simp [initial, FanOut.initial, List.getElem?_replicate]
  once _ := by simp

theorem Kept.expire (hk : Kept places n past t) :
    Kept places n (past ++ [.expire]) ⟨t.fan, true⟩ where
  length_eq := hk.length_eq
  places_eq := hk.places_eq
  untouched i hi h hm := by
    rcases List.mem_append.mp hm with hm | hm
    · exact hk.untouched i hi h hm
    · obtain rfl := List.mem_singleton.mp hm
      simp [Happening.search?]
  searching_iff i := by simpa using hk.searching_iff i
  once i := by simpa [List.count_append] using hk.once i

/-! ## What a change keeps -/

theorem Changes.slot_self (hc : t.Changes h t' i old new) : t'.fan.slots[i]? = some new := by
  rw [hc.slots_eq, List.getElem?_set_self (List.getElem?_eq_some_iff.mp hc.old_eq).1]

theorem Changes.slot_of_ne (hc : t.Changes h t' i old new) {j : Nat} (hj : j ≠ i) :
    t'.fan.slots[j]? = t.fan.slots[j]? := by
  rw [hc.slots_eq, List.getElem?_set_ne (Ne.symm hj)]

/-- A change of one search is nothing that happens to another one. -/
theorem Changes.mem_iff (hc : t.Changes h t' i old new) {j : Nat} {h' : Happening}
    (hh : h'.search? = some j) (hj : j ≠ i) : h' ∈ past ++ [h] ↔ h' ∈ past := by
  have hne : h' ≠ h := by
    rintro rfl
    exact hj (Option.some.inj (hh.symm.trans hc.search_eq))
  simp [hne]

/-- A search that begins has waited, so that nothing has happened to it. -/
theorem Kept.fresh (hk : Kept places n past t) (hc : t.Changes h t' i old new)
    (hn : new = .searching) : ∀ h' ∈ past, h'.search? ≠ some i :=
  hk.untouched i (hc.waited hn ▸ hc.old_eq)

theorem Kept.places_change (hk : Kept places n past t) (hc : t.Changes h t' i old new) :
    t'.fan.free + t'.fan.slots.count .searching = places := by
  have hcount := count_set new hc.old_eq
  have hplaces := hk.places_eq
  have hfree := hc.free_eq
  rw [hc.slots_eq]
  omega

theorem Kept.untouched_change (hk : Kept places n past t) (hc : t.Changes h t' i old new) (j : Nat)
    (hj : t'.fan.slots[j]? = some .waiting) : ∀ h' ∈ past ++ [h], h'.search? ≠ some j := by
  have hji : j ≠ i := by
    rintro rfl
    exact hc.waiting (Option.some.inj (hc.slot_self.symm.trans hj))
  intro h' hm
  rcases List.mem_append.mp hm with hm | hm
  · exact hk.untouched j (hc.slot_of_ne hji ▸ hj) h' hm
  · obtain rfl := List.mem_singleton.mp hm
    rw [hc.search_eq]
    exact fun he => hji (Option.some.inj he).symm

/-- The search that is changed goes on just if it has begun now. -/
theorem Kept.searching_self (hk : Kept places n past t) (hc : t.Changes h t' i old new) :
    new = .searching ↔ .move (.start i) ∈ past ++ [h] ∧ .move (.finish i) ∉ past ++ [h] ∧
      .giveUp i ∉ past ++ [h] := by
  constructor
  · intro hn
    have hfresh := hk.fresh hc hn
    obtain rfl := hc.begins.mpr hn
    refine ⟨by simp, ?_, ?_⟩
    · simpa using fun hm => hfresh _ hm rfl
    · simpa using fun hm => hfresh _ hm rfl
  · rintro ⟨-, hfinish, hgiveUp⟩
    have hsearch := hc.search_eq
    cases h with
    | expire => cases hsearch
    | giveUp k =>
      obtain rfl := Option.some.inj hsearch
      exact absurd (List.mem_append_right _ List.mem_cons_self) hgiveUp
    | move m =>
      cases m with
      | start k =>
        obtain rfl := Option.some.inj hsearch
        exact hc.begins.mp rfl
      | finish k =>
        obtain rfl := Option.some.inj hsearch
        exact absurd (List.mem_append_right _ List.mem_cons_self) hfinish

theorem Kept.searching_change (hk : Kept places n past t) (hc : t.Changes h t' i old new)
    (j : Nat) : t'.fan.slots[j]? = some .searching ↔
      .move (.start j) ∈ past ++ [h] ∧ .move (.finish j) ∉ past ++ [h] ∧
        .giveUp j ∉ past ++ [h] := by
  by_cases hji : j = i
  · subst hji
    rw [hc.slot_self, Option.some.injEq]
    exact hk.searching_self hc
  · rw [hc.slot_of_ne hji, hk.searching_iff, hc.mem_iff rfl hji, hc.mem_iff rfl hji,
      hc.mem_iff rfl hji]

theorem Kept.once_change (hk : Kept places n past t) (hc : t.Changes h t' i old new) (j : Nat) :
    (past ++ [h]).count (.move (.start j)) ≤ 1 := by
  rw [List.count_append]
  by_cases hh : h = .move (.start j)
  · subst hh
    obtain rfl : j = i := Option.some.inj hc.search_eq
    have hnone : past.count (.move (.start j)) = 0 := by
      rw [List.count_eq_zero]
      exact fun hm => hk.fresh hc (hc.begins.mp rfl) _ hm rfl
    simp [hnone]
  · have hnone : [h].count (.move (.start j)) = 0 := by
      rw [List.count_eq_zero, List.mem_singleton]
      exact fun he => hh he.symm
    rw [hnone]
    exact hk.once j

theorem Kept.change (hk : Kept places n past t) (hc : t.Changes h t' i old new) :
    Kept places n (past ++ [h]) t' where
  length_eq := by rw [hc.slots_eq, List.length_set, hk.length_eq]
  places_eq := hk.places_change hc
  untouched := hk.untouched_change hc
  searching_iff := hk.searching_change hc
  once := hk.once_change hc

/-- One step leads from what is kept to what is kept. -/
theorem Kept.step (hk : Kept places n past t) (hstep : t.step? answer h = some t') :
    Kept places n (past ++ [h]) t' := by
  rcases step?_cases hstep with ⟨rfl, rfl⟩ | ⟨i, old, new, hc⟩
  · exact hk.expire
  · exact hk.change hc

theorem Kept.run (hk : Kept places n past t) (hrun : t.run? answer more = some t') :
    Kept places n (past ++ more) t' := by
  induction more generalizing past t with
  | nil =>
    obtain rfl := Option.some.inj hrun
    simpa using hk
  | cons h more ih =>
    obtain ⟨t₁, hstep, hrest⟩ := Option.bind_eq_some_iff.mp hrun
    simpa using ih (hk.step hstep) hrest

theorem kept_of_run (hrun : (initial places n).run? answer past = some t) :
    Kept places n past t := by
  simpa using (kept_initial places n).run hrun

/-! ## Without a deadline -/

/-- As long as the deadline does not pass, a fan-out makes moves and nothing else. -/
theorem run?_of_not_expired (hrun : t.run? answer more = some t') (ht : t.expired = false)
    (hno : .expire ∉ more) :
    ∃ moves, more = moves.map .move ∧ t.fan.run? answer moves = some t'.fan ∧
      t'.expired = false := by
  induction more generalizing t with
  | nil =>
    obtain rfl := Option.some.inj hrun
    exact ⟨[], rfl, rfl, ht⟩
  | cons h more ih =>
    obtain ⟨t₁, hstep, hrest⟩ := Option.bind_eq_some_iff.mp hrun
    simp only [List.mem_cons, not_or] at hno
    cases h with
    | expire => exact absurd rfl hno.1
    | giveUp i => simp [step?, ht] at hstep
    | move m =>
      have hmove : (t.fan.move? answer m).map (⟨·, t.expired⟩) = some t₁ := by
        cases m with
        | start i => simpa [step?, ht] using hstep
        | finish i => exact hstep
      obtain ⟨f, hf, rfl⟩ := Option.map_eq_some_iff.mp hmove
      obtain ⟨moves, rfl, hmoves, hexpired⟩ := ih hrest ht hno.2
      exact ⟨m :: moves, rfl, by rw [FanOut.run?, hf]; exact hmoves, hexpired⟩

theorem run?_map_move (answer : Nat → Option Answer) {f g : FanOut} {moves : List Move}
    (hrun : f.run? answer moves = some g) :
    run? answer ⟨f, false⟩ (moves.map .move) = some ⟨g, false⟩ := by
  induction moves generalizing f with
  | nil =>
    obtain rfl := Option.some.inj hrun
    rfl
  | cons m moves ih =>
    obtain ⟨f', hf', hrest⟩ := Option.bind_eq_some_iff.mp hrun
    have hstep : step? answer ⟨f, false⟩ (.move m) = some ⟨f', false⟩ := by
      cases m <;> simp [step?, hf']
    rw [List.map_cons, run?, hstep]
    exact ih hrest

theorem stuck_of_not_expired (ht : t.expired = false)
    (hstuck : ∀ m, t.step? answer (.move m) = none) (m : Move) : t.fan.move? answer m = none := by
  have h := hstuck m
  cases m <;> simpa [step?, ht] using h

end Timed

namespace Searcher

open FanOut

variable {Q A ε : Type} {s : Searcher Q A ε} {q : Query} {ds : List Definition}
  {endings : Nat → SearchEnding ε} {past : List Happening} {t : Timed} {i : Nat} {d : Definition}

/-- What happens to the searches of definitions, in an order that leads to `t`. -/
def TimedRun (s : Searcher Q A ε) (q : Query) (ds : List Definition)
    (endings : Nat → SearchEnding ε) (past : List Happening) (t : Timed) : Prop :=
  (Timed.initial q.places ds.length).run? (s.answers ds endings) past = some t

/-- The search does not end. -/
def neverEnds : SearchEnding ε → Bool
  | .waiting => true
  | _ => false

theorem isNone_answers (hd : ds[i]? = some d) :
    (s.answers ds endings i).isNone = neverEnds (endings i) := by
  rw [answers, hd, Option.bind_some]
  cases endings i with
  | done found => cases found <;> rfl
  | failed e => rfl
  | waiting => rfl

theorem countP_isNone_answers (s : Searcher Q A ε) (ds : List Definition)
    (endings : Nat → SearchEnding ε) :
    ((List.range ds.length).countP fun i => (s.answers ds endings i).isNone) =
      (List.range ds.length).countP fun i => neverEnds (endings i) := by
  refine List.countP_congr fun i hi => ?_
  rw [isNone_answers (List.getElem?_eq_getElem (List.mem_range.mp hi))]

theorem places_eq_max (q : Query) : (q.places : Int) = max 1 q.maxConcurrent := by
  unfold Query.places
  omega

/-- **Searches are bounded, and none starves.** At any time there are no more searches than places,
and none begins twice, also after a deadline. Without one, once nothing can happen any more, each
search that ends has its own answer in its slot and none waits, if fewer searches never end than
there are places. What a searcher does is such a course of events. -/
theorem fanOut_within_places (s : Searcher Q A ε) (q : Query) (ds : List Definition) :
    (∀ endings past t, s.TimedRun q ds endings past t →
      (t.fan.slots.count .searching : Int) ≤ max 1 q.maxConcurrent ∧
      (∀ i, t.fan.slots[i]? = some .searching ↔
        .move (.start i) ∈ past ∧ .move (.finish i) ∉ past ∧ .giveUp i ∉ past) ∧
      ∀ i, past.count (.move (.start i)) ≤ 1) ∧
    (∀ endings past t, s.TimedRun q ds endings past t → .expire ∉ past →
      (∀ m, t.step? (s.answers ds endings) (.move m) = none) →
      ((List.range ds.length).countP (fun i => neverEnds (endings i)) : Int) <
        max 1 q.maxConcurrent →
      ∀ i d, ds[i]? = some d → t.fan.slots[i]? ≠ some .waiting ∧
        (neverEnds (endings i) = false → ∃ a, s.answer? d (endings i) = some a ∧
          t.fan.slots[i]? = some (.ended a))) ∧
    ∀ world past, ∃ (endings : Nat → SearchEnding ε) (moves : List Move) (f : FanOut),
      s.Actual q world ds endings ∧
      s.TimedRun q ds endings (moves.map .move) ⟨f, false⟩ ∧
      (∀ m, Timed.step? (s.answers ds endings) ⟨f, false⟩ (.move m) = none) ∧
      ((s.results q ds) world past).ending = match f.contributions? q.deadline ds with
        | some results => .done results
        | none => .waiting := by
  refine ⟨fun endings past t hrun => ?_, fun endings past t hrun hno hstuck hfew i d hd => ?_,
    fun world past => ?_⟩
  · have hkept := Timed.kept_of_run hrun
    refine ⟨?_, hkept.searching_iff, hkept.once⟩
    have hplaces := hkept.places_eq
    rw [← places_eq_max]
    omega
  · obtain ⟨moves, rfl, hmoves, hexpired⟩ := Timed.run?_of_not_expired hrun rfl hno
    have hreached := reached_of_run hmoves
    have hstuck := Timed.stuck_of_not_expired hexpired hstuck
    have hfree : ((List.range ds.length).countP fun i => (s.answers ds endings i).isNone) <
        q.places := by
      rw [countP_isNone_answers]
      rw [← places_eq_max] at hfew
      omega
    have hi : i < ds.length := (List.getElem?_eq_some_iff.mp hd).1
    refine ⟨hreached.not_waiting_of_stuck hstuck hfree i, fun hends => ?_⟩
    have hsome : (s.answers ds endings i).isSome := by
      rw [← Option.not_isNone, isNone_answers hd, hends]
      rfl
    obtain ⟨a, ha⟩ := Option.isSome_iff_exists.mp hsome
    have hfinished := hreached.finished_of_stuck hstuck hfree hi hsome
    refine ⟨a, by rw [← ha, answers, hd]; rfl, ?_⟩
    rw [hreached.slot_eq, if_pos hi, slotAfter, if_pos hfinished, ha]
    rfl
  · obtain ⟨endings, moves, f, hactual, hrun, hstuck, hending⟩ :=
      results_of_run s q ds world past
    refine ⟨endings, moves, f, hactual, Timed.run?_map_move _ hrun, fun m => ?_, hending⟩
    have hm := hstuck m
    cases m <;> simp [Timed.step?, hm]

/-- The first of three searches never ends. In one place the others wait for it until the deadline;
in two they have their answers. -/
theorem fanOut_of_a_search_without_end :
    let s : Searcher Unit Unit Failure := ⟨fun _ _ _ => pure none, fun _ c => pure c, troubleOf⟩
    let d : Definition := { id := "a", name := "A" }
    let ds : List Definition := [d, d, d]
    let endings : Nat → SearchEnding Failure := fun
      | 0 => .waiting
      | 1 => .failed (.network "u" "down" none)
      | _ => .done (some [])
    let late : List Happening := [.move (.start 0), .expire, .giveUp 1, .giveUp 0, .giveUp 2]
    let past : List Happening := [.move (.start 0), .move (.start 1), .move (.finish 1),
      .move (.start 2), .move (.finish 2)]
    (∃ t, s.TimedRun { keywords := "k", maxConcurrent := -1 } ds endings late t ∧
      (t.fan.slots.count .searching : Int) ≤ 1) ∧
    ∃ t, s.TimedRun { keywords := "k", maxConcurrent := 2 } ds endings past t ∧
      .expire ∉ past ∧ (∀ m, t.step? (s.answers ds endings) (.move m) = none) ∧
      ((List.range ds.length).countP (fun i => neverEnds (endings i)) : Int) < max 1 2 ∧
      ∃ a, s.answer? d (endings 1) = some a ∧ t.fan.slots[1]? = some (.ended a) := by
  intro s d ds endings late past
  have hlate : s.TimedRun { keywords := "k", maxConcurrent := -1 } ds endings late
      ⟨⟨1, [.ended .nothing, .ended .nothing, .ended .nothing]⟩, true⟩ := rfl
  have hpast : s.TimedRun { keywords := "k", maxConcurrent := 2 } ds endings past
      ⟨⟨1, [.searching, .ended (.failed ⟨"a", .network, some "down"⟩), .ended (.found [])]⟩,
        false⟩ := rfl
  have hstuck : ∀ m, Timed.step? (s.answers ds endings) ⟨⟨1, [.searching,
      .ended (.failed ⟨"a", .network, some "down"⟩), .ended (.found [])]⟩, false⟩ (.move m) =
        none := by
    rintro (i | i) <;> rcases i with _ | _ | _ | i <;> rfl
  have hfew : ((List.range ds.length).countP (fun i => neverEnds (endings i)) : Int) < max 1 2 := by
    decide
  obtain ⟨hbound, -, -⟩ := fanOut_within_places s { keywords := "k", maxConcurrent := -1 } ds
  obtain ⟨-, hserved, -⟩ := fanOut_within_places s { keywords := "k", maxConcurrent := 2 } ds
  exact ⟨⟨_, hlate, (hbound endings late _ hlate).1⟩, _, hpast, by decide, hstuck, hfew,
    (hserved endings past _ hpast (by decide) hstuck hfew 1 d rfl).2 rfl⟩

end Searcher

end TrackerSearch.Search
