import Mathlib.Data.List.Basic
import TrackerSearch.Search.FanOut

/-!
# What ranking and selection come to

Ranking is the only arrangement of the candidates that has the most seeders first and leaves
candidates with equally many in their order (`eq_rank`). The selection is at the head of the
ranking, and where it stood before it was the first one with the most seeders.
-/
namespace TrackerSearch.Search

variable {cs ds : List Candidate} {c : Candidate} {minSeeders : Int}

/-- The most seeders come first. -/
def Descending (cs : List Candidate) : Prop := cs.Pairwise fun a b => b.seeders ≤ a.seeders

/-- Candidates with equally many seeders stand in the same order. -/
def SameTies (cs ds : List Candidate) : Prop :=
  ∀ n, cs.filter (·.seeders = n) = ds.filter (·.seeders = n)

theorem rank_perm (cs : List Candidate) : (rank cs).Perm cs := List.mergeSort_perm ..

theorem rank_descending (cs : List Candidate) : Descending (rank cs) := by
  have h : (rank cs).Pairwise fun a b => decide (b.seeders ≤ a.seeders) := List.pairwise_mergeSort
    (by intro a b c; simp only [decide_eq_true_eq]; omega)
    (by intro a b; simp only [Bool.or_eq_true, decide_eq_true_eq]; omega) cs
  exact h.imp fun h => by simpa only [decide_eq_true_eq] using h

theorem rank_sameTies (cs : List Candidate) : SameTies (rank cs) cs := by
  intro n
  have hties : (cs.filter (·.seeders = n)).Pairwise fun a b => decide (b.seeders ≤ a.seeders) := by
    apply List.pairwise_of_forall_mem_list
    intro a ha b hb
    simp only [List.mem_filter, decide_eq_true_eq] at ha hb ⊢
    omega
  have hsub : (cs.filter (·.seeders = n)).Sublist (rank cs) := by
    apply List.sublist_mergeSort
    · intro a b c; simp only [decide_eq_true_eq]; omega
    · intro a b; simp only [Bool.or_eq_true, decide_eq_true_eq]; omega
    · exact hties
    · exact List.filter_sublist
  have hkeep := hsub.filter (fun c => decide (c.seeders = n))
  rw [List.filter_filter] at hkeep
  simp only [Bool.and_self] at hkeep
  exact (hkeep.eq_of_length ((rank_perm cs).filter _).length_eq.symm).symm

/-- Two rankings with the same ties are one. -/
theorem Descending.eq (hc : Descending cs) (hd : Descending ds) (h : SameTies cs ds) : cs = ds := by
  induction cs generalizing ds with
  | nil =>
    cases ds with
    | nil => rfl
    | cons d ds =>
      have hn := h d.seeders
      simp at hn
  | cons c cs ih =>
    cases ds with
    | nil =>
      have hn := h c.seeders
      simp at hn
    | cons d ds =>
      have hmem : ∀ {a b : Candidate} {as bs : List Candidate}, Descending (b :: bs) →
          SameTies (a :: as) (b :: bs) → a.seeders ≤ b.seeders := by
        intro a b as bs hb hab
        have ha : a ∈ (b :: bs).filter (·.seeders = a.seeders) := by
          rw [← hab a.seeders]
          simp
        rcases List.mem_cons.mp (List.mem_filter.mp ha).1 with he | hm
        · exact Int.le_of_eq (by rw [he])
        · exact (List.pairwise_cons.mp hb).1 a hm
      have heq : c.seeders = d.seeders :=
        Int.le_antisymm (hmem hd h) (hmem hc fun n => (h n).symm)
      have hhead := h c.seeders
      simp only [List.filter_cons, heq, decide_true, if_true, List.cons.injEq] at hhead
      obtain ⟨rfl, _⟩ := hhead
      have htail : SameTies cs ds := by
        intro n
        have hn := h n
        simp only [List.filter_cons] at hn
        split at hn
        · exact (List.cons.inj hn).2
        · exact hn
      rw [ih (List.pairwise_cons.mp hc).2 (List.pairwise_cons.mp hd).2 htail]

/-- Only the ranking has the most seeders first and keeps the order of ties. -/
theorem eq_rank (hd : Descending ds) (h : SameTies ds cs) : ds = rank cs :=
  hd.eq (rank_descending cs) fun n => (h n).trans (rank_sameTies cs n).symm

/-- Among ranked candidates the first one with enough seeders is the first one of all. -/
theorem select_eq_some_iff (hd : Descending cs) :
    select cs minSeeders = some c ↔ cs.head? = some c ∧ minSeeders ≤ c.seeders := by
  cases cs with
  | nil => simp [select]
  | cons a cs =>
    have hall := (List.pairwise_cons.mp hd).1
    unfold select
    by_cases ha : minSeeders ≤ a.seeders
    · simp only [List.find?_cons, hasEnough, ha, decide_true, List.head?_cons, Option.some.injEq]
      constructor
      · rintro rfl; exact ⟨rfl, ha⟩
      · exact fun h => h.1
    · simp only [List.find?_cons, hasEnough, ha, decide_false, List.head?_cons, Option.some.injEq]
      constructor
      · intro h
        have hc := List.find?_some h
        have hm := hall c (List.mem_of_find?_eq_some h)
        simp only [hasEnough, decide_eq_true_eq] at hc
        omega
      · rintro ⟨rfl, h⟩; exact absurd h ha

/-- A candidate with the most seeders, and the first one such. -/
def IsFirstMaximum (cs : List Candidate) (c : Candidate) : Prop :=
  ∃ before after, cs = before ++ c :: after ∧ (∀ a ∈ before, a.seeders < c.seeders) ∧
    ∀ a ∈ after, a.seeders ≤ c.seeders

theorem isFirstMaximum_of_head? (h : (rank cs).head? = some c) : IsFirstMaximum cs c := by
  obtain ⟨rest, hr⟩ := List.head?_eq_some_iff.mp h
  have hd := rank_descending cs
  rw [hr] at hd
  have hle : ∀ a ∈ cs, a.seeders ≤ c.seeders := by
    intro a ha
    have hm : a ∈ rank cs := (rank_perm cs).mem_iff.mpr ha
    rw [hr] at hm
    rcases List.mem_cons.mp hm with rfl | hm
    · exact Int.le_refl _
    · exact (List.pairwise_cons.mp hd).1 a hm
  have hties : cs.filter (·.seeders = c.seeders) = c :: rest.filter (·.seeders = c.seeders) := by
    rw [← rank_sameTies cs, hr]
    simp
  obtain ⟨before, after, hcs, hbefore, _, _⟩ := List.filter_eq_cons_iff.mp hties
  refine ⟨before, after, hcs, ?_, ?_⟩
  · intro a ha
    have hne := hbefore a ha
    have hl := hle a (by rw [hcs]; exact List.mem_append_left _ ha)
    simp only [decide_eq_true_eq] at hne
    omega
  · intro a ha
    exact hle a (by rw [hcs]; simp [ha])

end TrackerSearch.Search
