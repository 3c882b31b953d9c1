import TrackerSearch.Proofs.Web.Address
import TrackerSearch.Web.Reference

/-!
# The query of a reference

What stands behind the first question mark of a reference without a fragment is its query, apart
from tabs and line breaks, and has no part in how the rest is split.
-/
namespace TrackerSearch.Web.Reference

open TrackerSearch.Text

variable {scheme front query s : List Char} {r : Reference}

/-- The characters that splitting keeps wherever they stand. -/
def isKept (c : Char) : Bool := c != '\t' && c != '\r' && c != '\n'

/-! ## In front of the query -/

theorem cleaned_query (front query : List Char) :
    cleaned (front ++ '?' :: query) = cleaned front ++ '?' :: query.filter isKept := by
  rw [cleaned, dropWhile_append_cons (by decide), List.filter_append,
    List.filter_cons_of_pos (by decide)]
  rfl

/-- A scheme is looked for in front of the query only. -/
theorem cutScheme_query (scheme front query : List Char) :
    cutScheme scheme (front ++ '?' :: query) =
      ((cutScheme scheme front).1, (cutScheme scheme front).2 ++ '?' :: query) := by
  by_cases hcolon : ':' ∈ front
  · obtain ⟨lead, rest, rfl, hlead⟩ := List.eq_append_cons_of_mem hcolon
    have hlong (t : List Char) : lead.length < (lead ++ ':' :: t).length := by simp
    have hdrop (t : List Char) : (lead ++ ':' :: t).drop (lead.length + 1) = t := by simp
    simp only [cutScheme, List.append_assoc, List.cons_append, takeWhile_ne_append hlead, hlong,
      hdrop, decide_true, Bool.true_and]
    cases (lead.head?.map (·.isAlpha)).getD false && lead.all isSchemeChar <;> simp
  · -- Without a colon in front there is no scheme: a question mark cannot be in one.
    have hwhole : front.takeWhile (· != ':') = front := congrArg Prod.fst (cutChar_of_not_mem hcolon)
    have hlead : (front ++ '?' :: query).takeWhile (· != ':') =
        front ++ '?' :: query.takeWhile (· != ':') := by
      rw [List.takeWhile_append_of_pos (forall_bne_of_not_mem hcolon),
        List.takeWhile_cons_of_pos (by decide)]
    have hall : (front ++ '?' :: query.takeWhile (· != ':')).all isSchemeChar = false := by
      simp [isSchemeChar]
    simp [cutScheme, hwhole, hlead, hall]

theorem cutAuthority_of_path (h : ∀ t, s ≠ '/' :: '/' :: t) : cutAuthority s = ([], s) := by
  unfold cutAuthority
  split
  · exact absurd rfl (h _)
  · rfl

/-- An authority ends where the query begins. -/
theorem cutAuthority_query (s query : List Char) :
    cutAuthority (s ++ '?' :: query) =
      ((cutAuthority s).1, (cutAuthority s).2 ++ '?' :: query) := by
  by_cases hnetwork : ∃ t, s = '/' :: '/' :: t
  · obtain ⟨t, rfl⟩ := hnetwork
    simp only [List.cons_append, cutAuthority]
    rw [takeWhile_append_cons (by decide), dropWhile_append_cons (by decide)]
  · have hpath : ∀ t, s ++ '?' :: query ≠ '/' :: '/' :: t := by
      rintro t ht
      rcases s with _ | ⟨c, _ | ⟨d, s⟩⟩
      · exact absurd (List.cons.inj ht).1 (by decide)
      · exact absurd (List.cons.inj (List.cons.inj ht).2).1 (by decide)
      · simp only [List.cons_append, List.cons.injEq] at ht
        exact hnetwork ⟨s, by rw [ht.1, ht.2.1]⟩
    rw [cutAuthority_of_path hpath, cutAuthority_of_path fun t ht => hnetwork ⟨t, ht⟩]

/-! ## Nothing is added -/

theorem cleaned_subset (s : List Char) : cleaned s ⊆ s := fun _ h =>
  (List.dropWhile_suffix _).subset ((List.mem_filter.mp h).1)

theorem cutScheme_subset (scheme s : List Char) : (cutScheme scheme s).2 ⊆ s := by
  rw [cutScheme]
  split
  · exact List.drop_subset _ s
  · exact List.Subset.refl s

theorem cutAuthority_subset (s : List Char) : (cutAuthority s).2 ⊆ s := by
  unfold cutAuthority
  split
  · intro c hc
    exact List.mem_cons_of_mem _ (List.mem_cons_of_mem _ ((List.dropWhile_suffix _).subset hc))
  · exact List.Subset.refl s

/-- What is cut into path, query and fragment. -/
def behindAuthority (scheme s : List Char) : List Char :=
  (cutAuthority (cutScheme scheme (cleaned s)).2).2

theorem behindAuthority_subset (scheme s : List Char) : behindAuthority scheme s ⊆ s :=
  fun _ h => cleaned_subset s (cutScheme_subset scheme _ (cutAuthority_subset _ h))

/-! ## The query -/

theorem query_of_unmarked (hfront : '?' ∉ front) (hfragment : '#' ∉ front)
    (h : split? scheme front = some r) : r.query = [] := by
  have hsign := cutChar_of_not_mem fun h => hfragment (behindAuthority_subset scheme front h)
  have hmark := cutChar_of_not_mem fun h => hfront (behindAuthority_subset scheme front h)
  rw [behindAuthority] at hsign hmark
  simp only [split?, hsign, hmark] at h
  split at h
  · obtain rfl := Option.some.inj h
    rfl
  · cases h

/-- What stands behind the first question mark is the query. -/
theorem split?_query (hfront : '?' ∉ front) (hfragment : '#' ∉ front) (hquery : '#' ∉ query) :
    split? scheme (front ++ '?' :: query) =
      (split? scheme front).map fun r => { r with query := query.filter isKept } := by
  have hsign : '#' ∉ behindAuthority scheme front :=
    fun h => hfragment (behindAuthority_subset scheme front h)
  have hmark : '?' ∉ behindAuthority scheme front :=
    fun h => hfront (behindAuthority_subset scheme front h)
  have hwhole : '#' ∉ behindAuthority scheme front ++ '?' :: query.filter isKept := by
    rw [List.mem_append, List.mem_cons]
    rintro (h | h | h)
    · exact hsign h
    · exact absurd h (by decide)
    · exact hquery (List.mem_filter.mp h).1
  have hfirst := cutChar_of_not_mem hwhole
  have hsecond := cutChar_append hmark (query.filter isKept)
  have hfront' := cutChar_of_not_mem hsign
  have hfront'' := cutChar_of_not_mem hmark
  rw [behindAuthority] at hfirst hsecond hfront' hfront''
  simp only [split?, cleaned_query, cutScheme_query, cutAuthority_query, hfirst, hsecond, hfront',
    hfront'']
  split <;> rfl

end TrackerSearch.Web.Reference
