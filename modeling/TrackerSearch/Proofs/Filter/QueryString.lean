import TrackerSearch.Filter.Apply
import TrackerSearch.Proofs.Fetch.Query
import TrackerSearch.Proofs.Web.Query

/-!
# Reading inputs back

Inputs that are put behind an address for a relay can be read off it with `querystring`, and what
could be read off the address before is not disturbed by them. A pair without a value is not seen,
which makes no difference: no value for a key is empty too.
-/
namespace TrackerSearch.Filter

open TrackerSearch.Text TrackerSearch.Web

variable {url key : List Char} {r : Reference} {inputs : Table String}
  {s t : List (List Char × List Char)}

/-! ## The first value of a key -/

/-- The filter that takes the value of a key from the query of a link. -/
def querying (key : String) : FilterSpec := { kind := .known .queryString, args := [key] }

/-- The first value of a key, empty without one. -/
def firstValue (pairs : List (List Char × List Char)) (key : List Char) : List Char :=
  ((pairs.find? (·.1 == key)).map (·.2)).getD []

theorem apply_querying (h : Reference.split? [] url = some r) (key : String) :
    apply (querying key) (some url) = pure (some (firstValue (queryPairs r.query) key.toList)) := by
  have hvalue : queryValue (some url) [key] = .ok (firstValue (queryPairs r.query) key.toList) := by
    simp only [queryValue, h]
    rfl
  have hfilter : evaluate .queryString [key] (some url) =
      .ok (some (firstValue (queryPairs r.query) key.toList)) := by
    rw [evaluate, hvalue]
    rfl
  simp only [apply, querying, hfilter]

theorem firstValue_cons (pair : List Char × List Char) (s : List (List Char × List Char)) :
    firstValue (pair :: s) key = if pair.1 = key then pair.2 else firstValue s key := by
  by_cases hkey : pair.1 = key
  · simp [firstValue, hkey]
  · simp [firstValue, hkey]

/-- A key that has a value keeps it. -/
theorem firstValue_append_of_mem (h : ∃ value, (key, value) ∈ s) :
    firstValue (s ++ t) key = firstValue s key := by
  induction s with
  | nil => simp at h
  | cons pair s ih =>
    rw [List.cons_append, firstValue_cons, firstValue_cons]
    split
    · rfl
    · rename_i hkey
      refine ih ?_
      obtain ⟨value, hvalue⟩ := h
      refine ⟨value, (List.mem_cons.mp hvalue).resolve_left fun hpair => hkey ?_⟩
      rw [← hpair]

/-- A key without a value gets the first one behind. -/
theorem firstValue_append_of_forall (h : ∀ value, (key, value) ∉ s) :
    firstValue (s ++ t) key = firstValue t key := by
  induction s with
  | nil => rfl
  | cons pair s ih =>
    have hkey : pair.1 ≠ key := by
      rintro rfl
      exact h pair.2 List.mem_cons_self
    rw [List.cons_append, firstValue_cons, if_neg hkey]
    exact ih fun value hvalue => h value (List.mem_cons_of_mem _ hvalue)

theorem firstValue_of_forall (h : ∀ value, (key, value) ∉ s) : firstValue s key = [] := by
  rw [← List.append_nil s, firstValue_append_of_forall h]
  rfl

/-- The inputs with a value, as pairs of a query. -/
def givenValues (inputs : Table String) : List (List Char × List Char) :=
  (Fetch.given inputs).filter fun pair => !pair.2.isEmpty

theorem givenValues_cons (entry : String × String) (inputs : Table String) :
    givenValues (entry :: inputs) =
      if entry.2.toList = [] then givenValues inputs
      else (entry.1.toList, entry.2.toList) :: givenValues inputs := by
  by_cases hvalue : entry.2.toList = []
  · simp [givenValues, Fetch.given, hvalue]
  · simp [givenValues, Fetch.given, hvalue]

/-- A key that is not among the inputs has no value there. -/
theorem not_mem_givenValues {key : String} (h : key ∉ inputs.map (·.1)) (value : List Char) :
    (key.toList, value) ∉ givenValues inputs := by
  intro hmem
  obtain ⟨entry, hentry, heq⟩ := List.mem_map.mp (List.mem_filter.mp hmem).1
  have hkey : entry.1 = key := String.toList_injective (congrArg Prod.fst heq)
  exact h (List.mem_map.mpr ⟨entry, hentry, hkey⟩)

/-- Each input is the first value of its key, also a blank one. -/
theorem firstValue_givenValues (hkeys : (inputs.map (·.1)).Nodup) {entry : String × String}
    (hentry : entry ∈ inputs) :
    firstValue (givenValues inputs) entry.1.toList = entry.2.toList := by
  induction inputs with
  | nil => cases hentry
  | cons first inputs ih =>
    obtain ⟨hfirst, hkeys⟩ := List.nodup_cons.mp hkeys
    rw [givenValues_cons]
    rcases List.mem_cons.mp hentry with rfl | hentry
    · split
      · rename_i hblank
        rw [hblank, firstValue_of_forall (not_mem_givenValues hfirst)]
      · rw [firstValue_cons, if_pos rfl]
    · have hother : first.1.toList ≠ entry.1.toList := by
        intro heq
        exact hfirst (List.mem_map.mpr ⟨entry, hentry, (String.toList_injective heq).symm⟩)
      split
      · exact ih hkeys hentry
      · rw [firstValue_cons, if_neg hother, ih hkeys hentry]

/-! ## Inputs behind an address -/

theorem filter_isKept_inputText (inputs : Table String) :
    (Fetch.inputText inputs).filter Reference.isKept = Fetch.inputText inputs := by
  refine List.filter_eq_self.mpr fun c hc => ?_
  rcases mem_formText hc with h | rfl | rfl | rfl | rfl
  · by_contra hkept
    simp only [Reference.isKept, bne_iff_ne, Bool.and_eq_true, not_and_or, not_not] at hkept
    rcases hkept with (rfl | rfl) | rfl
    all_goals exact absurd h (by decide)
  all_goals decide

theorem queryPairs_inputText (inputs : Table String) :
    queryPairs (Fetch.inputText inputs) = givenValues inputs :=
  queryPairs_formText (Fetch.given inputs)

/-- Inputs behind an address change its query only, and stand behind the pairs it had. -/
theorem split?_withInputs (hurl : '#' ∉ url) (hsplit : Reference.split? [] url = some r)
    (inputs : Table String) :
    ∃ query, Reference.split? [] (Fetch.withInputs url inputs) = some { r with query := query } ∧
      queryPairs query = queryPairs r.query ++ givenValues inputs := by
  by_cases hinputs : inputs = []
  · subst hinputs
    exact ⟨r.query, hsplit, (List.append_nil _).symm⟩
  by_cases hmark : '?' ∈ url
  · obtain ⟨front, query, rfl, hfront⟩ := List.eq_append_cons_of_mem hmark
    rw [List.mem_append, List.mem_cons, not_or, not_or] at hurl
    obtain ⟨hfragment, -, hquery⟩ := hurl
    have hwhole := Fetch.numberSign_not_mem_query hquery inputs
    have hkept : (query ++ '&' :: Fetch.inputText inputs).filter Reference.isKept =
        query.filter Reference.isKept ++ '&' :: Fetch.inputText inputs := by
      rw [List.filter_append, List.filter_cons_of_pos (by decide), filter_isKept_inputText]
    rw [Reference.split?_query hfront hfragment hquery] at hsplit
    obtain ⟨front', hfront', rfl⟩ := Option.map_eq_some_iff.mp hsplit
    refine ⟨query.filter Reference.isKept ++ '&' :: Fetch.inputText inputs, ?_, ?_⟩
    · rw [Fetch.withInputs_query hinputs, Reference.split?_query hfront hfragment hwhole, hfront',
        hkept]
      rfl
    · rw [queryPairs_append, queryPairs_inputText]
  · refine ⟨Fetch.inputText inputs, ?_, ?_⟩
    · rw [Fetch.withInputs_of_not_mem hinputs hmark, Reference.split?_query hmark hurl
        (Fetch.numberSign_not_mem_inputText inputs), hsplit, filter_isKept_inputText]
      rfl
    · rw [queryPairs_inputText, Reference.query_of_unmarked hmark hurl hsplit]
      rfl

/-- Inputs can be read back from an address they were put behind: each under its key, unless the
address has a value for the key already, which then is the one that is read as before. -/
theorem querying_withInputs (hurl : '#' ∉ url) (hsplit : Reference.split? [] url = some r)
    (hkeys : (inputs.map (·.1)).Nodup) :
    (∀ entry ∈ inputs, (∀ value, (entry.1.toList, value) ∉ queryPairs r.query) →
      apply (querying entry.1) (some (Fetch.withInputs url inputs)) =
        pure (some entry.2.toList)) ∧
    ∀ key : String, (∃ value, (key.toList, value) ∈ queryPairs r.query) →
      apply (querying key) (some (Fetch.withInputs url inputs)) =
        apply (querying key) (some url) := by
  obtain ⟨query, hwith, hpairs⟩ := split?_withInputs hurl hsplit inputs
  constructor
  · intro entry hentry hnew
    rw [apply_querying hwith, hpairs, firstValue_append_of_forall hnew,
      firstValue_givenValues hkeys hentry]
  · intro key hold
    rw [apply_querying hwith, hpairs, firstValue_append_of_mem hold, apply_querying hsplit]

/-- An address with the keys `a` and `b`, the second blank, and inputs that have to be escaped. -/
theorem querying_withInputs_of_search_address :
    let url := "https://x.example/s?a=1&b=".toList
    let inputs : Table String := [("q", "x &=%+é"), ("b", ""), ("a", "2")]
    '#' ∉ url ∧
      Reference.split? [] url =
        some ⟨"https".toList, "x.example".toList, "/s".toList, "a=1&b=".toList, []⟩ ∧
      (inputs.map (·.1)).Nodup ∧
      apply (querying "q") (some (Fetch.withInputs url inputs)) =
        pure (some "x &=%+é".toList) ∧
      apply (querying "b") (some (Fetch.withInputs url inputs)) = pure (some []) ∧
      apply (querying "a") (some (Fetch.withInputs url inputs)) =
        apply (querying "a") (some url) := by
  intro url inputs
  have hurl : '#' ∉ url := by decide +kernel
  have hsplit : Reference.split? [] url =
      some ⟨"https".toList, "x.example".toList, "/s".toList, "a=1&b=".toList, []⟩ := by
    decide +kernel
  have hkeys : (inputs.map (·.1)).Nodup := by decide +kernel
  have hpairs : queryPairs "a=1&b=".toList = [(['a'], ['1'])] := by decide +kernel
  obtain ⟨hnew, hold⟩ := querying_withInputs hurl hsplit hkeys
  refine ⟨hurl, hsplit, hkeys, hnew ("q", "x &=%+é") List.mem_cons_self ?_,
    hnew ("b", "") (List.mem_cons_of_mem _ List.mem_cons_self) ?_, hold "a" ⟨['1'], ?_⟩⟩
  all_goals rw [hpairs]
  · simp
  · simp
  · simp

end TrackerSearch.Filter
