import TrackerSearch.Proofs.Html.Order
import TrackerSearch.Proofs.Page.Isolation

/-!
# Rows that are removed and rows that are skipped

The rows of a page are the elements that one condition describes, in document order: the selector of
the rows, and not that of the removed ones. The first of them are skipped, and every other one gives
its own candidate or none. So a rule that removes or skips more only drops candidates
(`parseRows_skipping`). Nothing is said about selectors that cannot be read.
-/
namespace TrackerSearch.Page

open Text Html

variable {d : Definition} {search : SearchBlock} {page : Source} {top : Place}
  {rows rows' : List Place} {rule : RowRule} {s : Selector} {cs cs' : List Candidate}
  {selector : String} {remove : Option String} {after : Int}

/-! ## The rows of a page -/

/-- The condition on the rows that are not removed, given the selectors of the rows and of the
removed ones. -/
inductive RowCondition (selector : String) (remove : Option String) : Selector → Prop
  | all {s : Selector} (hnone : remove.filter (!·.isEmpty) = none)
      (hs : Selector.parse selector = .ok s) : RowCondition selector remove s
  | remaining {s r : Selector} {text : String} (hsome : remove.filter (!·.isEmpty) = some text)
      (hs : Selector.parse selector = .ok s) (hr : Selector.parse text = .ok r) :
      RowCondition selector remove (.both s (.not r))

/-- An element is told from the others of a page by its path, so that discarding paths discards just
the elements. -/
theorem filter_path_not_mem (top : Place) (s r : Selector) :
    ((top.select s).filter fun row => !((top.select r).map (·.path)).contains row.path) =
      top.select (.both s (.not r)) := by
  unfold Place.select
  rw [List.filter_filter]
  refine List.filter_congr fun row hrow => ?_
  have hremoved :
      ((top.descendants.filter (r.holds top.scopePath)).map (·.path)).contains row.path =
        r.holds top.scopePath row := by
    rw [Bool.eq_iff_iff, List.contains_iff_mem, List.mem_map]
    constructor
    · rintro ⟨q, hq, hpath⟩
      obtain ⟨hq, hholds⟩ := List.mem_filter.mp hq
      exact Place.eq_of_path_eq hq hrow hpath ▸ hholds
    · exact fun hholds => ⟨row, List.mem_filter.mpr ⟨hrow, hholds⟩, rfl⟩
  rw [hremoved, Bool.and_comm]
  rfl

theorem rowSelectorOf_eq_ok {text : String} :
    rowSelectorOf rule text = .ok s ↔ Selector.parse text = .ok s := by
  unfold rowSelectorOf
  cases Selector.parse text with
  | ok s' => simp
  | error e => cases e <;> simp

/-- Rows are removed wherever they stand, and then the first ones are skipped. -/
theorem locateRows_eq_ok :
    locateRows top rule = .ok rows ↔
      ∃ s, RowCondition rule.selector rule.remove s ∧
        (top.select s).drop rule.after.toNat = rows := by
  unfold locateRows
  cases hremove : rule.remove.filter (!·.isEmpty) with
  | none =>
    simp only [except_bind_eq_ok, rowSelectorOf_eq_ok, pure, Except.pure, Except.ok.injEq,
      exists_eq_left', List.contains_nil, Bool.not_false, List.filter_true]
    constructor
    · rintro ⟨s, hs, hrows⟩
      exact ⟨s, .all hremove hs, hrows⟩
    · rintro ⟨s, ⟨-, hs⟩ | ⟨hsome, -, -⟩, hrows⟩
      · exact ⟨s, hs, hrows⟩
      · rw [hremove] at hsome
        cases hsome
  | some text =>
    simp only [except_bind_eq_ok, rowSelectorOf_eq_ok, pure, Except.pure, Except.ok.injEq,
      exists_eq_left', filter_path_not_mem]
    constructor
    · rintro ⟨s, hs, r, hr, hrows⟩
      exact ⟨_, .remaining hremove hs hr, hrows⟩
    · rintro ⟨_, ⟨hnone, -⟩ | ⟨hsome, hs, hr⟩, hrows⟩
      · rw [hremove] at hnone
        cases hnone
      · rw [hremove] at hsome
        obtain rfl := Option.some.inj hsome
        exact ⟨_, hs, _, hr, hrows⟩

theorem exists_selector_of_rowCondition (h : RowCondition selector remove s) :
    ∃ s, Selector.parse selector = .ok s := by
  cases h with
  | all _ hs => exact ⟨_, hs⟩
  | remaining _ hs _ => exact ⟨_, hs⟩

/-- There are no rows without a selector. -/
theorem selector_isEmpty_of_rowCondition (h : RowCondition selector remove s) :
    selector.isEmpty = false := by
  obtain ⟨s, hs⟩ := exists_selector_of_rowCondition h
  have hempty : (Selector.parse "").isOk = false := by decide +kernel
  rw [Bool.eq_false_iff]
  intro he
  rw [String.isEmpty_iff.mp he] at hs
  rw [hs] at hempty
  cases hempty

/-- What is left of the rows is a part of them, in the same order. -/
theorem select_sublist_of_rowCondition {s' : Selector} (h : RowCondition selector remove s)
    (hs' : Selector.parse selector = .ok s') (top : Place) :
    (top.select s).Sublist (top.select s') := by
  cases h with
  | all _ hs =>
    rw [hs] at hs'
    obtain rfl := Except.ok.inj hs'
    exact List.Sublist.refl _
  | remaining _ hs _ =>
    rw [hs] at hs'
    obtain rfl := Except.ok.inj hs'
    refine List.monotone_filter_right top.descendants fun row hrow => ?_
    exact (Bool.and_eq_true_iff.mp hrow).1

/-! ## What rows give -/

/-- The candidate of one row, if it is one. -/
def candidateOf (d : Definition) (fields : Table SelectorRule) (row : Place) :
    Except Failure (Option Candidate) :=
  (extractFields row fields).outcome.bind (toCandidate d)

/-- Every row gives its candidate or none by itself, and these are the candidates in order. -/
def RowsGive (d : Definition) (rows : List Place) (cs : List Candidate) : Prop :=
  ∃ search, d.search = some search ∧ ∃ found : List (Option Candidate),
    rows.map (candidateOf d search.fields) = found.map .ok ∧ cs = found.filterMap id

theorem candidatesOf_eq_ok {fields : Table SelectorRule} :
    (candidatesOf d fields rows).outcome = .ok cs ↔ ∃ found : List (Option Candidate),
      rows.map (candidateOf d fields) = found.map .ok ∧ cs = found.filterMap id := by
  induction rows generalizing cs with
  | nil =>
    simp only [candidatesOf, Traced.outcome_pure, Except.ok.injEq, List.map_nil,
      List.nil_eq, List.map_eq_nil_iff, exists_eq_left, List.filterMap_nil]
  | cons row rows ih =>
    have hrow (found : Option Candidate) : candidateOf d fields row = .ok found ↔
        ∃ values, (extractFields row fields).outcome = .ok values ∧
          toCandidate d values = .ok found := except_bind_eq_ok
    simp only [candidatesOf, Traced.outcome_bind_eq_ok, Traced.outcome_ofExcept,
      Traced.outcome_pure, Except.ok.injEq, List.map_cons]
    constructor
    · rintro ⟨values, hvalues, found, hfound, more, hmore, rfl⟩
      obtain ⟨others, hothers, rfl⟩ := ih.mp hmore
      refine ⟨found :: others, ?_, ?_⟩
      · rw [(hrow found).mpr ⟨values, hvalues, hfound⟩, hothers, List.map_cons]
      · cases found <;> rfl
    · rintro ⟨found, hfound, rfl⟩
      obtain ⟨first, others, rfl, hfirst, hothers⟩ := List.map_eq_cons_iff.mp hfound.symm
      obtain ⟨values, hvalues, hcandidate⟩ := (hrow first).mp hfirst.symm
      refine ⟨values, hvalues, first, hcandidate, _, ih.mpr ⟨others, hothers.symm, rfl⟩, ?_⟩
      cases first <;> rfl

/-- Fewer rows give fewer candidates. -/
theorem RowsGive.of_sublist (h : RowsGive d rows cs) (hrows : rows'.Sublist rows) :
    ∃ cs', RowsGive d rows' cs' ∧ cs'.Sublist cs := by
  obtain ⟨search, hs, found, hfound, rfl⟩ := h
  have hmap := hrows.map (candidateOf d search.fields)
  rw [hfound] at hmap
  obtain ⟨found', hsub, hfound'⟩ := List.sublist_map_iff.mp hmap
  exact ⟨_, ⟨search, hs, found', hfound', rfl⟩, hsub.filterMap id⟩

/-- The last rows give the last candidates, and a row that is missing at the start costs one of them
at most. -/
theorem RowsGive.drop (h : RowsGive d rows cs) (n : Nat) :
    ∃ cs', RowsGive d (rows.drop n) cs' ∧ cs' <:+ cs ∧ cs.length ≤ cs'.length + n := by
  obtain ⟨search, hs, found, hfound, rfl⟩ := h
  refine ⟨(found.drop n).filterMap id, ⟨search, hs, found.drop n, ?_, rfl⟩,
    (List.drop_suffix n found).filterMap id, ?_⟩
  · rw [List.map_drop, hfound, List.map_drop]
  · have hskipped : ((found.take n).filterMap id).length ≤ n :=
      (List.length_filterMap_le _ _).trans (List.length_take_le n found)
    have hsplit : found.filterMap id =
        (found.take n).filterMap id ++ (found.drop n).filterMap id := by
      rw [← List.filterMap_append, List.take_append_drop]
    rw [hsplit, List.length_append]
    omega

theorem RowsGive.eq_nil (h : RowsGive d [] cs) : cs = [] := by
  obtain ⟨search, -, found, hfound, rfl⟩ := h
  obtain rfl := List.map_eq_nil_iff.mp hfound.symm
  rfl

theorem RowsGive.unique (h : RowsGive d rows cs) (h' : RowsGive d rows cs') : cs' = cs := by
  obtain ⟨search, hs, found, hfound, rfl⟩ := h
  obtain ⟨search', hs', found', hfound', rfl⟩ := h'
  rw [hs] at hs'
  obtain rfl := Option.some.inj hs'
  have heq : found'.map Except.ok = found.map Except.ok := hfound'.symm.trans hfound
  rw [List.map_injective_iff.mpr (fun _ _ => Except.ok.inj) heq]

/-! ## Whole pages -/

/-- A definition that removes and skips other rows. -/
def withRows (d : Definition) (remove : Option String) (after : Int) : Definition :=
  { d with search := d.search.map fun search =>
      { search with rows := { search.rows with remove, after } } }

/-- The rows that are left on a page when the removed ones are discarded, before any is skipped. -/
def IsLeft (d : Definition) (page : Source) (remove : Option String) (kept : List Place) : Prop :=
  ∃ search top s, d.search = some search ∧ page.read (some d.encoding) = .ok top ∧
    RowCondition search.rows.selector remove s ∧ kept = top.select s

theorem IsLeft.inOrder {kept : List Place} (h : IsLeft d page remove kept) :
    kept.Pairwise fun row row' => row.path < row'.path := by
  obtain ⟨search, top, s, -, -, -, rfl⟩ := h
  exact top.pairwise_descendants.filter _

/-- What is left is a part of all rows. -/
theorem IsLeft.sublist {kept all : List Place} (h : IsLeft d page remove kept)
    (hall : IsLeft d page none all) : kept.Sublist all := by
  obtain ⟨search, top, s, hs, htop, hcondition, rfl⟩ := h
  obtain ⟨search', top', s', hs', htop', hcondition', rfl⟩ := hall
  rw [hs] at hs'
  obtain rfl := Option.some.inj hs'
  rw [htop] at htop'
  obtain rfl := Except.ok.inj htop'
  cases hcondition' with
  | all _ hs => exact select_sublist_of_rowCondition hcondition hs top
  | remaining hsome => cases hsome

theorem IsLeft.exists_isLeft {all : List Place} (h : IsLeft d page none all)
    (hremove : ∀ text ∈ remove, text ≠ "" → IsSelector text) :
    ∃ kept, IsLeft d page remove kept := by
  obtain ⟨search, top, s, hs, htop, hcondition, rfl⟩ := h
  obtain ⟨s', hs'⟩ := exists_selector_of_rowCondition hcondition
  cases hsome : remove.filter (!·.isEmpty) with
  | none => exact ⟨_, search, top, s', hs, htop, .all hsome hs', rfl⟩
  | some text =>
    obtain ⟨hmem, hne⟩ := Option.filter_eq_some_iff.mp hsome
    obtain ⟨r, hr⟩ := isSelector_iff.mp (hremove text hmem (by simpa using hne))
    exact ⟨_, search, top, _, hs, htop, .remaining hsome hs' hr, rfl⟩

theorem parseRows_withRows_eq_ok :
    (parseRows (withRows d remove after) page).outcome = .ok cs ↔
      ∃ kept, IsLeft d page remove kept ∧ RowsGive d (kept.drop after.toNat) cs := by
  constructor
  · intro h
    obtain ⟨search', top, rows, hs, htop, hrows, hcs⟩ := exists_rows_of_parseRows h
    obtain ⟨search, hsearch, rfl⟩ := Option.map_eq_some_iff.mp hs
    obtain ⟨s, hcondition, rfl⟩ := locateRows_eq_ok.mp hrows
    have hfound := candidatesOf_eq_ok.mp hcs
    exact ⟨_, ⟨search, top, s, hsearch, htop, hcondition, rfl⟩, search, hsearch, hfound⟩
  · rintro ⟨_, ⟨search, top, s, hs, htop, hcondition, rfl⟩, search', hs', hgives⟩
    rw [hs] at hs'
    obtain rfl := Option.some.inj hs'
    have hne := selector_isEmpty_of_rowCondition hcondition
    have hsearch : (withRows d remove after).search =
        some { search with rows := { search.rows with remove, after } } := by
      rw [withRows, hs]
      rfl
    have htop' : page.read (some (withRows d remove after).encoding) = .ok top := htop
    have hrows : locateRows top { search.rows with remove, after } = .ok _ :=
      locateRows_eq_ok.mpr ⟨s, hcondition, rfl⟩
    have hcs : (candidatesOf (withRows d remove after) search.fields _).outcome = .ok cs :=
      candidatesOf_eq_ok.mpr hgives
    unfold parseRows
    simp only [hsearch, Option.filter_some, hne, Bool.not_false, if_true, htop', hrows,
      Traced.ofExcept_ok, Traced.pure_bind, Traced.outcome_bind_eq_ok, Traced.outcome_pure]
    exact ⟨cs, hcs, (), rfl, rfl⟩

/-- **Rules for rows only ever drop rows.** The rows of a page are those which are not removed,
wherever these stand, in document order and each once, less the first ones. To skip rows leaves the
last candidates and costs no more of them than there are rows skipped; to remove rows leaves some of
the candidates in the same order. Neither makes the reading of a page fail, unless the selector of
the removed rows cannot be read. -/
theorem parseRows_skipping (d : Definition) (page : Source) (remove : Option String) (after : Int) :
    (∀ cs, (parseRows (withRows d remove after) page).outcome = .ok cs →
      ∃ kept, IsLeft d page remove kept ∧ kept.Pairwise (fun row row' => row.path < row'.path) ∧
        RowsGive d (kept.drop after.toNat) cs ∧ (kept.length ≤ after.toNat → cs = [])) ∧
    (∀ cs, (parseRows (withRows d remove 0) page).outcome = .ok cs →
      ∃ cs', (parseRows (withRows d remove after) page).outcome = .ok cs' ∧ cs' <:+ cs ∧
        cs.length ≤ cs'.length + after.toNat) ∧
    ∀ cs, (parseRows (withRows d none 0) page).outcome = .ok cs →
      (∀ cs', (parseRows (withRows d remove 0) page).outcome = .ok cs' → cs'.Sublist cs) ∧
      ((∀ text ∈ remove, text ≠ "" → IsSelector text) →
        ∃ cs', (parseRows (withRows d remove 0) page).outcome = .ok cs') := by
  refine ⟨fun cs h => ?_, fun cs h => ?_, fun cs h => ⟨fun cs' h' => ?_, fun hremove => ?_⟩⟩
  · obtain ⟨kept, hkept, hgives⟩ := parseRows_withRows_eq_ok.mp h
    refine ⟨kept, hkept, hkept.inOrder, hgives, fun hlength => ?_⟩
    rw [List.drop_eq_nil_of_le hlength] at hgives
    exact hgives.eq_nil
  · obtain ⟨kept, hkept, hgives⟩ := parseRows_withRows_eq_ok.mp h
    obtain ⟨cs', hgives', hsuffix, hlength⟩ := hgives.drop after.toNat
    exact ⟨cs', parseRows_withRows_eq_ok.mpr ⟨kept, hkept, hgives'⟩, hsuffix, hlength⟩
  · obtain ⟨all, hall, hgives⟩ := parseRows_withRows_eq_ok.mp h
    obtain ⟨kept, hkept, hgives'⟩ := parseRows_withRows_eq_ok.mp h'
    obtain ⟨cs'', hgives'', hsub⟩ := hgives.of_sublist (hkept.sublist hall)
    exact hgives''.unique hgives' ▸ hsub
  · obtain ⟨all, hall, hgives⟩ := parseRows_withRows_eq_ok.mp h
    obtain ⟨kept, hkept⟩ := hall.exists_isLeft hremove
    obtain ⟨cs', hgives', -⟩ := hgives.of_sublist (hkept.sublist hall)
    exact ⟨cs', parseRows_withRows_eq_ok.mpr ⟨kept, hkept, hgives'⟩⟩

/-! ## A page with removed and skipped rows -/

def bannerSite : Definition where
  id := "banner"
  name := "Banner"
  links := ["https://banner.example/"]
  search := some {
    rows := { selector := "p" }
    fields := [("title", { selector := "a" }), ("download", { selector := "a" })] }

/-- The first row is to be removed, the third one has no title. -/
def bannerPage : Source :=
  .text ("<p class=ad><a href=/ad>Ad</a><p><a href=/1>A</a><p>none" ++
    "<p><a href=/2>B</a><p><a href=/3>C</a>").toList

def banner (title link : String) : Candidate where
  title := title
  magnet := link
  indexer := "banner"

/-- The removed row is not among those that are skipped, and the row without a title is. -/
theorem parseRows_skipping_of_bannerPage :
    (parseRows (withRows bannerSite none 0) bannerPage).outcome =
      .ok [banner "Ad" "https://banner.example/ad", banner "A" "https://banner.example/1",
        banner "B" "https://banner.example/2", banner "C" "https://banner.example/3"] ∧
    (parseRows (withRows bannerSite (some ".ad") 0) bannerPage).outcome =
      .ok [banner "A" "https://banner.example/1", banner "B" "https://banner.example/2",
        banner "C" "https://banner.example/3"] ∧
    (parseRows (withRows bannerSite (some ".ad") 3) bannerPage).outcome =
      .ok [banner "C" "https://banner.example/3"] ∧
    [banner "A" "https://banner.example/1", banner "B" "https://banner.example/2",
        banner "C" "https://banner.example/3"].Sublist
      [banner "Ad" "https://banner.example/ad", banner "A" "https://banner.example/1",
        banner "B" "https://banner.example/2", banner "C" "https://banner.example/3"] ∧
    [banner "C" "https://banner.example/3"] <:+
      [banner "A" "https://banner.example/1", banner "B" "https://banner.example/2",
        banner "C" "https://banner.example/3"] := by
  have hall : (parseRows (withRows bannerSite none 0) bannerPage).outcome =
      .ok [banner "Ad" "https://banner.example/ad", banner "A" "https://banner.example/1",
        banner "B" "https://banner.example/2", banner "C" "https://banner.example/3"] := by
    decide +kernel
  have hleft : (parseRows (withRows bannerSite (some ".ad") 0) bannerPage).outcome =
      .ok [banner "A" "https://banner.example/1", banner "B" "https://banner.example/2",
        banner "C" "https://banner.example/3"] := by
    decide +kernel
  have hlast : (parseRows (withRows bannerSite (some ".ad") 3) bannerPage).outcome =
      .ok [banner "C" "https://banner.example/3"] := by
    decide +kernel
  obtain ⟨-, hskipped, hremoved⟩ := parseRows_skipping bannerSite bannerPage (some ".ad") 3
  obtain ⟨cs, hcs, hsuffix, -⟩ := hskipped _ hleft
  obtain rfl := Except.ok.inj (hcs.symm.trans hlast)
  exact ⟨hall, hleft, hlast, (hremoved _ hall).1 _ hleft, hsuffix⟩

end TrackerSearch.Page
