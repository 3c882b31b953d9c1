import TrackerSearch.Definition.Validity
import TrackerSearch.Proofs.Page.Validity

/-!
# Rows stand by themselves

On a site whose selectors can be read and whose fields go through no filters, every row gives its
candidate, or none, whatever stands in the other rows. One kind of value does not follow this: a
network reference whose host cannot be read ends the reading of the whole page
(`parseRows_of_plainSite`). Nothing is said about fields with filters.
-/
namespace TrackerSearch.Page

open Text Html Web

variable {d : Definition} {values : RowValues} {rule : SelectorRule}

/-! ## Sites -/

/-- A text that is a selector. -/
def IsSelector (text : String) : Prop := (Selector.parse text).isOk = true

instance (text : String) : Decidable (IsSelector text) :=
  inferInstanceAs (Decidable (_ = true))

/-- The selectors of a rule, as far as it has any, can be read. -/
structure IsReadable (rule : SelectorRule) : Prop where
  selector : rule.selector ≠ "" → IsSelector rule.selector
  remove : ∀ text ∈ rule.remove, text ≠ "" → IsSelector text

/-- A usable definition of a site of the web whose selectors can be read, without filters. -/
structure IsPlainSite (d : Definition) : Prop where
  usable : d.problem? = none
  web : IsWebLink d.baseLink.toList
  host : (Reference.split? [] d.baseLink.toList).isSome = true
  rows : ∀ search ∈ d.search, IsSelector search.rows.selector
  removed : ∀ search ∈ d.search, ∀ text ∈ search.rows.remove, text ≠ "" → IsSelector text
  fields : ∀ search ∈ d.search, ∀ field ∈ search.fields,
    IsReadable field.2 ∧ field.2.filters = []

/-! ## Reading a row -/

theorem isSelector_iff {text : String} : IsSelector text ↔ ∃ s, Selector.parse text = .ok s := by
  unfold IsSelector
  cases Selector.parse text <;> simp [Except.isOk, Except.toBool]

theorem selectorOf_of_isSelector {text : String} (h : IsSelector text) :
    ∃ s, selectorOf text = .ok s := by
  obtain ⟨s, hs⟩ := isSelector_iff.mp h
  exact ⟨s, by rw [selectorOf, hs]⟩

theorem target?_of_isReadable (h : IsReadable rule) (fragment : Place) :
    ∃ found, target? fragment rule.selector = .ok found := by
  unfold target?
  split
  · exact ⟨_, rfl⟩
  · rename_i hne
    obtain ⟨s, hs⟩ := selectorOf_of_isSelector (h.selector (by simpa using hne))
    rw [hs]
    exact ⟨_, rfl⟩

theorem rawValue?_of_isReadable (h : IsReadable rule) (fragment : Place) :
    ∃ value, rawValue? fragment rule = .ok value := by
  obtain ⟨found, hfound⟩ := target?_of_isReadable h fragment
  unfold rawValue?
  split
  · exact ⟨_, rfl⟩
  · rw [hfound]
    cases found with
    | none => exact ⟨_, rfl⟩
    | some place =>
      cases hr : rule.remove.filter (!·.isEmpty) with
      | none => exact ⟨_, rfl⟩
      | some text =>
        obtain ⟨hmem, hne⟩ := Option.filter_eq_some_iff.mp hr
        obtain ⟨s, hs⟩ := selectorOf_of_isSelector (h.remove text hmem (by simpa using hne))
        dsimp only
        rw [hs]
        exact ⟨_, rfl⟩

/-- A rule without filters reads some text from any fragment. -/
theorem extract_of_isReadable (h : IsReadable rule) (hf : rule.filters = []) (fragment : Place) :
    ∃ value, extract fragment rule = pure (some value) := by
  obtain ⟨raw, hraw⟩ := rawValue?_of_isReadable h fragment
  unfold extract
  rw [hraw, hf]
  cases raw <;> exact ⟨_, rfl⟩

theorem isReadable_fieldRule (h : IsReadable rule) (name : String) :
    IsReadable (fieldRule name rule) := by
  unfold fieldRule linkRule
  split
  · split
    · exact ⟨h.selector, h.remove⟩
    · exact h
  · exact h

theorem filters_fieldRule (name : String) (rule : SelectorRule) :
    (fieldRule name rule).filters = rule.filters := by
  unfold fieldRule linkRule
  split
  · split <;> rfl
  · rfl

/-- The values of a row; there are none where reading one of them fails. -/
def valuesOf (fields : Table SelectorRule) (row : Place) : RowValues :=
  match (extractFields row fields).outcome with
  | .ok values => values
  | .error _ => []

/-- No filter took a value away. -/
def Present (values : RowValues) : Prop := ∀ field ∈ values, field.2.isSome = true

theorem extractFields_of_isReadable {fields : Table SelectorRule}
    (h : ∀ field ∈ fields, IsReadable field.2 ∧ field.2.filters = []) (row : Place) :
    ∃ values, extractFields row fields = pure values ∧ Present values := by
  induction fields with
  | nil => exact ⟨[], rfl, fun _ hm => absurd hm (by simp)⟩
  | cons field fields ih =>
    obtain ⟨name, rule⟩ := field
    obtain ⟨⟨hrule, hfilters⟩, hrest⟩ := List.forall_mem_cons.mp h
    obtain ⟨value, hvalue⟩ := extract_of_isReadable (isReadable_fieldRule hrule name)
      ((filters_fieldRule name rule).trans hfilters) row
    obtain ⟨values, hvalues, hpresent⟩ := ih hrest
    refine ⟨(name, some value) :: values, ?_, ?_⟩
    · rw [extractFields, hvalue, hvalues]
      rfl
    · exact List.forall_mem_cons.mpr ⟨rfl, hpresent⟩

theorem valuesOf_eq {fields : Table SelectorRule} {row : Place}
    (h : extractFields row fields = pure values) : valuesOf fields row = values := by
  rw [valuesOf, h]
  rfl

/-! ## The candidate of a row -/

/-- The text of a field without the blanks around it. -/
def textOf (values : RowValues) (name : String) : List Char :=
  trim ((fieldValue values name).getD [])

/-- A link that the row needs names a host that cannot be read. The details of a row that is no
candidate are not needed. -/
def LosesPage (values : RowValues) : Prop :=
  NamesUnreadableHost (textOf values "download") ∨
    textOf values "title" ≠ [] ∧ textOf values "download" ≠ [] ∧
      NamesUnreadableHost (textOf values "details")

theorem fieldText_of_present (h : Present values) (name : String) :
    fieldText values name = .ok (textOf values name) := by
  have hsome : ∃ v, fieldValue values name = some v := by
    unfold fieldValue
    cases hf : values.find? (·.1 == name) with
    | none => exact ⟨[], rfl⟩
    | some field => exact Option.isSome_iff_exists.mp (h field (List.mem_of_find?_eq_some hf))
  obtain ⟨v, hv⟩ := hsome
  rw [fieldText, textOf, hv]
  rfl

theorem resolved_of_unreadable (hd : IsPlainSite d) {value : List Char}
    (h : NamesUnreadableHost value) :
    resolved d.baseLink.toList value = .error (.fault .badValue) := by
  rw [resolved, (resolveLink?_eq_none_iff hd.host hd.web).mpr h]

/-- Nothing but an empty value stands for an empty link. -/
theorem eq_nil_of_resolveLink? {base value : List Char} (hw : IsWebLink base)
    (h : resolveLink? base value = some []) : value = [] := by
  have hnil : isAbsoluteLink [] = false := by decide
  unfold resolveLink? at h
  split at h
  · exact Option.some.inj h
  · split at h
    · rename_i hn
      have habsolute := Reference.isAbsoluteLink_join? hw hn h
      rw [hnil] at habsolute
      cases habsolute
    · rw [joinUrl_eq] at h
      simp at h

theorem resolved_of_readable (hd : IsPlainSite d) {value : List Char}
    (h : ¬NamesUnreadableHost value) :
    ∃ link, resolved d.baseLink.toList value = .ok link ∧ (link = [] ↔ value = []) := by
  cases hr : resolveLink? d.baseLink.toList value with
  | none => exact absurd ((resolveLink?_eq_none_iff hd.host hd.web).mp hr) h
  | some link =>
    refine ⟨link, resolved_eq_ok.mpr hr, ?_, ?_⟩
    · rintro rfl
      exact eq_nil_of_resolveLink? hd.web hr
    · rintro rfl
      exact (Option.some.inj hr).symm

theorem toCandidate_of_losesPage (hd : IsPlainSite d) (hp : Present values)
    (h : LosesPage values) : toCandidate d values = .error (.fault .badValue) := by
  simp only [toCandidate, fieldText_of_present hp, bind, Except.bind]
  by_cases hdownload : NamesUnreadableHost (textOf values "download")
  · rw [resolved_of_unreadable hd hdownload]
  · obtain ⟨magnet, hmagnet, hempty⟩ := resolved_of_readable hd hdownload
    obtain ⟨htitle, hlink, hdetails⟩ := h.resolve_left hdownload
    have hmagnet_ne : magnet ≠ [] := fun he => hlink (hempty.mp he)
    rw [hmagnet]
    simp [htitle, hmagnet_ne, resolved_of_unreadable hd hdetails]

theorem toCandidate_of_not_losesPage (hd : IsPlainSite d) (hp : Present values)
    (h : ¬LosesPage values) : ∃ found, toCandidate d values = .ok found := by
  obtain ⟨hdownload, hdetails⟩ := not_or.mp h
  obtain ⟨magnet, hmagnet, hempty⟩ := resolved_of_readable hd hdownload
  simp only [toCandidate, fieldText_of_present hp, bind, Except.bind, hmagnet]
  split
  · exact ⟨none, rfl⟩
  · rename_i hne
    simp only [Bool.or_eq_true, List.isEmpty_iff, not_or] at hne
    have hlink : textOf values "download" ≠ [] := fun he => hne.2 (hempty.mpr he)
    obtain ⟨details, hresolved, -⟩ :=
      resolved_of_readable hd fun hu => hdetails ⟨hne.1, hlink, hu⟩
    rw [hresolved]
    exact ⟨_, rfl⟩

/-! ## The rows of a page -/

section Rows

variable {fields : Table SelectorRule} {rows : List Place}

theorem candidatesOf_of_losesPage (hd : IsPlainSite d)
    (hrows : ∀ row ∈ rows, extractFields row fields = pure (valuesOf fields row) ∧
      Present (valuesOf fields row))
    (h : ∃ row ∈ rows, LosesPage (valuesOf fields row)) :
    (candidatesOf d fields rows).outcome = .error (.fault .badValue) := by
  induction rows with
  | nil => simp at h
  | cons row rows ih =>
    obtain ⟨⟨hvalues, hpresent⟩, hrest⟩ := List.forall_mem_cons.mp hrows
    simp only [candidatesOf, hvalues, Traced.pure_bind, Traced.outcome_bind,
      Traced.outcome_ofExcept]
    by_cases hlost : LosesPage (valuesOf fields row)
    · rw [toCandidate_of_losesPage hd hpresent hlost]
      rfl
    · obtain ⟨found, hfound⟩ := toCandidate_of_not_losesPage hd hpresent hlost
      have hmore : ∃ row ∈ rows, LosesPage (valuesOf fields row) := by
        obtain ⟨row', hmem, hlost'⟩ := h
        rcases List.mem_cons.mp hmem with rfl | hmem
        · exact absurd hlost' hlost
        · exact ⟨row', hmem, hlost'⟩
      rw [hfound, Except.bind, ih hrest hmore]
      rfl

theorem candidatesOf_of_not_losesPage (hd : IsPlainSite d)
    (hrows : ∀ row ∈ rows, extractFields row fields = pure (valuesOf fields row) ∧
      Present (valuesOf fields row))
    (h : ∀ row ∈ rows, ¬LosesPage (valuesOf fields row)) :
    ∃ found : List (Option Candidate),
      rows.map (fun row => toCandidate d (valuesOf fields row)) = found.map .ok ∧
      candidatesOf d fields rows = pure (found.filterMap id) := by
  induction rows with
  | nil => exact ⟨[], rfl, rfl⟩
  | cons row rows ih =>
    obtain ⟨⟨hvalues, hpresent⟩, hrest⟩ := List.forall_mem_cons.mp hrows
    obtain ⟨hrow, hmore⟩ := List.forall_mem_cons.mp h
    obtain ⟨found, hfound⟩ := toCandidate_of_not_losesPage hd hpresent hrow
    obtain ⟨more, hmap, hcandidates⟩ := ih hrest hmore
    refine ⟨found :: more, ?_, ?_⟩
    · rw [List.map_cons, List.map_cons, hfound, hmap]
    · rw [candidatesOf, hvalues, Traced.pure_bind, hfound, hcandidates]
      cases found <;> rfl

end Rows

theorem locateRows_of_plainSite (hd : IsPlainSite d) {search : SearchBlock}
    (hs : d.search = some search) (top : Place) : ∃ rows, locateRows top search.rows = .ok rows := by
  have hsome : search ∈ d.search := hs
  obtain ⟨s, hrows⟩ := isSelector_iff.mp (hd.rows search hsome)
  unfold locateRows rowSelectorOf
  simp only [hrows, bind, Except.bind]
  cases hr : search.rows.remove.filter (!·.isEmpty) with
  | none => exact ⟨_, rfl⟩
  | some text =>
    obtain ⟨hmem, hne⟩ := Option.filter_eq_some_iff.mp hr
    obtain ⟨s', hs'⟩ := isSelector_iff.mp (hd.removed search hsome text hmem (by simpa using hne))
    simp only [hs']
    exact ⟨_, rfl⟩

/-- A usable definition says how rows are found. -/
theorem exists_search_of_usable (h : d.problem? = none) :
    ∃ search, d.search = some search ∧ search.rows.selector.isEmpty = false := by
  unfold Definition.problem? at h
  split at h
  · cases h
  · split at h
    · cases h
    · rename_i search hs
      refine ⟨search, hs, ?_⟩
      split at h
      · cases h
      · rename_i hne
        cases he : search.rows.selector.isEmpty with
        | false => rfl
        | true =>
          rw [String.isEmpty_iff] at he
          rw [he] at hne
          exact absurd rfl hne

/-- A page of a plain site is refused exactly if one of its rows needs a network reference whose host
cannot be read. Otherwise no row has to do with another: the candidates are those that the rows give
one by one, in their order. -/
theorem parseRows_of_plainSite (hd : IsPlainSite d) {page : Source} {top : Place}
    (hpage : page.read (some d.encoding) = .ok top) :
    ∃ search rows, d.search = some search ∧ locateRows top search.rows = .ok rows ∧
      (∀ row ∈ rows, (extractFields row search.fields).outcome =
        .ok (valuesOf search.fields row)) ∧
      ((parseRows d page).outcome = .error (.fault .badValue) ↔
        ∃ row ∈ rows, LosesPage (valuesOf search.fields row)) ∧
      ((∀ row ∈ rows, ¬LosesPage (valuesOf search.fields row)) →
        ∃ found : List (Option Candidate),
          rows.map (fun row => toCandidate d (valuesOf search.fields row)) = found.map .ok ∧
          parseRows d page = ⟨.ok (found.filterMap id), [.rowsParsed]⟩) := by
  obtain ⟨search, hs, hne⟩ := exists_search_of_usable hd.usable
  obtain ⟨rows, hrows⟩ := locateRows_of_plainSite hd hs top
  have hvalues : ∀ row, extractFields row search.fields = pure (valuesOf search.fields row) ∧
      Present (valuesOf search.fields row) := by
    intro row
    obtain ⟨values, hv, hp⟩ := extractFields_of_isReadable (hd.fields search hs) row
    rw [valuesOf_eq hv]
    exact ⟨hv, hp⟩
  have hparse : parseRows d page = (do
      let found ← candidatesOf d search.fields rows
      Traced.report .rowsParsed
      return found) := by
    unfold parseRows
    rw [hs, Option.filter_some, hne]
    simp only [Bool.not_false, if_true, hpage, hrows, Traced.ofExcept_ok, Traced.pure_bind]
  have hgood : (∀ row ∈ rows, ¬LosesPage (valuesOf search.fields row)) →
      ∃ found : List (Option Candidate),
        rows.map (fun row => toCandidate d (valuesOf search.fields row)) = found.map .ok ∧
        parseRows d page = ⟨.ok (found.filterMap id), [.rowsParsed]⟩ := by
    intro h
    obtain ⟨found, hmap, hfound⟩ := candidatesOf_of_not_losesPage hd (fun row _ => hvalues row) h
    exact ⟨found, hmap, by rw [hparse, hfound]; rfl⟩
  refine ⟨search, rows, hs, hrows, fun row _ => by rw [(hvalues row).1]; rfl, ⟨?_, ?_⟩, hgood⟩
  · intro h
    refine Classical.byContradiction fun hnone => ?_
    obtain ⟨found, -, hfound⟩ := hgood fun row hm hl => hnone ⟨row, hm, hl⟩
    rw [hfound] at h
    cases h
  · intro h
    rw [hparse, Traced.outcome_bind, candidatesOf_of_losesPage hd (fun row _ => hvalues row) h]
    rfl

def plainSite : Definition where
  id := "plain"
  name := "Plain"
  links := ["https://plain.example/"]
  search := some {
    rows := { selector := "p", remove := some ".ad" }
    fields := [("title", { selector := "a" }), ("download", { selector := "a" }),
      ("seeders", { selector := "i", default := some "7" })] }

theorem plainSite_isPlainSite : IsPlainSite plainSite where
  usable := by decide +kernel
  web := by decide +kernel
  host := by decide +kernel
  rows := by decide +kernel
  removed := by decide +kernel
  fields := by
    rintro search hs
    obtain rfl := Option.some.inj hs
    have hsimple : ∀ (attr default : Option String) (selector : String), IsSelector selector →
        IsReadable { selector, attr, default } :=
      fun _ _ _ h => ⟨fun _ => h, fun _ hm => by cases hm⟩
    simp only [List.forall_mem_cons, and_true, List.not_mem_nil, false_imp_iff, implies_true]
    exact ⟨hsimple _ _ _ (by decide +kernel), hsimple _ _ _ (by decide +kernel),
      hsimple _ _ _ (by decide +kernel)⟩

/-- A count that is none, a link that is none, and a host that can be read. -/
def oddPage : Source :=
  .text "<p><a href=//b.example>A</a><i>1e9</i><p>B<p class=ad><a href=//[>C</a>".toList

theorem parseRows_of_odd_values :
    IsPlainSite plainSite ∧ ∃ top, oddPage.read (some plainSite.encoding) = .ok top ∧
    ∃ search rows, plainSite.search = some search ∧ locateRows top search.rows = .ok rows ∧
      (∀ row ∈ rows, (extractFields row search.fields).outcome =
        .ok (valuesOf search.fields row)) ∧
      ((parseRows plainSite oddPage).outcome = .error (.fault .badValue) ↔
        ∃ row ∈ rows, LosesPage (valuesOf search.fields row)) ∧
      ((∀ row ∈ rows, ¬LosesPage (valuesOf search.fields row)) →
        ∃ found : List (Option Candidate),
          rows.map (fun row => toCandidate plainSite (valuesOf search.fields row)) =
            found.map .ok ∧
          parseRows plainSite oddPage = ⟨.ok (found.filterMap id), [.rowsParsed]⟩) := by
  have hread : ∃ top, oddPage.read (some plainSite.encoding) = .ok top := by
    unfold Source.read
    cases he : Html.ofText? (oddPage.decoded (some plainSite.encoding)) with
    | none =>
      have : (Html.ofText? (oddPage.decoded (some plainSite.encoding))).isSome = true := by
        decide +kernel
      rw [he] at this
      cases this
    | some e => exact ⟨_, rfl⟩
  obtain ⟨top, htop⟩ := hread
  exact ⟨plainSite_isPlainSite, top, htop, parseRows_of_plainSite plainSite_isPlainSite htop⟩

/-- The first of two rows has a link whose host cannot be read. -/
def brokenPage : Source := .text "<p><a href=//[>A</a><p><a href=/b>B</a>".toList

/-- With the link of the first row the second row is lost as well. -/
theorem parseRows_of_broken_host :
    IsPlainSite plainSite ∧
    (parseRows plainSite brokenPage).outcome = .error (.fault .badValue) ∧
    (parseRows plainSite (.text "<p><a href=/b>B</a>".toList)).outcome =
      .ok [{ title := "B", magnet := "https://plain.example/b", indexer := "plain",
             seeders := 7 }] := by
  refine ⟨plainSite_isPlainSite, ?_, ?_⟩ <;> decide +kernel

end TrackerSearch.Page
