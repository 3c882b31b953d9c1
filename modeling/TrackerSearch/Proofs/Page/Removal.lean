import TrackerSearch.Proofs.Html.Removal
import TrackerSearch.Proofs.Page.Details
import TrackerSearch.Proofs.Page.Skipping

/-!
# Children that a rule removes

A rule that removes children reads the text of a copy from which they are gone: the pieces of text
that its element shows and that lie in none of them (`rawValue?_of_removes`). Its attributes are
those of the element itself. The page stays as it is, so that every rule is read off every row as if
there were no others (`parseRows_removing`).
-/
namespace TrackerSearch.Page

open Text Html

variable {e : Element} {s : Selector} {q p fragment row : Place} {rule : SelectorRule}
  {d : Definition} {search : SearchBlock} {page : Source} {top : Place} {rows : List Place}

/-! ## One element -/

/-- The elements in a copy of an element that a selector describes. -/
def removedFrom (e : Element) (s : Selector) : List Place := (Place.mk e []).select s

theorem mem_descendants_of_mem_removedFrom (hq : q ∈ removedFrom e s) :
    q ∈ (Place.mk e []).descendants := (List.mem_filter.mp hq).1

theorem path_ne_nil_of_mem_removedFrom (hq : q ∈ removedFrom e s) : q.path ≠ [] := by
  have hbelow := mem_descendants_of_mem_removedFrom hq
  obtain ⟨i, -, rest, hpath⟩ := Node.path_of_mem_placesIn e [] 0 e.children q hbelow
  rw [hpath]
  exact List.append_ne_nil_of_right_ne_nil _ (List.cons_ne_nil i rest)

/-- The removed elements are destroyed one after the other. -/
theorem without_eq_destroyEach (e : Element) (s : Selector) :
    without e s = e.destroyEach ((removedFrom e s).map (·.path)) :=
  (e.destroyEach_eq_prune _).symm

theorem text_without (e : Element) (s : Selector) :
    (without e s).text = e.textOutside (removedFrom e s) :=
  e.text_prune fun _ hq => path_ne_nil_of_mem_removedFrom hq

/-! ## One rule -/

/-- A rule reads the element at a place, without the children that a selector describes. -/
structure Removes (fragment : Place) (rule : SelectorRule) (p : Place) (s : Selector) : Prop where
  removed : ∃ text, rule.remove = some text ∧ Selector.parse text = .ok s
  found : target? fragment rule.selector = .ok (some p)
  /-- It is no rule for a constant text. -/
  not_given : rule.selector = "" → rule.text = none

theorem filter_remove_of_parse {text : String} (h : Selector.parse text = .ok s) :
    (some text).filter (!·.isEmpty) = some text := by
  have hrows : RowCondition text none s := .all rfl h
  rw [Option.filter_some, selector_isEmpty_of_rowCondition hrows]
  rfl

theorem selectorOf_of_parse {text : String} (h : Selector.parse text = .ok s) :
    selectorOf text = .ok s := by
  rw [selectorOf, h]

/-- The element that a rule reads, given the one that it has found. -/
def keptOf (rule : SelectorRule) (e : Element) : Except Failure Element :=
  (rule.remove.filter (!·.isEmpty)).elim (.ok e) fun text => (selectorOf text).map (without e)

theorem rawValue?_of_given (rule : SelectorRule) {text : String} (hempty : rule.selector = "")
    (h : rule.text = some text) (fragment : Place) :
    rawValue? fragment rule = .ok (some text.toList) := by
  unfold rawValue?
  rw [hempty, h]
  rfl

theorem rawValue?_of_not_given (rule : SelectorRule) (h : rule.selector = "" → rule.text = none)
    (fragment : Place) : rawValue? fragment rule = (target? fragment rule.selector).bind fun found =>
      found.elim (.ok none) fun p => (keptOf rule p.here).map (readValue? · rule.attr) := by
  unfold rawValue?
  split
  · rename_i hempty htext
    rw [h (String.isEmpty_iff.mp hempty)] at htext
    cases htext
  · cases target? fragment rule.selector with
    | error failure => rfl
    | ok found =>
      cases found with
      | none => rfl
      | some p =>
        unfold keptOf
        cases rule.remove.filter (!·.isEmpty) with
        | none => rfl
        | some text =>
          simp only [bind, Except.bind, Option.elim]
          cases selectorOf text <;> rfl

theorem rawValue?_of_removes (h : Removes fragment rule p s) :
    rawValue? fragment rule = .ok (readValue? (without p.here s) rule.attr) := by
  obtain ⟨text, hremove, hs⟩ := h.removed
  have hkept : keptOf rule p.here = .ok (without p.here s) := by
    rw [keptOf, hremove, filter_remove_of_parse hs, Option.elim_some, selectorOf_of_parse hs]
    rfl
  rw [rawValue?_of_not_given rule h.not_given, h.found, Except.bind, Option.elim_some, hkept]
  rfl

/-- The attributes of an element are not removed. -/
theorem rawValue?_attr {name : String} (hattr : rule.attr = some name)
    (hremove : ∀ text ∈ rule.remove, IsSelector text) (fragment : Place) :
    rawValue? fragment { rule with remove := none } = rawValue? fragment rule := by
  by_cases hgiven : rule.selector = "" → rule.text = none
  · have hkept (e : Element) : ∃ e', keptOf rule e = .ok e' ∧
        readValue? e' rule.attr = readValue? e rule.attr := by
      unfold keptOf
      cases hdoomed : rule.remove.filter (!·.isEmpty) with
      | none => exact ⟨e, rfl, rfl⟩
      | some text =>
        have hmem := (Option.filter_eq_some_iff.mp hdoomed).1
        obtain ⟨s, hs⟩ := isSelector_iff.mp (hremove text hmem)
        refine ⟨without e s, ?_, ?_⟩
        · rw [Option.elim_some, selectorOf_of_parse hs]
          rfl
        · rw [hattr]
          rfl
    have hread (e : Element) : (keptOf rule e).map (readValue? · rule.attr) =
        .ok (readValue? e rule.attr) := by
      obtain ⟨e', he, hvalue⟩ := hkept e
      rw [he, ← hvalue]
      rfl
    rw [rawValue?_of_not_given { rule with remove := none } hgiven,
      rawValue?_of_not_given rule hgiven]
    simp only [hread]
    rfl
  · rw [Classical.not_imp, ← Ne, Option.ne_none_iff_exists'] at hgiven
    obtain ⟨hempty, text, htext⟩ := hgiven
    rw [rawValue?_of_given { rule with remove := none } hempty htext,
      rawValue?_of_given rule hempty htext]

theorem extract_attr {name : String} (hattr : rule.attr = some name)
    (hremove : ∀ text ∈ rule.remove, IsSelector text) (fragment : Place) :
    extract fragment { rule with remove := none } = extract fragment rule := by
  unfold extract
  rw [rawValue?_attr hattr hremove fragment]

/-! ## Many rules -/

/-- The value of one field of a row. -/
def readField (row : Place) (field : String × SelectorRule) :
    Except Failure (String × Option (List Char)) :=
  (extract row (fieldRule field.1 field.2)).outcome.map (Prod.mk field.1)

/-- Every rule is read off the row itself, whatever the rules before it remove. -/
theorem outcome_extractFields (row : Place) (fields : Table SelectorRule) :
    (extractFields row fields).outcome = fields.mapM (readField row) := by
  induction fields with
  | nil => rfl
  | cons field fields ih =>
    obtain ⟨name, rule⟩ := field
    rw [List.mapM_cons, ← ih, extractFields, Traced.outcome_bind, readField]
    cases (extract row (fieldRule name rule)).outcome with
    | error failure => rfl
    | ok value =>
      rw [Except.bind, Traced.outcome_bind]
      cases (extractFields row fields).outcome <;> rfl

theorem outcome_candidatesOf (d : Definition) (fields : Table SelectorRule) (rows : List Place) :
    (candidatesOf d fields rows).outcome =
      (rows.mapM (candidateOf d fields)).map (·.filterMap id) := by
  induction rows with
  | nil => rfl
  | cons row rows ih =>
    rw [List.mapM_cons, candidatesOf, Traced.outcome_bind, candidateOf]
    cases (extractFields row fields).outcome with
    | error failure => rfl
    | ok values =>
      rw [Except.bind, Except.bind, Traced.outcome_bind, Traced.outcome_ofExcept]
      cases toCandidate d values with
      | error failure => rfl
      | ok found =>
        rw [Except.bind, Traced.outcome_bind, ih]
        cases rows.mapM (candidateOf d fields) <;> cases found <;> rfl

/-- A page is read row by row and rule by rule, with every row as it stands on the page. -/
theorem outcome_parseRows (hsearch : d.search = some search)
    (htop : page.read (some d.encoding) = .ok top) (hrows : locateRows top search.rows = .ok rows) :
    (parseRows d page).outcome = (rows.mapM fun row =>
      (search.fields.mapM (readField row)).bind (toCandidate d)).map (·.filterMap id) := by
  obtain ⟨s, hcondition, -⟩ := locateRows_eq_ok.mp hrows
  have hne := selector_isEmpty_of_rowCondition hcondition
  have hrow : (fun row => (search.fields.mapM (readField row)).bind (toCandidate d)) =
      candidateOf d search.fields := by
    funext row
    rw [candidateOf, outcome_extractFields]
  unfold parseRows
  simp only [hsearch, Option.filter_some, hne, Bool.not_false, if_true, htop, hrows,
    Traced.ofExcept_ok, Traced.pure_bind]
  rw [Traced.outcome_bind, outcome_candidatesOf, hrow]
  cases rows.mapM (candidateOf d search.fields) <;> rfl

/-- **Children are removed exactly.** A rule with a selector of children to remove reads the text
pieces that its element shows and that lie in none of the selected elements, in document order and
without the blanks around them. The selected elements are those of a copy, destroyed one after the
other, however they are nested. The value of an attribute is the same with and without the removal.
Whatever rules come before, a rule is read off the row as it stands on the page, and so is one for
the link on a page of details. -/
theorem extract_of_removes (h : Removes fragment rule p s) :
    without p.here s = p.here.destroyEach ((removedFrom p.here s).map (·.path)) ∧
    (∀ q ∈ removedFrom p.here s, p.here.pieces.filter (q.surrounds ·.1) =
      q.here.pieces.map fun x => (q.path ++ x.1, x.2)) ∧
    rawValue? fragment { rule with attr := none } =
      .ok (some (trim (p.here.textOutside (removedFrom p.here s)).toList)) ∧
    (∀ name, extract fragment { rule with attr := some name, remove := none } =
      extract fragment { rule with attr := some name }) ∧
    (∀ d search page top rows, d.search = some search → page.read (some d.encoding) = .ok top →
      locateRows top search.rows = .ok rows →
      (parseRows d page).outcome = (rows.mapM fun row =>
        (search.fields.mapM (readField row)).bind (toCandidate d)).map (·.filterMap id)) ∧
    ∀ base rules page link, (parseDetails base rules page).outcome = .ok link ↔
      ∃ top value, page.read none = .ok top ∧ FirstRead top rules value ∧
        Web.resolveLink? base value = some link := by
  refine ⟨without_eq_destroyEach _ _, fun q hq => ?_, ?_, fun name => ?_, ?_, ?_⟩
  · exact p.here.filter_surrounds (mem_descendants_of_mem_removedFrom hq)
  · have hplain : Removes fragment { rule with attr := none } p s :=
      ⟨h.removed, h.found, h.not_given⟩
    rw [rawValue?_of_removes hplain, readValue?, text_without]
  · obtain ⟨text, hremove, hs⟩ := h.removed
    have hnamed : ({ rule with attr := some name } : SelectorRule).attr = some name := rfl
    refine extract_attr hnamed (fun text' htext' => ?_) fragment
    obtain rfl := Option.some.inj (hremove.symm.trans htext')
    exact isSelector_iff.mpr ⟨s, hs⟩
  · exact fun d search page top rows hsearch htop hrows => outcome_parseRows hsearch htop hrows
  · exact fun base rules page link => parseDetails_eq_ok

/-! ## A title with removed children in each other -/

def nestedRule : SelectorRule where
  selector := "a"
  remove := some "b, i"

def nestedRow : Place where
  here := {
    tag := "p"
    children := [.element "a" [("href", .single "/1")] [.text .plain "A ",
      .element "b" [] [.text .plain "x", .element "i" [] [.text .plain "y"]], .text .comment "?",
      .text .plain "B", .element "i" [] [.text .plain "z"]]] }

def nestedSite : Definition where
  id := "nested"
  name := "Nested"
  links := ["https://nested.example/"]
  search := some {
    rows := { selector := "p" }
    fields := [("title", nestedRule), ("download", nestedRule), ("size", { selector := "b" })] }

def nestedPage : Source :=
  .text "<p><a href=/1>A <b>x<i>y</i></b><!--?-->B<i>z</i></a><p><a href=/2><i>C</i>D</a>".toList

def nested (title link : String) (size : Option String) : Candidate where
  title := title
  magnet := link
  indexer := "nested"
  size := size

/-- The `i` in the `b` is gone with it; the rule for the size still reads both of them. -/
theorem extract_of_removes_of_nested :
    (∃ p s, Removes nestedRow nestedRule p s ∧
      trim (p.here.textOutside (removedFrom p.here s)).toList = "A B".toList ∧
      ∀ name, extract nestedRow { nestedRule with attr := some name, remove := none } =
        extract nestedRow { nestedRule with attr := some name }) ∧
    (parseRows nestedSite nestedPage).outcome =
      .ok [nested "A B" "https://nested.example/1" (some "xy"),
        nested "D" "https://nested.example/2" none] := by
  have hfound : ((target? nestedRow nestedRule.selector).toOption.bind id).isSome = true := by
    decide +kernel
  have hselector : IsSelector "b, i" := by decide +kernel
  have hvalue : rawValue? nestedRow { nestedRule with attr := none } =
      .ok (some "A B".toList) := by
    decide +kernel
  obtain ⟨p, hp⟩ := Option.isSome_iff_exists.mp hfound
  obtain ⟨s, hs⟩ := isSelector_iff.mp hselector
  have htarget : target? nestedRow nestedRule.selector = .ok (some p) := by
    cases htarget : target? nestedRow nestedRule.selector with
    | error failure =>
      rw [htarget] at hp
      cases hp
    | ok found =>
      rw [htarget] at hp
      exact congrArg Except.ok hp
  have hremoves : Removes nestedRow nestedRule p s :=
    ⟨⟨"b, i", rfl, hs⟩, htarget, fun h => absurd h (by decide)⟩
  obtain ⟨-, -, htext, hattr, -⟩ := extract_of_removes hremoves
  refine ⟨⟨p, s, hremoves, ?_, hattr⟩, by decide +kernel⟩
  exact Option.some.inj (Except.ok.inj (htext.symm.trans hvalue))

end TrackerSearch.Page
