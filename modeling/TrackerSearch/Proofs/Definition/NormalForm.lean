import TrackerSearch.Proofs.Definition.Identifier
import TrackerSearch.Proofs.Text.Blank

/-!
# The normal form of definitions

What is read off a document is trimmed, links and the parts of rules that are there are not empty,
no rows are skipped backwards, and no unknown filter has a name of the catalog. Three things are not
looked after: an identifier and a name are checked before they are trimmed, so that blanks make them
empty, and what is left out of rows stays as it is written. Nothing is said about texts that have no
normal form, such as templates and arguments of filters.
-/
namespace TrackerSearch

open Text Document

/-! ## Normal forms -/

/-- Not empty, and without blanks around it. -/
structure Tidy (s : String) : Prop where
  ne_empty : s ≠ ""
  trimmed : Trimmed s.toList

/-- Nothing but blanks. -/
def Blank (s : String) : Prop := ∀ c ∈ s.toList, isBlank c = true

/-- A filter that is kept as unknown has no name of the catalog, whatever its case and the blanks
around it. -/
def FilterSpec.Normal (f : FilterSpec) : Prop :=
  ∀ raw, f.kind = .unknown raw → ∀ g : FilterName, g.text.toList ≠ lower (trim raw.toList)

structure SelectorRule.Normal (r : SelectorRule) : Prop where
  selector : Trimmed r.selector.toList
  attr : ∀ s, r.attr = some s → Tidy s
  remove : ∀ s, r.remove = some s → Tidy s
  filters : ∀ f ∈ r.filters, f.Normal

structure RowRule.Normal (r : RowRule) : Prop where
  selector : Trimmed r.selector.toList
  after : 0 ≤ r.after
  filters : ∀ f ∈ r.filters, f.Normal

structure SearchBlock.Normal (s : SearchBlock) : Prop where
  methods : ∀ p ∈ s.paths, p.method.text ∈ ["get", "post"]
  keywordsFilters : ∀ f ∈ s.keywordsFilters, f.Normal
  rows : s.rows.Normal
  fields : ∀ entry ∈ s.fields, entry.2.Normal

structure DownloadRule.Normal (r : DownloadRule) : Prop where
  method : r.method.text ∈ ["get", "post"]
  selectors : ∀ rule ∈ r.selectors, rule.Normal

/-- What every definition is that comes from a document. -/
structure Definition.Normal (d : Definition) : Prop where
  id : Trimmed d.id.toList
  name : Trimmed d.name.toList
  links : ∀ s ∈ d.links, Tidy s
  legacyLinks : ∀ s ∈ d.legacyLinks, Tidy s
  search : ∀ s, d.search = some s → s.Normal
  download : ∀ r, d.download = some r → r.Normal

/-- What is left out of the rows of a definition. -/
def Definition.rowsRemove (d : Definition) : Option String := d.search.bind (·.rows.remove)

/-- The whole normal form of a definition. -/
structure Definition.NormalForm (d : Definition) : Prop extends d.Normal where
  id_ne : d.id ≠ ""
  name_ne : d.name ≠ ""
  rowsRemove : ∀ s, d.rowsRemove = some s → Tidy s

/-! ## Texts -/

theorem tidy_of_blankToNone {s : Option String} {t : String} (h : blankToNone s = some t) :
    Tidy t := by
  cases s with
  | none => cases h
  | some s =>
    simp only [blankToNone] at h
    split at h
    · cases h
    · rename_i hne
      obtain rfl := Option.some.inj h
      refine ⟨fun hempty => hne ?_, trimmed_stripped s⟩
      rw [List.isEmpty_iff, trim_eq_nil_iff]
      exact stripped_eq_empty_iff.mp hempty

theorem tidy_of_mem_cleanLinks {links : List String} {t : String} (h : t ∈ cleanLinks links) :
    Tidy t := by
  obtain ⟨s, -, hs⟩ := List.mem_filterMap.mp h
  exact tidy_of_blankToNone hs

theorem method_text_mem (m : Method) : m.text ∈ ["get", "post"] := by
  cases m <;> decide

theorem FilterName.mem_all (g : FilterName) : g ∈ all := by cases g <;> decide

theorem FilterSpec.normal_ofName (raw : String) (args : List String) :
    (⟨.ofName raw, args⟩ : FilterSpec).Normal := by
  intro raw' hunknown g hname
  change FilterKind.ofName raw = .unknown raw' at hunknown
  unfold FilterKind.ofName at hunknown
  split at hunknown
  · cases hunknown
  · rename_i hlookup
    obtain rfl := FilterKind.unknown.inj hunknown
    have hnot := List.find?_eq_none.mp hlookup g g.mem_all
    exact hnot (beq_iff_eq.mpr hname)

/-! ## Reading the parts -/

section Read

variable (d : Document)

theorem FilterSpec.read_normal : (FilterSpec.read d).Holds FilterSpec.Normal := by
  refine holds_asRecord fun entries _ => .seq (.map fun name _ args => ?_)
  exact FilterSpec.normal_ofName name args

theorem readFilters_normal : (readFilters d).Holds fun fs => ∀ f ∈ fs, f.Normal :=
  holds_asList FilterSpec.read_normal d

/-- Filters that may be left out are normal as well. -/
theorem orElse_filters_normal (entries : List (Document × Document)) (written plain : String) :
    (orElse entries written plain [] readFilters).Holds fun fs => ∀ f ∈ fs, f.Normal :=
  holds_orElse (by simp) fun d _ => readFilters_normal d

theorem SelectorRule.read_normal : (SelectorRule.read d).Holds SelectorRule.Normal := by
  refine holds_asRecord fun entries _ => ?_
  refine (orElse_filters_normal entries "filters" "filters").seqWith ?_
  iterate 6 refine .seq ?_
  refine .map fun selector _ attr isOptional default cases remove text filters hfilters => ?_
  exact ⟨trimmed_stripped selector, fun s hs => tidy_of_blankToNone hs,
    fun s hs => tidy_of_blankToNone hs, hfilters⟩

theorem readAfter_nonneg : (readAfter d).Holds fun n => 0 ≤ n := by
  intro n hn
  obtain ⟨m, -, hm⟩ := Checked.andThen_eq_ok.mp hn
  split at hm
  · cases hm
  · obtain rfl := Checked.ok.inj hm
    omega

/-- A text of a record that may be left out is the one that is written. -/
theorem orElse_text (entries : List (Document × Document)) (key : String) :
    (orElse entries key key none (nullable asString)).Holds fun s =>
      s = textAt? [key] (.map entries) := by
  refine holds_orElse (fun hnone => ?_) fun d hd => ?_
  · rw [fieldValue?_self] at hnone
    rw [textAt?, hnone, Option.bind_none]
  · rw [fieldValue?_self] at hd
    rw [textAt?, hd, Option.bind_some]
    refine holds_nullable ?_ ?_
    · rintro rfl
      rfl
    · intro s hs
      rw [textAt?, hs]

theorem RowRule.read_normal :
    (RowRule.read d).Holds fun r => r.Normal ∧ r.remove = textAt? ["remove"] d := by
  refine holds_asRecord fun entries hd => ?_
  refine (orElse_filters_normal entries "filters" "filters").seqWith ?_
  refine (orElse_text entries "remove").seqWith ?_
  refine (holds_orElse (fun _ => Int.le_refl 0) fun d _ => readAfter_nonneg d).seqWith ?_
  refine .map fun selector _ after hafter remove hremove filters hfilters => ?_
  exact ⟨⟨trimmed_stripped selector, hafter, hfilters⟩, hremove.trans (by rw [hd])⟩

theorem DownloadRule.read_normal : (DownloadRule.read d).Holds DownloadRule.Normal := by
  refine holds_asRecord fun entries _ => ?_
  refine (holds_orElse (by simp) fun d _ => holds_asList SelectorRule.read_normal d).seqWith ?_
  refine .map fun method _ selectors hselectors => ?_
  exact ⟨method_text_mem method, hselectors⟩

theorem SearchBlock.read_normal :
    (SearchBlock.read d).Holds fun s =>
      s.Normal ∧ s.rows.remove = textAt? ["rows", "remove"] d := by
  refine holds_asRecord fun entries hd => ?_
  refine (holds_orElse (by simp) fun d _ =>
    holds_asTable SelectorRule.read_normal (expandFields d)).seqWith ?_
  have hrows : (orElse entries "rows" "rows" {} RowRule.read).Holds fun r =>
      r.Normal ∧ r.remove = textAt? ["rows", "remove"] d := by
    refine holds_orElse (fun hnone => ?_) fun rows hsome => ?_
    · rw [fieldValue?_self] at hnone
      refine ⟨⟨trimmed_stripped "", Int.le_refl 0, by simp⟩, ?_⟩
      rw [hd, textAt?, hnone, Option.bind_none]
    · rw [fieldValue?_self] at hsome
      rw [hd, textAt?, hsome, Option.bind_some]
      exact RowRule.read_normal rows
  refine hrows.seqWith ?_
  refine (orElse_filters_normal entries "keywordsfilters" "keywords_filters").seqWith ?_
  iterate 2 refine .seq ?_
  refine .map fun path _ paths inputs filters hfilters rows hrows fields hfields => ?_
  exact ⟨⟨fun p _ => method_text_mem p.method, hfilters, hrows.1, hfields⟩, hrows.2⟩

end Read

namespace Definition

/-- A text that has to be there is the one that is written, and is not empty. -/
theorem required_text (entries : List (Document × Document)) (key : String) :
    (required entries key key asNonEmpty).Holds fun s =>
      textAt? [key] (.map entries) = some s ∧ s ≠ "" := by
  refine holds_required fun d hd s hs => ?_
  rw [fieldValue?_self] at hd
  obtain ⟨s', hs', hne⟩ := Checked.andThen_eq_ok.mp hs
  split at hne
  · cases hne
  · rename_i hempty
    obtain rfl := Checked.ok.inj hne
    rw [textAt?, hd, Option.bind_some, textAt?, hs']
    exact ⟨rfl, fun h => hempty (String.isEmpty_iff.mpr h)⟩

/-- What a definition has of the texts in a document. -/
structure ReadOff (d : Definition) (document : Document) (id name : String) : Prop where
  id_text : textAt? ["id"] document = some id
  id_ne : id ≠ ""
  id_eq : d.id = stripped id
  name_text : textAt? ["name"] document = some name
  name_ne : name ≠ ""
  name_eq : d.name = stripped name
  rowsRemove_eq : d.rowsRemove = textAt? ["search", "rows", "remove"] document

theorem read_normal (entries : List (Document × Document)) :
    (read (.map entries)).Holds fun d =>
      d.Normal ∧ ∃ id name, d.ReadOff (.map entries) id name := by
  have hdownload : (orElse entries "download" "download" none
      (nullable DownloadRule.read)).Holds fun o => ∀ r, o = some r → r.Normal := by
    refine holds_orElse (by simp) fun d _ => holds_nullable (by simp) ?_
    exact (DownloadRule.read_normal d).imp fun r hr r' h => Option.some.inj h ▸ hr
  have hsearch : (orElse entries "search" "search" none
      (nullable SearchBlock.read)).Holds fun o => (∀ s, o = some s → s.Normal) ∧
        o.bind (·.rows.remove) = textAt? ["search", "rows", "remove"] (.map entries) := by
    refine holds_orElse (fun hnone => ⟨by simp, ?_⟩) fun d hd => ?_
    · rw [fieldValue?_self] at hnone
      rw [textAt?, hnone, Option.bind_none, Option.bind_none]
    · rw [fieldValue?_self] at hd
      rw [textAt?, hd, Option.bind_some]
      refine holds_nullable (fun hnull => ⟨by simp, by rw [hnull]; rfl⟩) ?_
      exact (SearchBlock.read_normal d).imp fun s hs => ⟨fun s' h => Option.some.inj h ▸ hs.1, hs.2⟩
  refine hdownload.seqWith ?_
  refine hsearch.seqWith ?_
  -- Of the other fields only the identifier and the name matter.
  iterate 11 refine .seq ?_
  refine (required_text entries "name").seqWith ?_
  refine .map fun id hid name hname description language access encoding links legacyLinks
    requestDelay followRedirect caps settings login search hsearch download hdownload => ?_
  obtain ⟨hid, hidne⟩ := required_text entries "id" id hid
  refine ⟨⟨trimmed_stripped id, trimmed_stripped name, ?_, ?_, hsearch.1, hdownload⟩, id, name, ?_⟩
  · exact fun s hs => tidy_of_mem_cleanLinks hs
  · exact fun s hs => tidy_of_mem_cleanLinks hs
  · exact ⟨hid, hidne, rfl, hname.1, hname.2, rfl, hsearch.2⟩

variable {document : Document} {d : Definition} {id name : String}

/-- What the normal form asks of the texts of a document. -/
theorem ReadOff.normalForm_iff (hd : d.Normal) (h : d.ReadOff document id name) :
    d.NormalForm ↔ ¬Blank id ∧ ¬Blank name ∧
      ∀ s, textAt? ["search", "rows", "remove"] document = some s → Tidy s := by
  have hid : d.id = "" ↔ Blank id := by rw [h.id_eq, stripped_eq_empty_iff, Blank]
  have hname : d.name = "" ↔ Blank name := by rw [h.name_eq, stripped_eq_empty_iff, Blank]
  rw [← h.rowsRemove_eq, ← hid, ← hname]
  constructor
  · exact fun hn => ⟨hn.id_ne, hn.name_ne, hn.rowsRemove⟩
  · exact fun hn => ⟨hd, hn.1, hn.2.1, hn.2.2⟩

/-- **Definitions that are read are normal, but for three texts.** Every part of a definition that
comes from a document, bare or wrapped, has its normal form, and so has the whole definition if and
only if neither the identifier nor the name is written as blanks and what is left out of the rows is
written in its normal form. -/
theorem normal_of_ofDocument (h : ofDocument document = .ok d) :
    d.Normal ∧ ∃ entries inner id name, document = .map entries ∧ unwrap entries = .ok inner ∧
      d.ReadOff (.map inner) id name ∧
      (d.NormalForm ↔ ¬Blank id ∧ ¬Blank name ∧
        ∀ s, textAt? ["search", "rows", "remove"] (.map inner) = some s → Tidy s) := by
  obtain ⟨entries, inner, rfl, hunwrap, hread⟩ := ofDocument_eq_ok.mp h
  obtain ⟨hnormal, id, name, hreadOff⟩ := read_normal inner d hread
  exact ⟨hnormal, entries, inner, id, name, rfl, hunwrap, hreadOff, hreadOff.normalForm_iff hnormal⟩

def removingDocument : Document :=
  .map [(.str "id", .str " x "), (.str "name", .str "X"),
    (.str "search", .map [(.str "rows", .map [(.str "remove", .str " b")])])]

/-- The identifier is trimmed, and what is left out of the rows is not. -/
theorem normal_of_removingDocument :
    let d : Definition := { id := "x", name := "X", search := some { rows := { remove := some " b" } } }
    ofDocument removingDocument = .ok d ∧ d.Normal ∧ ¬d.NormalForm := by
  intro d
  have hread : ofDocument removingDocument = .ok d := by rfl
  obtain ⟨hnormal, entries, inner, id, name, hentries, hunwrap, hreadOff, hiff⟩ :=
    normal_of_ofDocument hread
  refine ⟨hread, hnormal, fun hform => ?_⟩
  have htidy : Tidy " b" := (hiff.mp hform).2.2 " b" (hreadOff.rowsRemove_eq ▸ rfl)
  exact absurd (htidy.trimmed.head ' ' rfl) (by decide)

/-- An identifier of one blank is accepted, and is empty then. -/
theorem not_normalForm_of_blank_id :
    let d : Definition := { id := "", name := "B" }
    ofDocument (.map [(.str "id", .str " "), (.str "name", .str "B")]) = .ok d ∧ ¬d.NormalForm := by
  intro d
  exact ⟨by rfl, fun hform => hform.id_ne rfl⟩

end Definition

end TrackerSearch
