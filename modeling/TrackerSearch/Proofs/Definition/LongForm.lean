import TrackerSearch.Proofs.Definition.Identifier
import TrackerSearch.Proofs.Document.LongMap

/-!
# The long form of definitions

A document may give numbers and truth values in place of texts, a single value in place of a list, a
selector in place of a field rule and a path in place of a list of paths. Its long form has none of
these, and stands for the same definition, as long as no mapping has a key twice; none has in a
document that was decoded (`Yaml.wellKeyed_of_read`). The default of a category mapping is a truth
value and no shorthand. Nothing is said about documents that wrap a definition as a resource.
-/
namespace TrackerSearch

open Document

/-! ## Long forms -/

namespace Document

/-- Rewrite a value by the name of its key. -/
def mapField (f : String → Document → Document) : Document × Document → Document × Document
  | (.str key, d) => (.str key, f key d)
  | entry => entry

/-- Rewrite the values of a record, each by the name of its key. -/
def mapFields (f : String → Document → Document) : Document → Document
  | .map entries => .map (entries.map (mapField f))
  | d => d

/-- Rewrite the items of a list. -/
def mapItems (f : Document → Document) : Document → Document
  | .list items => .list (items.map f)
  | .set items => .set (items.map f)
  | d => d

/-- Is a value missing or a list without items? -/
def isNoList : Option Document → Bool
  | none | some (.list []) | some (.set []) => true
  | _ => false

end Document

def FilterSpec.longForm : Document → Document :=
  mapFields fun
    | "args" => scalarList
    | _ => fun d => d

def SelectorRule.longForm : Document → Document :=
  mapFields fun
    | "default" | "text" => scalarText
    | "case" => longMap
    | "filters" => mapItems FilterSpec.longForm
    | _ => fun d => d

def RowRule.longForm : Document → Document :=
  mapFields fun
    | "filters" => mapItems FilterSpec.longForm
    | _ => fun d => d

def SearchPath.longForm : Document → Document :=
  mapFields fun
    | "categories" => scalarList
    | "inputs" => longMap
    | _ => fun d => d

/-- A rule by its selector alone. -/
def SelectorRule.expanded : Document → Document
  | .str s => .map [(.str "selector", .str s)]
  | d => d

/-- The rules of the fields, none of them by its selector alone. -/
def SearchBlock.longFields : Document → Document
  | .map entries =>
    .map (entries.map fun entry => (entry.1, SelectorRule.longForm (SelectorRule.expanded entry.2)))
  | d => d

/-- A path that is not empty, without a list of paths, becomes a list of one. -/
def SearchBlock.withPaths : Document → Document
  | .map entries =>
    match find? entries "path" with
    | some path =>
      if (textAt? [] path).any (!·.isEmpty) && isNoList (find? entries "paths") then
        .map (insert entries (.str "paths") (.list [.map [(.str "path", path)]]))
      else .map entries
    | none => .map entries
  | d => d

def SearchBlock.longForm (d : Document) : Document :=
  withPaths (d.mapFields fun
    | "paths" => mapItems SearchPath.longForm
    | "inputs" => longMap
    | "keywordsfilters" | "keywords_filters" => mapItems FilterSpec.longForm
    | "rows" => RowRule.longForm
    | "fields" => longFields
    | _ => fun d => d)

def DownloadRule.longForm : Document → Document :=
  mapFields fun
    | "selectors" => mapItems SelectorRule.longForm
    | _ => fun d => d

def CategoryMapping.longForm : Document → Document :=
  mapFields fun
    | "id" | "cat" => scalarText
    | _ => fun d => d

def Capabilities.longForm : Document → Document :=
  mapFields fun
    | "categories" => longMap
    | "categorymappings" | "category_mappings" => mapItems CategoryMapping.longForm
    | _ => fun d => d

def SettingsField.longForm : Document → Document :=
  mapFields fun
    | "default" => scalarText
    | "options" => longMap
    | _ => fun d => d

def LoginBlock.longForm : Document → Document :=
  mapFields fun
    | "inputs" => longMap
    | _ => fun d => d

/-- The long form of a bare document. -/
def Definition.longForm : Document → Document :=
  mapFields fun
    | "caps" => Capabilities.longForm
    | "settings" => mapItems SettingsField.longForm
    | "login" => LoginBlock.longForm
    | "search" => SearchBlock.longForm
    | "download" => DownloadRule.longForm
    | _ => fun d => d

/-! ## Checks of rewritten documents -/

namespace Checked

variable {α β : Type}

theorem map_congr {f : α → β} {x y : Checked α} (h : x = y) : f <$> x = f <$> y := by rw [h]

theorem seq_congr {f g : Checked (α → β)} {x y : Checked α} (hf : f = g) (hx : x = y) :
    f <*> x = g <*> y := by rw [hf, hx]

end Checked

namespace Document

variable {α : Type} {entries : List (Document × Document)} {f : String → Document → Document}
  {written plain : String} {default : α} {check : Document → Checked α} {d : Document}

theorem find?_mapField (f : String → Document → Document) (entries : List (Document × Document))
    (key : String) : find? (entries.map (mapField f)) key = (find? entries key).map (f key) := by
  induction entries with
  | nil => rfl
  | cons entry entries ih =>
    obtain ⟨k, d⟩ := entry
    by_cases hk : k = .str key
    · subst hk
      rw [find?_cons_self]
      exact find?_cons_self ..
    · rw [List.map_cons, find?_cons_of_ne hk, ← ih]
      refine find?_cons_of_ne (k := (mapField f (k, d)).1) ?_ _ _
      cases k with
      | str _ => exact hk
      | _ => exact hk

/-- A field is read in the same way where its check gives the same and its value is found under the
same name. -/
theorem orElse_congr {entries' : List (Document × Document)}
    (hkey : fieldKey entries' written plain = fieldKey entries written plain)
    (h : (fieldValue? entries' written plain).map check =
      (fieldValue? entries written plain).map check) :
    orElse entries' written plain default check = orElse entries written plain default check := by
  unfold orElse
  rw [hkey]
  cases h' : fieldValue? entries' written plain <;> cases hd : fieldValue? entries written plain <;>
    simp_all

theorem required_congr {entries' : List (Document × Document)}
    (hkey : fieldKey entries' written plain = fieldKey entries written plain)
    (h : (fieldValue? entries' written plain).map check =
      (fieldValue? entries written plain).map check) :
    required entries' written plain check = required entries written plain check := by
  unfold required
  rw [hkey]
  cases h' : fieldValue? entries' written plain <;> cases hd : fieldValue? entries written plain <;>
    simp_all

theorem fieldKey_mapField (f : String → Document → Document) (entries : List (Document × Document))
    (written plain : String) :
    fieldKey (entries.map (mapField f)) written plain = fieldKey entries written plain := by
  rw [fieldKey, find?_mapField, Option.isSome_map, fieldKey]

theorem map_fieldValue?_mapField
    (hwritten : ∀ d, find? entries written = some d → check (f written d) = check d)
    (hplain : ∀ d, find? entries plain = some d → check (f plain d) = check d) :
    (fieldValue? (entries.map (mapField f)) written plain).map check =
      (fieldValue? entries written plain).map check := by
  unfold fieldValue?
  rw [find?_mapField, find?_mapField]
  cases hw : find? entries written with
  | some d => exact congrArg some (hwritten d hw)
  | none =>
    cases hp : find? entries plain with
    | some d => exact congrArg some (hplain d hp)
    | none => rfl

theorem orElse_mapField
    (hwritten : ∀ d, find? entries written = some d → check (f written d) = check d)
    (hplain : ∀ d, find? entries plain = some d → check (f plain d) = check d) :
    orElse (entries.map (mapField f)) written plain default check =
      orElse entries written plain default check :=
  orElse_congr (fieldKey_mapField ..) (map_fieldValue?_mapField hwritten hplain)

/-- The same for a field under one name. -/
theorem orElse_mapField_self {key : String}
    (h : ∀ d, find? entries key = some d → check (f key d) = check d) :
    orElse (entries.map (mapField f)) key key default check = orElse entries key key default check :=
  orElse_mapField h h

theorem required_mapField
    (hwritten : ∀ d, find? entries written = some d → check (f written d) = check d)
    (hplain : ∀ d, find? entries plain = some d → check (f plain d) = check d) :
    required (entries.map (mapField f)) written plain check =
      required entries written plain check :=
  required_congr (fieldKey_mapField ..) (map_fieldValue?_mapField hwritten hplain)

theorem checkItems_map {g : Document → Document} {items : List Document}
    (h : ∀ d ∈ items, check (g d) = check d) (n : Nat) :
    checkItems check n (items.map g) = checkItems check n items := by
  induction items generalizing n with
  | nil => rfl
  | cons d items ih =>
    obtain ⟨hd, hitems⟩ := List.forall_mem_cons.mp h
    rw [List.map_cons, checkItems, checkItems, hd, ih hitems]

theorem checkEntries_map {g g' : Document → Document} {entries : List (Document × Document)}
    (h : ∀ entry ∈ entries, check (g entry.2) = check (g' entry.2)) :
    checkEntries check (entries.map fun entry => (entry.1, g entry.2)) =
      checkEntries check (entries.map fun entry => (entry.1, g' entry.2)) := by
  induction entries with
  | nil => rfl
  | cons entry entries ih =>
    obtain ⟨hentry, hentries⟩ := List.forall_mem_cons.mp h
    rw [List.map_cons, List.map_cons, checkEntries, checkEntries, hentry, ih hentries]

theorem nullable_of_ne_null (h : d ≠ .null) : nullable check d = (check d).map some := by
  unfold nullable
  split
  · exact absurd rfl h
  · rfl

theorem nullable_congr {g : Document → Document} (hnull : g d = .null ↔ d = .null)
    (h : check (g d) = check d) : nullable check (g d) = nullable check d := by
  by_cases hd : d = .null
  · rw [hnull.mpr hd, hd]
  · rw [nullable_of_ne_null hd, nullable_of_ne_null fun hg => hd (hnull.mp hg), h]

theorem mapFields_eq_null_iff : mapFields f d = .null ↔ d = .null := by
  cases d <;> simp [mapFields]

theorem asList_mapItems {g : Document → Document} (h : ∀ d, d.WellKeyed → check (g d) = check d)
    (hd : d.WellKeyed) : asList check (mapItems g d) = asList check d := by
  cases d with
  | list items => exact checkItems_map (fun d hmem => h d (itemsWellKeyed_iff.mp hd d hmem)) 0
  | set items => exact checkItems_map (fun d hmem => h d (itemsWellKeyed_iff.mp hd d hmem)) 0
  | _ => rfl

theorem scalarList_scalarList (d : Document) : scalarList (scalarList d) = scalarList d := by
  cases d with
  | list items =>
    rw [scalarList, scalarList, List.map_map]
    refine congrArg list (List.map_congr_left fun d _ => ?_)
    exact scalarText_scalarText d
  | _ => rfl

end Document

/-! ## Reading long forms -/

section Read

variable {d : Document}

theorem FilterSpec.read_longForm (d : Document) : read (longForm d) = read d := by
  cases d with
  | map entries =>
    refine Checked.seq_congr (Checked.map_congr ?_) ?_
    · exact required_mapField (fun _ _ => rfl) fun _ _ => rfl
    · exact orElse_mapField (fun d _ => congrArg asStrings (scalarList_scalarList d))
        fun d _ => congrArg asStrings (scalarList_scalarList d)
  | _ => rfl

theorem readFilters_mapItems (hd : d.WellKeyed) :
    readFilters (mapItems FilterSpec.longForm d) = readFilters d :=
  asList_mapItems (fun d _ => FilterSpec.read_longForm d) hd

theorem asStringTable_longMap (hd : d.WellKeyed) :
    asStringTable (scalarMap (longMap d)) = asStringTable (scalarMap d) := by
  rw [scalarMap_longMap]
  rintro entries rfl
  exact hd.distinct

/-- A scalar that may be nothing. -/
theorem nullable_scalarText (d : Document) :
    nullable asString (scalarText (scalarText d)) = nullable asString (scalarText d) := by
  rw [scalarText_scalarText]

theorem SelectorRule.read_longForm (hd : d.WellKeyed) : read (longForm d) = read d := by
  cases d with
  | map entries =>
    have hkeyed : ∀ {key d}, find? entries key = some d → d.WellKeyed := hd.find?
    refine Checked.seq_congr (Checked.seq_congr (Checked.seq_congr (Checked.seq_congr
      (Checked.seq_congr (Checked.seq_congr (Checked.seq_congr (Checked.map_congr
        ?_) ?_) ?_) ?default) ?case) ?_) ?text) ?filters
    case default => exact orElse_mapField_self fun d _ => nullable_scalarText d
    case case => exact orElse_mapField_self fun d h => asStringTable_longMap (hkeyed h)
    case text => exact orElse_mapField_self fun d _ => nullable_scalarText d
    case filters => exact orElse_mapField_self fun d h => readFilters_mapItems (hkeyed h)
    all_goals exact orElse_mapField_self fun _ _ => rfl
  | _ => rfl

theorem RowRule.read_longForm (hd : d.WellKeyed) : read (longForm d) = read d := by
  cases d with
  | map entries =>
    refine Checked.seq_congr (Checked.seq_congr (Checked.seq_congr (Checked.map_congr
      ?_) ?_) ?_) ?filters
    case filters => exact orElse_mapField_self fun d h => readFilters_mapItems (hd.find? h)
    all_goals exact orElse_mapField_self fun _ _ => rfl
  | _ => rfl

theorem SearchPath.read_longForm (hd : d.WellKeyed) : read (longForm d) = read d := by
  cases d with
  | map entries =>
    refine Checked.seq_congr (Checked.seq_congr (Checked.seq_congr (Checked.seq_congr
      (Checked.seq_congr (Checked.map_congr ?path) ?_) ?categories) ?inputs) ?_) ?_
    case path => exact required_mapField (fun _ _ => rfl) fun _ _ => rfl
    case categories =>
      exact orElse_mapField_self fun d _ => congrArg asStrings (scalarList_scalarList d)
    case inputs => exact orElse_mapField_self fun d h => asStringTable_longMap (hd.find? h)
    all_goals exact orElse_mapField (fun _ _ => rfl) fun _ _ => rfl
  | _ => rfl

theorem DownloadRule.read_longForm (hd : d.WellKeyed) : read (longForm d) = read d := by
  cases d with
  | map entries =>
    refine Checked.seq_congr (Checked.map_congr ?_) ?selectors
    case selectors =>
      exact orElse_mapField_self fun d h =>
        asList_mapItems (fun d => SelectorRule.read_longForm) (hd.find? h)
    all_goals exact orElse_mapField_self fun _ _ => rfl
  | _ => rfl

theorem CategoryMapping.read_longForm (d : Document) : read (longForm d) = read d := by
  cases d with
  | map entries =>
    have htext : ∀ d, asString (scalarText (scalarText d)) = asString (scalarText d) := fun d => by
      rw [scalarText_scalarText]
    refine Checked.seq_congr (Checked.seq_congr (Checked.seq_congr (Checked.map_congr
      ?id) ?cat) ?_) ?_
    case id => exact required_mapField (fun d _ => htext d) fun d _ => htext d
    case cat => exact required_mapField (fun d _ => htext d) fun d _ => htext d
    all_goals exact orElse_mapField_self fun _ _ => rfl
  | _ => rfl

theorem Capabilities.read_longForm (hd : d.WellKeyed) : read (longForm d) = read d := by
  cases d with
  | map entries =>
    have hmappings : ∀ d : Document, d.WellKeyed →
        asList CategoryMapping.read (mapItems CategoryMapping.longForm d) =
          asList CategoryMapping.read d :=
      fun d => asList_mapItems fun d _ => CategoryMapping.read_longForm d
    refine Checked.seq_congr (Checked.seq_congr (Checked.seq_congr (Checked.map_congr
      ?categories) ?mappings) ?_) ?_
    case categories => exact orElse_mapField_self fun d h => asStringTable_longMap (hd.find? h)
    case mappings =>
      exact orElse_mapField (fun d h => hmappings d (hd.find? h)) fun d h => hmappings d (hd.find? h)
    all_goals exact orElse_mapField (fun _ _ => rfl) fun _ _ => rfl
  | _ => rfl

theorem SettingsField.read_longForm (hd : d.WellKeyed) : read (longForm d) = read d := by
  cases d with
  | map entries =>
    refine Checked.seq_congr (Checked.seq_congr (Checked.seq_congr (Checked.seq_congr
      (Checked.map_congr ?name) ?type) ?_) ?default) ?options
    case name => exact required_mapField (fun _ _ => rfl) fun _ _ => rfl
    case type => exact required_mapField (fun _ _ => rfl) fun _ _ => rfl
    case default => exact orElse_mapField_self fun d _ => nullable_scalarText d
    case options => exact orElse_mapField_self fun d h => asStringTable_longMap (hd.find? h)
    all_goals exact orElse_mapField_self fun _ _ => rfl
  | _ => rfl

theorem LoginBlock.read_longForm (hd : d.WellKeyed) : read (longForm d) = read d := by
  cases d with
  | map entries =>
    refine Checked.seq_congr (Checked.seq_congr (Checked.seq_congr (Checked.seq_congr
      (Checked.map_congr ?_) ?_) ?_) ?inputs) ?_
    case inputs => exact orElse_mapField_self fun d h => asStringTable_longMap (hd.find? h)
    all_goals exact orElse_mapField (fun _ _ => rfl) fun _ _ => rfl
  | _ => rfl

/-! ## Reading a search -/

namespace SearchBlock

theorem wellKeyed_expanded (hd : d.WellKeyed) : (SelectorRule.expanded d).WellKeyed := by
  cases d with
  | str s =>
    refine wellKeyed_map_iff.mpr ⟨List.pairwise_singleton .., ?_⟩
    simp [WellKeyed]
  | _ => exact hd

/-- A rule in its long form is not given by its selector alone. -/
theorem expanded_longForm (d : Document) :
    SelectorRule.expanded (SelectorRule.longForm (SelectorRule.expanded d)) =
      SelectorRule.longForm (SelectorRule.expanded d) := by
  cases d <;> rfl

theorem expandFields_map (entries : List (Document × Document)) :
    expandFields (.map entries) =
      .map (entries.map fun entry => (entry.1, SelectorRule.expanded entry.2)) := by
  refine congrArg Document.map (List.map_congr_left fun entry _ => ?_)
  obtain ⟨k, d⟩ := entry
  cases d <;> rfl

/-- Field rules are the same in their long form. -/
theorem asTable_longFields (hd : d.WellKeyed) :
    asTable SelectorRule.read (expandFields (longFields d)) =
      asTable SelectorRule.read (expandFields d) := by
  cases d with
  | map entries =>
    have hentries : ∀ entry ∈ entries,
        SelectorRule.read (SelectorRule.longForm (SelectorRule.expanded entry.2)) =
          SelectorRule.read (SelectorRule.expanded entry.2) :=
      fun entry hentry => SelectorRule.read_longForm (wellKeyed_expanded (hd.value hentry))
    rw [longFields, expandFields_map, expandFields_map, List.map_map]
    refine congrArg (Checked.map _) (checkEntries_map (g := fun d =>
      SelectorRule.expanded (SelectorRule.longForm (SelectorRule.expanded d))) fun entry hentry => ?_)
    rw [expanded_longForm, hentries entry hentry]
  | _ => rfl

/-- A list of one path, given by its template alone. -/
theorem asList_single {path : Document} {s : String} (h : path.asString = .ok s) :
    asList SearchPath.read (.list [.map [(.str "path", path)]]) = .ok [{ path := s }] := by
  have hpath : find? [(.str "path", path)] "path" = some path := find?_cons_self ..
  have hother : ∀ key, key ≠ "path" → find? [(.str "path", path)] key = none := fun key hkey =>
    find?_cons_of_ne (by simpa using hkey.symm) _ _
  have hread : SearchPath.read (.map [(.str "path", path)]) = .ok { path := s } := by
    simp only [SearchPath.read, asRecord, required, orElse, fieldValue?, hpath, h, ne_eq,
      String.reduceEq, not_false_eq_true, hother]
    rfl
  rw [asList, checkItems, hread]
  rfl

theorem pathsOf_single {s : String} (hs : s ≠ "") :
    pathsOf (some s) [{ path := s }] = pathsOf (some s) [] := by
  simp [pathsOf, hs]

theorem textAt?_nil {path : Document} {s : String} (h : textAt? [] path = some s) :
    path.asString = .ok s := by
  unfold textAt? at h
  split at h
  · rename_i hs
    rw [hs, Option.some.inj h]
  · cases h

theorem asList_of_isNoList {entries : List (Document × Document)}
    (h : isNoList (find? entries "paths") = true) :
    orElse entries "paths" "paths" [] (asList SearchPath.read) = .ok [] := by
  rw [orElse, fieldValue?_self]
  unfold isNoList at h
  split at h
  · rename_i hnone
    rw [hnone]
  · rename_i hlist
    rw [hlist]
    rfl
  · rename_i hset
    rw [hset]
    rfl
  · cases h

/-- A list of one path stands for the path. -/
theorem read_insert_paths {entries : List (Document × Document)} {path : Document} {s : String}
    (hpath : find? entries "path" = some path) (htext : path.asString = .ok s) (hne : s ≠ "")
    (hno : isNoList (find? entries "paths") = true) :
    read (.map (insert entries (.str "paths") (.list [.map [(.str "path", path)]]))) =
      read (.map entries) := by
  have hsame : ∀ {α : Type} (default : α) (check : Document → Checked α) (written plain : String),
      "paths" ≠ written → "paths" ≠ plain →
      orElse (insert entries (.str "paths") (.list [.map [(.str "path", path)]])) written plain
        default check = orElse entries written plain default check := by
    intro α default check written plain hwritten hplain
    have hw := find?_insert_of_ne (by simpa using hwritten : str "paths" ≠ str written)
      entries (.list [.map [(.str "path", path)]])
    refine orElse_congr (by rw [fieldKey, hw, fieldKey]) ?_
    unfold fieldValue?
    rw [hw, find?_insert_of_ne (by simpa using hplain)]
  have hone : orElse entries "path" "path" none (nullable asString) = .ok (some s) := by
    have hnull : path ≠ .null := by
      rintro rfl
      cases htext
    rw [orElse, fieldValue?_self, hpath]
    dsimp only
    rw [nullable_of_ne_null hnull, htext]
    rfl
  have hpaths : orElse (insert entries (.str "paths") (.list [.map [(.str "path", path)]])) "paths"
      "paths" [] (asList SearchPath.read) = .ok [{ path := s }] := by
    rw [orElse, fieldValue?_self, find?_insert_self]
    dsimp only
    rw [asList_single htext]
    rfl
  refine Checked.seq_congr (Checked.seq_congr (Checked.seq_congr (Checked.seq_congr
    ?paths ?_) ?_) ?_) ?_
  case paths =>
    rw [hsame _ _ "path" "path" (by decide) (by decide), hone, hpaths, asList_of_isNoList hno]
    refine congrArg Checked.ok ?_
    funext inputs keywordsFilters rows fields
    dsimp only
    rw [pathsOf_single hne]
  all_goals exact hsame _ _ _ _ (by decide) (by decide)

theorem read_withPaths (d : Document) : read (withPaths d) = read d := by
  cases d with
  | map entries =>
    cases hpath : find? entries "path" with
    | none => simp only [withPaths, hpath]
    | some path =>
      by_cases hcond : ((textAt? [] path).any (!·.isEmpty) && isNoList (find? entries "paths")) = true
      · simp only [withPaths, hpath, hcond, if_true]
        obtain ⟨htext, hno⟩ := Bool.and_eq_true_iff.mp hcond
        obtain ⟨s, hs, hne⟩ := (Option.any_eq_true ..).mp htext
        refine read_insert_paths hpath (textAt?_nil hs) ?_ hno
        rintro rfl
        cases hne
      · simp only [withPaths, hpath, hcond]
        rfl
  | _ => rfl

theorem read_longForm (hd : d.WellKeyed) : read (longForm d) = read d := by
  rw [longForm, read_withPaths]
  cases d with
  | map entries =>
    have hfilters : ∀ {key d}, find? entries key = some d →
        readFilters (mapItems FilterSpec.longForm d) = readFilters d :=
      fun h => readFilters_mapItems (hd.find? h)
    refine Checked.seq_congr (Checked.seq_congr (Checked.seq_congr (Checked.seq_congr
      (Checked.seq_congr (Checked.map_congr ?_) ?paths) ?inputs) ?filters) ?rows) ?fields
    case paths =>
      exact orElse_mapField_self fun d h =>
        asList_mapItems (fun d => SearchPath.read_longForm) (hd.find? h)
    case inputs => exact orElse_mapField_self fun d h => asStringTable_longMap (hd.find? h)
    case filters => exact orElse_mapField (fun d h => hfilters h) fun d h => hfilters h
    case rows => exact orElse_mapField_self fun d h => RowRule.read_longForm (hd.find? h)
    case fields => exact orElse_mapField_self fun d h => asTable_longFields (hd.find? h)
    all_goals exact orElse_mapField_self fun _ _ => rfl
  | _ => rfl

end SearchBlock

/-! ## Reading a definition -/

theorem SearchBlock.longForm_eq_null_iff : SearchBlock.longForm d = .null ↔ d = .null := by
  cases d with
  | map entries =>
    unfold SearchBlock.longForm SearchBlock.withPaths mapFields
    dsimp only
    repeat' split
    all_goals simp
  | _ => simp [SearchBlock.longForm, SearchBlock.withPaths, mapFields]

theorem Definition.read_longForm (hd : d.WellKeyed) : read (longForm d) = read d := by
  cases d with
  | map entries =>
    refine Checked.seq_congr (Checked.seq_congr (Checked.seq_congr (Checked.seq_congr
      (Checked.seq_congr (Checked.seq_congr (Checked.seq_congr (Checked.seq_congr
      (Checked.seq_congr (Checked.seq_congr (Checked.seq_congr (Checked.seq_congr
      (Checked.seq_congr (Checked.seq_congr (Checked.map_congr ?id) ?name) ?_) ?_) ?_) ?_) ?_) ?_)
      ?_) ?_) ?caps) ?settings) ?login) ?search) ?download
    case id => exact required_mapField (fun _ _ => rfl) fun _ _ => rfl
    case name => exact required_mapField (fun _ _ => rfl) fun _ _ => rfl
    case caps => exact orElse_mapField_self fun d h => Capabilities.read_longForm (hd.find? h)
    case settings =>
      exact orElse_mapField_self fun d h =>
        asList_mapItems (fun d => SettingsField.read_longForm) (hd.find? h)
    case login =>
      exact orElse_mapField_self fun d h =>
        nullable_congr mapFields_eq_null_iff (LoginBlock.read_longForm (hd.find? h))
    case search =>
      exact orElse_mapField_self fun d h =>
        nullable_congr SearchBlock.longForm_eq_null_iff (SearchBlock.read_longForm (hd.find? h))
    case download =>
      exact orElse_mapField_self fun d h =>
        nullable_congr mapFields_eq_null_iff (DownloadRule.read_longForm (hd.find? h))
    all_goals exact orElse_mapField (fun _ _ => rfl) fun _ _ => rfl
  | _ => rfl

end Read

/-- A document that is no resource. -/
def Document.IsBare (d : Document) : Prop := ∀ entries, d = .map entries → isResource entries = false

theorem isResource_mapField {f : String → Document → Document} (hkind : ∀ d, f "kind" d = d)
    (entries : List (Document × Document)) :
    isResource (entries.map (mapField f)) = isResource entries := by
  have hfind : find? (entries.map (mapField f)) "kind" = find? entries "kind" := by
    rw [find?_mapField, funext hkind, Option.map_id']
  unfold isResource
  rw [hfind, find?_mapField, Option.isSome_map]

theorem Definition.ofDocument_of_bare {entries : List (Document × Document)}
    (h : isResource entries = false) :
    ofDocument (.map entries) = ((read (.map entries)).toExcept).mapError .mismatches := by
  rw [ofDocument, unwrap_of_bare h]
  rfl

/-- **The long form of a document stands for the same definition.** A bare document without
repeated keys and its long form are read in the same way: either both are accepted and stand for one
definition, with all its fields, inputs and cases in one order, or both are refused for the same
reasons. -/
theorem Definition.ofDocument_longForm {document : Document} (hkeys : document.WellKeyed)
    (hbare : document.IsBare) :
    ofDocument (Definition.longForm document) = ofDocument document := by
  cases document with
  | map entries =>
    have hread := Definition.read_longForm hkeys
    have hentries := hbare entries rfl
    rw [ofDocument_of_bare hentries, ← hread]
    exact ofDocument_of_bare ((isResource_mapField (fun _ => rfl) entries).trans hentries)
  | _ => rfl

def shortDocument : Document :=
  .map [(.str "id", .str "x"), (.str "name", .str "X"),
    (.str "search", .map [(.str "path", .str "s"),
      (.str "inputs", .map [(.int 1, .null), (.null, .int 2), (.str "1", .bool true)]),
      (.str "fields", .map [(.str "title", .str "a")])])]

def writtenOut : Document :=
  .map [(.str "id", .str "x"), (.str "name", .str "X"),
    (.str "search", .map [(.str "path", .str "s"),
      (.str "inputs", .map [(.str "1", .str "true"), (.null, .str "2")]),
      (.str "fields", .map [(.str "title", .map [(.str "selector", .str "a")])]),
      (.str "paths", .list [.map [(.str "path", .str "s")]])])]

/-- Two keys of the inputs fall together; the value of the later one stands in the place of the
first one. -/
theorem Definition.ofDocument_shortDocument :
    shortDocument.WellKeyed ∧ shortDocument.IsBare ∧
      Definition.longForm shortDocument = writtenOut ∧
      ofDocument writtenOut = ofDocument shortDocument ∧
      ofDocument shortDocument = .ok { id := "x", name := "X", search := some {
        paths := [{ path := "s" }], inputs := [("1", "true"), ("None", "2")]
        fields := [("title", { selector := "a" })] } } := by
  have hkeys : shortDocument.WellKeyed := by
    simp [shortDocument, WellKeyed, ValuesWellKeyed, Distinct, sameKey]
  have hbare : shortDocument.IsBare := by
    intro entries hentries
    obtain rfl := Document.map.inj hentries
    rfl
  have hlong : Definition.longForm shortDocument = writtenOut := by rfl
  exact ⟨hkeys, hbare, hlong, hlong ▸ ofDocument_longForm hkeys hbare, by rfl⟩

end TrackerSearch
