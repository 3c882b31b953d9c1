import TrackerSearch.Definition.Basic
import TrackerSearch.Document.Check

/-!
# Reading definitions

The schema of a definition document. Numbers and truth values are taken as text where text is
expected, a single value as a list of one, and several shorthands as what they stand for. Keys that
are not part of the schema are ignored.
-/
namespace TrackerSearch

open Text Document

/-- The kind of a document that wraps a definition as a resource. -/
def resourceKind : String := "Indexer"

namespace Document

/-- Numbers and truth values as text. -/
def scalarText : Document → Document
  | bool b => str (if b then "true" else "false")
  | int n => str (toString n)
  | float x => str x.text
  | d => d

/-- A list of scalars; nothing is the empty list, and a single value a list of one. -/
def scalarList : Document → Document
  | null => list []
  | list items => list (items.map scalarText)
  | d => list [scalarText d]

/-- A mapping of texts to scalars; nothing is the empty mapping, and no value the empty text. -/
def scalarMap : Document → Document
  | null => map []
  | map entries =>
    map (entries.foldl (fun acc (k, v) =>
      insert acc (str (scalarText k).text) (if v matches null then str "" else scalarText v)) [])
  | d => d

/-- Blanks around a word and its case do not count. -/
def foldWord : Document → Document
  | str s => str (String.ofList (lower (trim s.toList)))
  | d => d

def asStrings (d : Document) : Checked (List String) := asList asString d
def asStringTable (d : Document) : Checked (Table String) := asTable asString d

end Document

/-- Text without the blanks around it, or nothing if nothing else is left. -/
def blankToNone (s : Option String) : Option String :=
  match s with
  | none => none
  | some s => if (trim s.toList).isEmpty then none else some (stripped s)

def FilterSpec.read : Document → Checked FilterSpec :=
  asRecord "FilterBlock" fun fields =>
    (fun name args => ⟨.ofName name, args⟩)
      <$> required fields "name" "name" asString
      <*> orElse fields "args" "args" [] (fun d => asStrings (scalarList d))

def readFilters : Document → Checked (List FilterSpec) := asList FilterSpec.read

def SelectorRule.read : Document → Checked SelectorRule :=
  asRecord "SelectorBlock" fun fields =>
    (fun selector attr isOptional default cases remove text filters =>
      ⟨stripped selector, blankToNone attr, isOptional, default, cases, blankToNone remove, text,
        filters⟩)
      <$> orElse fields "selector" "selector" "" asString
      <*> orElse fields "attribute" "attribute" none (nullable asString)
      <*> orElse fields "optional" "optional" false asBool
      <*> orElse fields "default" "default" none (fun d => nullable asString (scalarText d))
      <*> orElse fields "case" "case" [] (fun d => asStringTable (scalarMap d))
      <*> orElse fields "remove" "remove" none (nullable asString)
      <*> orElse fields "text" "text" none (fun d => nullable asString (scalarText d))
      <*> orElse fields "filters" "filters" [] readFilters

/-- A number of rows to skip. -/
def readAfter (d : Document) : Checked Int :=
  (asInt d).andThen fun n =>
    if n < 0 then .mismatch "value_error" "Value error, rows.after must be >= 0" else .ok n

def RowRule.read : Document → Checked RowRule :=
  asRecord "RowsBlock" fun fields =>
    (fun selector after remove filters => ⟨stripped selector, after, remove, filters⟩)
      <$> orElse fields "selector" "selector" "" asString
      <*> orElse fields "after" "after" 0 readAfter
      <*> orElse fields "remove" "remove" none (nullable asString)
      <*> orElse fields "filters" "filters" [] readFilters

def Method.read (d : Document) : Checked Method :=
  oneOf [("get", Method.get), ("post", Method.post)] (foldWord d)

def SearchPath.read : Document → Checked SearchPath :=
  asRecord "SearchPathBlock" fun fields =>
    SearchPath.mk
      <$> required fields "path" "path" asString
      <*> orElse fields "method" "method" .get Method.read
      <*> orElse fields "categories" "categories" [] (fun d => asStrings (scalarList d))
      <*> orElse fields "inputs" "inputs" [] (fun d => asStringTable (scalarMap d))
      <*> orElse fields "inheritinputs" "inherit_inputs" true asBool
      <*> orElse fields "followredirect" "follow_redirect" false asBool

/-- A text in place of a field rule is its selector. -/
def expandFields : Document → Document
  | .map entries =>
    .map (entries.map fun (k, v) =>
      (k, match v with
        | .str s => .map [(.str "selector", .str s)]
        | v => v))
  | d => d

/-- A single path stands for a list of one, unless there is a list. -/
def pathsOf (path : Option String) (paths : List SearchPath) : List SearchPath :=
  match path with
  | some p => if p.isEmpty || !paths.isEmpty then paths else [{ path := p }]
  | none => paths

def SearchBlock.read : Document → Checked SearchBlock :=
  asRecord "SearchBlockModel" fun fields =>
    (fun path paths inputs keywordsFilters rows fields =>
      ⟨pathsOf path paths, inputs, keywordsFilters, rows, fields⟩)
      <$> orElse fields "path" "path" none (nullable asString)
      <*> orElse fields "paths" "paths" [] (asList SearchPath.read)
      <*> orElse fields "inputs" "inputs" [] (fun d => asStringTable (scalarMap d))
      <*> orElse fields "keywordsfilters" "keywords_filters" [] readFilters
      <*> orElse fields "rows" "rows" {} RowRule.read
      <*> orElse fields "fields" "fields" [] (fun d => asTable SelectorRule.read (expandFields d))

def DownloadRule.read : Document → Checked DownloadRule :=
  asRecord "DownloadBlockModel" fun fields =>
    (fun method selectors => ⟨selectors, method⟩)
      <$> orElse fields "method" "method" .get Method.read
      <*> orElse fields "selectors" "selectors" [] (asList SelectorRule.read)

def CategoryMapping.read : Document → Checked CategoryMapping :=
  asRecord "CategoryMappingModel" fun fields =>
    CategoryMapping.mk
      <$> required fields "id" "id" (fun d => asString (scalarText d))
      <*> required fields "cat" "cat" (fun d => asString (scalarText d))
      <*> orElse fields "desc" "desc" none (nullable asString)
      <*> orElse fields "default" "default" false asBool

def SearchModes.read : Document → Checked SearchModes :=
  asRecord "ModesModel" fun fields =>
    SearchModes.mk
      <$> orElse fields "search" "search" ["q"] asStrings
      <*> orElse fields "tv-search" "tv_search" [] asStrings
      <*> orElse fields "movie-search" "movie_search" [] asStrings
      <*> orElse fields "music-search" "music_search" [] asStrings
      <*> orElse fields "book-search" "book_search" [] asStrings

def Capabilities.read : Document → Checked Capabilities :=
  asRecord "CapsModel" fun fields =>
    Capabilities.mk
      <$> orElse fields "categories" "categories" [] (fun d => asStringTable (scalarMap d))
      <*> orElse fields "categorymappings" "category_mappings" [] (asList CategoryMapping.read)
      <*> orElse fields "modes" "modes" {} SearchModes.read
      <*> orElse fields "allowrawsearch" "allow_raw_search" false asBool

def SettingsField.read : Document → Checked SettingsField :=
  asRecord "SettingsFieldModel" fun fields =>
    SettingsField.mk
      <$> required fields "name" "name" asString
      <*> required fields "type" "type" asString
      <*> orElse fields "label" "label" none (nullable asString)
      <*> orElse fields "default" "default" none (fun d => nullable asString (scalarText d))
      <*> orElse fields "options" "options" [] (fun d => asStringTable (scalarMap d))

/-- The kind of captcha in a description of one. -/
def captchaKind (captcha : Option (Table Document)) : Option String :=
  match captcha.bind (·.lookup? "type") with
  | none | some .null => none
  | some d => some d.text

def LoginBlock.read : Document → Checked LoginBlock :=
  asRecord "LoginModel" fun fields =>
    (fun method path submitPath inputs captcha =>
      ⟨method, path, submitPath, inputs, captchaKind captcha⟩)
      <$> orElse fields "method" "method" none (nullable asString)
      <*> orElse fields "path" "path" none (nullable asString)
      <*> orElse fields "submitpath" "submit_path" none (nullable asString)
      <*> orElse fields "inputs" "inputs" [] (fun d => asStringTable (scalarMap d))
      <*> orElse fields "captcha" "captcha" none (nullable (asTable .ok))

/-- The links that hold more than blanks, without the blanks around them. -/
def cleanLinks (links : List String) : List String :=
  links.filterMap fun s => blankToNone (some s)

/-- A blank delay is none. -/
def dropBlank : Document → Document
  | .str s => if (trim s.toList).isEmpty then .null else .str s
  | d => d

def Access.read : Document → Checked Access :=
  oneOf [("public", Access.isPublic), ("semi-private", .semiPrivate), ("private", .isPrivate)]

/-- Read the fields of a definition. -/
def Definition.read : Document → Checked Definition :=
  asRecord "Definition" fun fields =>
    (fun id name description language access encoding links legacyLinks requestDelay followRedirect
        caps settings login search download =>
      ⟨stripped id, stripped name, cleanLinks links, description, language, access, encoding,
        cleanLinks legacyLinks, requestDelay, followRedirect, caps, settings, login, search,
        download⟩)
      <$> required fields "id" "id" asNonEmpty
      <*> required fields "name" "name" asNonEmpty
      <*> orElse fields "description" "description" none (nullable asString)
      <*> orElse fields "language" "language" "en-US" asString
      <*> orElse fields "type" "type" .isPublic Access.read
      <*> orElse fields "encoding" "encoding" "UTF-8" asString
      <*> orElse fields "links" "links" [] asStrings
      <*> orElse fields "legacylinks" "legacy_links" [] asStrings
      <*> orElse fields "requestDelay" "request_delay" none
        (fun d => nullable asNumber (dropBlank d))
      <*> orElse fields "followredirect" "follow_redirect" false asBool
      <*> orElse fields "caps" "caps" {} Capabilities.read
      <*> orElse fields "settings" "settings" [] (asList SettingsField.read)
      <*> orElse fields "login" "login" none (nullable LoginBlock.read)
      <*> orElse fields "search" "search" none (nullable SearchBlock.read)
      <*> orElse fields "download" "download" none (nullable DownloadRule.read)

/-! ## Resource documents -/

/-- Is a mapping a definition wrapped as a resource? -/
def isResource (entries : List (Document × Document)) : Bool :=
  (match find? entries "kind" with
    | some (.str s) => s == resourceKind
    | _ => false) && (find? entries "spec").isSome

/-- The definition inside a resource, checked as far as the wrapping goes. -/
def readResource (entries : List (Document × Document)) :
    Checked (Table Document × Table Document) :=
  (fun _ _ metadata spec => (metadata, spec))
    <$> required entries "apiVersion" "api_version" asString
    <*> required entries "kind" "kind" (oneOf [(resourceKind, ())])
    <*> orElse entries "metadata" "metadata" [] (asTable .ok)
    <*> required entries "spec" "spec" (asTable .ok)

/-- The bare definition in a mapping: the mapping itself, or what a resource wraps. The name of the
resource stands in for an identifier that is missing. -/
def unwrap (entries : List (Document × Document)) :
    Checked (List (Document × Document)) :=
  if isResource entries then
    (readResource entries).map fun (metadata, spec) =>
      let id := ((spec.lookup? "id").getD .null)
      let spec : List (Document × Document) := spec.map fun (k, v) => (.str k, v)
      match metadata.lookup? "name" with
      | some (.str name) => if id.isFalsy then insert spec (.str "id") (.str name) else spec
      | _ => spec
  else .ok entries

/-- The definition that a decoded document stands for. -/
def Definition.ofDocument (d : Document) : Except LoadCause Definition :=
  match d with
  | .null => .error .emptyDocument
  | .map entries =>
    (((unwrap entries).andThen fun entries => Definition.read (.map entries)).toExcept).mapError
      .mismatches
  | _ => .error .notAMapping

end TrackerSearch
