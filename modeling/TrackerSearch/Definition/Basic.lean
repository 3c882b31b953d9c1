import TrackerSearch.Filter.Basic
import TrackerSearch.Number.Binary64

/-!
# Definitions of indexers

A definition says where a site is, how to ask it for releases, and where on its pages the parts of a
release stand. Mappings keep the order in which they were written.
-/
namespace TrackerSearch

/-- A mapping with distinct keys, in order. -/
abbrev Table (α : Type) := List (String × α)

/-- The value of a key. -/
def Table.lookup? {α : Type} (t : Table α) (key : String) : Option α :=
  (t.find? (·.1 == key)).map (·.2)

/-- The entries of `t` with those of `u` laid over them: shared keys keep their place. -/
def Table.overlay {α : Type} (t u : Table α) : Table α :=
  u.foldl (fun acc (k, v) =>
    if acc.any (·.1 == k) then acc.map fun (k', v') => if k' == k then (k, v) else (k', v')
    else acc ++ [(k, v)]) t

/-- How one value is read off a page. -/
structure SelectorRule where
  selector : String := ""
  /-- The attribute to read; the text of the element if there is none. -/
  attr : Option String := none
  isOptional : Bool := false
  default : Option String := none
  /-- Values that are replaced by others before the filters run. -/
  cases : Table String := []
  /-- What to leave out of the text. -/
  remove : Option String := none
  /-- A fixed value, used when there is no selector. -/
  text : Option String := none
  filters : List FilterSpec := []
  deriving Repr, DecidableEq

/-- How the rows of a result page are found. -/
structure RowRule where
  selector : String := ""
  /-- How many rows to skip. -/
  after : Int := 0
  remove : Option String := none
  filters : List FilterSpec := []
  deriving Repr, DecidableEq

inductive Method where
  | get
  | post
  deriving Repr, DecidableEq

def Method.text : Method → String
  | .get => "get"
  | .post => "post"

/-- The name on the wire. -/
def Method.wire : Method → String
  | .get => "GET"
  | .post => "POST"

/-- A path to search under, as a template. -/
structure SearchPath where
  path : String
  method : Method := .get
  categories : List String := []
  inputs : Table String := []
  inheritInputs : Bool := true
  followRedirect : Bool := false
  deriving Repr, DecidableEq

/-- Does a path serve a category? Without a category every path does, and so does a path without
categories. -/
def SearchPath.appliesTo (p : SearchPath) : Option String → Bool
  | none => true
  | some category => p.categories.isEmpty || p.categories.contains category

structure SearchBlock where
  paths : List SearchPath := []
  inputs : Table String := []
  keywordsFilters : List FilterSpec := []
  rows : RowRule := {}
  fields : Table SelectorRule := []
  deriving Repr, DecidableEq

/-- The first path that serves a category. -/
def SearchBlock.firstPath? (s : SearchBlock) (category : Option String) : Option SearchPath :=
  s.paths.find? (·.appliesTo category)

/-- How a download link is found on a details page. -/
structure DownloadRule where
  selectors : List SelectorRule := []
  method : Method := .get
  deriving Repr, DecidableEq

structure CategoryMapping where
  id : String
  cat : String
  desc : Option String := none
  default : Bool := false
  deriving Repr, DecidableEq

structure SearchModes where
  search : List String := ["q"]
  tvSearch : List String := []
  movieSearch : List String := []
  musicSearch : List String := []
  bookSearch : List String := []
  deriving Repr, DecidableEq

structure Capabilities where
  categories : Table String := []
  categoryMappings : List CategoryMapping := []
  modes : SearchModes := {}
  allowRawSearch : Bool := false
  deriving Repr, DecidableEq

structure SettingsField where
  name : String
  type : String
  label : Option String := none
  default : Option String := none
  options : Table String := []
  deriving Repr, DecidableEq

/-- A description of the login, carried along only. -/
structure LoginBlock where
  method : Option String := none
  path : Option String := none
  submitPath : Option String := none
  inputs : Table String := []
  captchaType : Option String := none
  deriving Repr, DecidableEq

/-- Who may use a site. -/
inductive Access where
  | isPublic
  | semiPrivate
  | isPrivate
  deriving Repr, DecidableEq

def Access.text : Access → String
  | .isPublic => "public"
  | .semiPrivate => "semi-private"
  | .isPrivate => "private"

structure Definition where
  id : String
  name : String
  links : List String := []
  description : Option String := none
  language : String := "en-US"
  access : Access := .isPublic
  encoding : String := "UTF-8"
  legacyLinks : List String := []
  requestDelay : Option Number.Binary64 := none
  followRedirect : Bool := false
  caps : Capabilities := {}
  settings : List SettingsField := []
  login : Option LoginBlock := none
  search : Option SearchBlock := none
  download : Option DownloadRule := none
  deriving Repr, DecidableEq

namespace Definition

/-- The first link, under which the site is addressed. -/
def baseLink (d : Definition) : String := d.links.headD ""

/-- A setting of this type asks for the relay. -/
def relaySetting : String := "info_flaresolverr"

def wantsRelay (d : Definition) : Bool := d.settings.any (·.type == relaySetting)

/-- The default values of the settings that have one; a later setting of a name counts. -/
def settingDefaults (d : Definition) : Table String :=
  d.settings.foldl (fun acc s =>
    match s.default with
    | some v => Table.overlay acc [(s.name, v)]
    | none => acc) []

/-- The path that a search in a category uses. -/
def firstPath? (d : Definition) (category : Option String) : Option SearchPath :=
  d.search.bind (·.firstPath? category)

end Definition

end TrackerSearch
