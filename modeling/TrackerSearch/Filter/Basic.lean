import TrackerSearch.Text.Blank
import TrackerSearch.Text.Letter

/-!
# Filters by name

A definition may chain string filters from a closed catalog. A name outside of it is kept as it was
written.
-/
namespace TrackerSearch

inductive FilterName where
  | reReplace
  | replace
  | trim
  | prepend
  | append
  | toLower
  | toUpper
  | split
  | regexp
  | queryString
  | urlDecode
  | urlEncode
  deriving Repr, DecidableEq

namespace FilterName

/-- The catalog. -/
def all : List FilterName :=
  [reReplace, replace, trim, prepend, append, toLower, toUpper, split, regexp, queryString,
    urlDecode, urlEncode]

/-- The name in definitions. -/
def text : FilterName → String
  | reReplace => "re_replace"
  | replace => "replace"
  | trim => "trim"
  | prepend => "prepend"
  | append => "append"
  | toLower => "tolower"
  | toUpper => "toupper"
  | split => "split"
  | regexp => "regexp"
  | queryString => "querystring"
  | urlDecode => "urldecode"
  | urlEncode => "urlencode"

/-- The filter that a name stands for; blanks around it and its case do not count. -/
def lookup? (raw : String) : Option FilterName :=
  all.find? fun f => f.text.toList == Text.lower (Text.trim raw.toList)

end FilterName

/-- A name in a filter chain: one of the catalog, or one that is unknown. -/
inductive FilterKind where
  | known (name : FilterName)
  | unknown (raw : String)
  deriving Repr, DecidableEq

def FilterKind.ofName (raw : String) : FilterKind :=
  match FilterName.lookup? raw with
  | some f => .known f
  | none => .unknown raw

/-- The name as definitions write it. -/
def FilterKind.text : FilterKind → String
  | .known f => f.text
  | .unknown raw => raw

/-- One filter with its arguments. -/
structure FilterSpec where
  kind : FilterKind
  args : List String := []
  deriving Repr, DecidableEq

end TrackerSearch
