import TrackerSearch.Web.Reference

/-!
# Links of a site

A definition names its site by a base link; pages refer to documents by absolute links, by paths,
or by network references that lack only the scheme.
-/
namespace TrackerSearch.Web

open TrackerSearch.Text

/-- How an absolute link starts, ignoring case. -/
def absoluteLeads : List (List Char) := ["http://".toList, "https://".toList, "magnet:".toList]

/-- An `http`, `https` or `magnet` link. -/
def isAbsoluteLink (value : List Char) : Bool :=
  absoluteLeads.any fun lead => startsWith lead (lower value)

/-- Drop one slash at the end. -/
def dropFinalSlash (s : List Char) : List Char := if s.getLast? = some '/' then s.dropLast else s

/-- Put a path behind a base with exactly one slash between them. -/
def joinUrl (base path : List Char) : List Char :=
  let base := dropFinalSlash base
  if path.head? = some '/' then base ++ path else base ++ '/' :: path

/-- The link that a value found on a page stands for; `none` when the base or the value names a
host that cannot be read. -/
def resolveLink? (base value : List Char) : Option (List Char) :=
  if value.isEmpty ∨ isAbsoluteLink value then some value
  else if startsWith ['/', '/'] value then Reference.join? base value
  else some (joinUrl base value)

end TrackerSearch.Web
