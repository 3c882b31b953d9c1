import TrackerSearch.Candidate
import TrackerSearch.Number.Integer
import TrackerSearch.Page.Extract
import TrackerSearch.Page.Source
import TrackerSearch.Time.Iso
import TrackerSearch.Web.Link

/-!
# Rows of a result page

The rows of a page are found by a selector, less the removed and the skipped ones. Every field is
read off a row; a row without a title or a download link is no candidate.
-/
namespace TrackerSearch.Page

open Text Html

/-- Fields that are links. -/
def linkFields : List String := ["download", "details"]

/-- Fields that hold the date, the first one with a value counts. -/
def dateFields : List String := ["date", "publishdate"]

/-- A rule for a link reads the target of the link if it does not name an attribute. -/
def linkRule (rule : SelectorRule) : SelectorRule :=
  if rule.attr.isNone && !rule.selector.isEmpty then { rule with attr := some "href" } else rule

/-- The rule by which a field is read. -/
def fieldRule (name : String) (rule : SelectorRule) : SelectorRule :=
  if linkFields.contains name then linkRule rule else rule

/-- A selector of the rows as a condition; what is reported is the selector of the rows. -/
def rowSelectorOf (rows : RowRule) (text : String) : Except Failure Selector :=
  match Selector.parse text with
  | .ok s => .ok s
  | .error .malformed => .error (.unreadableFragment (.badRowSelector rows.selector))
  | .error .noSuchChar => .error (.fault .badValue)

/-- The rows of a page. -/
def locateRows (page : Place) (rows : RowRule) : Except Failure (List Place) := do
  let found := page.select (← rowSelectorOf rows rows.selector)
  let removed ←
    match rows.remove.filter (!·.isEmpty) with
    | none => pure []
    | some remove => do pure ((page.select (← rowSelectorOf rows remove)).map (·.path))
  return (found.filter fun row => !removed.contains row.path).drop rows.after.toNat

/-- The values of the fields of one row. -/
abbrev RowValues := List (String × Option (List Char))

/-- Read the fields of a row in order. -/
def extractFields (row : Place) : List (String × SelectorRule) → Traced Failure RowValues
  | [] => pure []
  | (name, rule) :: rest => do
    let value ← extract row (fieldRule name rule)
    return (name, value) :: (← extractFields row rest)

/-- The value of a field; a field without a rule is empty. -/
def fieldValue (values : RowValues) (name : String) : Option (List Char) :=
  ((values.find? (·.1 == name)).map (·.2)).getD (some [])

/-- The text of a field without the blanks around it. -/
def fieldText (values : RowValues) (name : String) : Except Failure (List Char) :=
  match fieldValue values name with
  | some v => .ok (trim v)
  | none => .error (.fault .wrongType)

/-- A link as an absolute one. -/
def resolved (base value : List Char) : Except Failure (List Char) :=
  match Web.resolveLink? base value with
  | some link => .ok link
  | none => .error (.fault .badValue)

/-- A text that is not empty. -/
def nonEmpty? (s : List Char) : Option String := if s.isEmpty then none else some (String.ofList s)

/-- The count in a field. -/
def fieldCount (values : RowValues) (name : String) : Int :=
  match fieldValue values name with
  | some v => Number.countOfText 0 v
  | none => 0

/-- The candidate of a row, if it is one. -/
def toCandidate (d : Definition) (values : RowValues) : Except Failure (Option Candidate) := do
  let base := d.baseLink.toList
  let title ← fieldText values "title"
  let magnet ← resolved base (← fieldText values "download")
  if title.isEmpty || magnet.isEmpty then return none
  let details ← resolved base (← fieldText values "details")
  let published := dateFields.findSome? fun name =>
    (fieldValue values name).filter (!·.isEmpty)
  return some {
    title := String.ofList title
    magnet := String.ofList magnet
    indexer := d.id
    size := (fieldValue values "size").bind nonEmpty?
    seeders := fieldCount values "seeders"
    leechers := fieldCount values "leechers"
    publishedAt := published.bind fun s => Time.timestampOf (String.ofList s)
    details := nonEmpty? details }

/-- The candidates of rows in order. -/
def candidatesOf (d : Definition) (fields : Table SelectorRule) :
    List Place → Traced Failure (List Candidate)
  | [] => pure []
  | row :: rest => do
    let values ← extractFields row fields
    let found ← Traced.ofExcept (toCandidate d values)
    return found.toList ++ (← candidatesOf d fields rest)

/-- The candidates on a result page. -/
def parseRows (d : Definition) (page : Source) : Traced Failure (List Candidate) :=
  match d.search.filter (!·.rows.selector.isEmpty) with
  | none => throw (.definition d.id .missingRowSelector "")
  | some search => do
    let top ← Traced.ofExcept (page.read (some d.encoding))
    let rows ← Traced.ofExcept (locateRows top search.rows)
    let found ← candidatesOf d search.fields rows
    Traced.report .rowsParsed
    return found

/-- The first link that one of the rules yields. -/
def firstLink (base : List Char) (page : Place) : List SelectorRule → Traced Failure (List Char)
  | [] => throw .linkNotFound
  | rule :: rest => do
    match ← extract page (linkRule rule) with
    | none => throw (.fault .wrongType)
    | some v =>
      let value := trim v
      if value.isEmpty then firstLink base page rest
      else Traced.ofExcept (resolved base value)

/-- The download link on a details page. -/
def parseDetails (base : List Char) (selectors : List SelectorRule) (page : Source) :
    Traced Failure (List Char) := do
  let top ← Traced.ofExcept (page.read none)
  firstLink base top selectors

end TrackerSearch.Page
