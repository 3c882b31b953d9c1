import TrackerSearch.Definition.Basic
import TrackerSearch.Filter.Apply
import TrackerSearch.Selector.Match
import TrackerSearch.Selector.Parse

/-!
# Reading a value off a page

A rule selects an element and reads its text or one of its attributes. Where nothing is found the
default of the rule stands, as it is; a value that is found goes through the table of cases and then
through the filters.
-/
namespace TrackerSearch.Page

open Text Html

/-- A selector of a field as a condition. -/
def selectorOf (text : String) : Except Failure Selector :=
  match Selector.parse text with
  | .ok s => .ok s
  | .error .malformed => .error (.unreadableFragment (.badSelector text))
  | .error .noSuchChar => .error (.fault .badValue)

/-- The element that a rule reads from; an empty selector stands for the fragment itself. -/
def target? (fragment : Place) (selector : String) : Except Failure (Option Place) :=
  if selector.isEmpty then .ok (some fragment)
  else do return fragment.selectFirst? (← selectorOf selector)

/-- The paths, inside an element, of the elements that a selector describes in a copy of it. -/
def doomedPaths (e : Element) (s : Selector) : List (List Nat) :=
  ((Place.mk e []).select s).map (·.path)

/-- An element without those below it that a selector describes. -/
def without (e : Element) (s : Selector) : Element :=
  let doomed := doomedPaths e s
  e.prune doomed.contains

/-- The text of an element without the blanks around it, or the value of an attribute; one that is
a set of words stays as it is. -/
def readValue? (e : Element) (name : Option String) : Option (List Char) :=
  match name with
  | none => some (trim e.text.toList)
  | some name =>
    match e.attr? name with
    | none => none
    | some (.single v) => some (trim v.toList)
    | some v => some v.text.toList

/-- What a rule finds before cases and filters, `none` where the default stands. -/
def rawValue? (fragment : Place) (rule : SelectorRule) : Except Failure (Option (List Char)) :=
  match rule.selector.isEmpty, rule.text with
  | true, some text => .ok (some text.toList)
  | _, _ => do
    match ← target? fragment rule.selector with
    | none => return none
    | some found =>
      let e ←
        match rule.remove.filter (!·.isEmpty) with
        | none => pure found.here
        | some remove => do pure (without found.here (← selectorOf remove))
      return readValue? e rule.attr

/-- The value behind the table of cases. -/
def throughCases (cases : Table String) (value : List Char) : List Char :=
  ((cases.lookup? (String.ofList value)).map (·.toList)).getD value

/-- The value that a rule reads from a fragment; it is missing after a filter that says so. -/
def extract (fragment : Place) (rule : SelectorRule) : Traced Failure (Option (List Char)) := do
  match ← Traced.ofExcept (rawValue? fragment rule) with
  | none => return some (rule.default.getD "").toList
  | some value =>
    (Filter.applyAll rule.filters (some (throughCases rule.cases value))).mapError .fault

end TrackerSearch.Page
