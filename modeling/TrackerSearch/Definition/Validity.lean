import TrackerSearch.Definition.Basic
import TrackerSearch.Failure
import TrackerSearch.Text.Blank

/-!
# Usable definitions

A definition can be used for a search if it has a base link, says how rows are found, has rules for
the title and the download link, and every field rule can produce a value.
-/
namespace TrackerSearch.Definition

open Text

/-- Fields without which there is no release. -/
def requiredFields : List String := ["title", "download"]

/-- Can a rule produce a value at all? -/
def canProduce (rule : SelectorRule) : Bool :=
  !rule.selector.isEmpty || rule.text.isSome || rule.default.isSome

/-- What is wrong with a definition, the first problem with its details. -/
def problem? (d : Definition) : Option (DefinitionProblem × String) :=
  if (trim d.baseLink.toList).isEmpty then some (.missingLinks, "")
  else
    match d.search with
    | none => some (.missingRowSelector, "")
    | some search =>
      if (trim search.rows.selector.toList).isEmpty then some (.missingRowSelector, "")
      else
        match requiredFields.find? fun name => (search.fields.lookup? name).isNone with
        | some name => some (.malformedField, s!"missing required field '{name}'")
        | none =>
          match search.fields.find? fun (_, rule) => !canProduce rule with
          | some (name, _) =>
            some (.malformedField, s!"field '{name}' has neither selector, text nor default")
          | none => none

/-- Refuse a definition that cannot be used for a search. -/
def check (d : Definition) : Except Failure Unit :=
  match d.problem? with
  | none => .ok ()
  | some (p, detail) => .error (.definition d.id p detail)

end TrackerSearch.Definition
