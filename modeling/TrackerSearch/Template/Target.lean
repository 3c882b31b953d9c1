import TrackerSearch.Definition.Basic
import TrackerSearch.Template.Render
import TrackerSearch.Web.Link

/-!
# Where to search

The address of a search is the base link joined with the rendering of the first path that serves
the category. When there is no such path, or it cannot be rendered, the base link is used.
-/
namespace TrackerSearch.Template

/-- What the templates of a definition can refer to: the defaults of its settings, overlaid by the
configuration. -/
def bindingsFor (d : Definition) (config : Bindings) : Bindings :=
  Table.overlay (d.settingDefaults.map fun (k, v) => (k, some v)) config

/-- The address to fetch for a search. -/
def targetUrl (d : Definition) (keywords : Value) (config : Bindings) (fallback : String)
    (category : Option String) : Traced Failure (List Char) :=
  let base := d.baseLink.toList
  match d.firstPath? category with
  | none => pure base
  | some path => do
    let ctx : Context := { keywords, config := bindingsFor d config, fallback }
    match ← (render ctx path.path.toList).attempt with
    | .ok rendered => return Web.joinUrl base rendered
    | .error (.unresolved ..) =>
      Traced.report .templateUnresolvedFallback
      return base
    | .error e => throw e

end TrackerSearch.Template
