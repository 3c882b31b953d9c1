import TrackerSearch.Fetch.Route
import TrackerSearch.Filter.Apply
import TrackerSearch.Page.Rows
import TrackerSearch.Template.Target

/-!
# Searching one site

A search renders the address and the inputs of a definition, fetches the page of results and reads
its rows. The download link of a candidate may have to be looked up on a page of its own.
-/
namespace TrackerSearch.Search

open Text Http

/-- How sites are searched. -/
structure Engine where
  means : Fetch.Means
  config : Template.Bindings := []
  /-- Stands in for configuration values that nobody provides. -/
  fallback : String := "guest"
  /-- Whether the relay is used; if nothing is said, each definition decides. -/
  useRelay : Option Bool := none

namespace Engine

/-- The templates of the inputs that go with a path. -/
def inputTemplates (search : SearchBlock) (path : SearchPath) : Table String :=
  if path.inheritInputs then search.inputs.overlay path.inputs else path.inputs

/-- What templates of a definition can refer to. -/
def context (e : Engine) (d : Definition) (keywords : Template.Value) : Template.Context where
  keywords := keywords
  config := Template.bindingsFor d e.config
  fallback := e.fallback
  encode := false

/-- Render inputs one by one; those that cannot be rendered are reported and left out. -/
def renderInputs (ctx : Template.Context) : Table String → Traced Failure (Table String)
  | [] => pure []
  | (name, template) :: rest => do
    match ← (Template.render ctx template.toList).attempt with
    | .ok value => return (name, String.ofList value) :: (← renderInputs ctx rest)
    | .error (.unresolved ..) =>
      Traced.report .searchInputUnresolved
      renderInputs ctx rest
    | .error failure => throw failure

/-- The inputs of a search by a path. -/
def queryInputs (e : Engine) (d : Definition) (search : SearchBlock) (path : SearchPath)
    (keywords : Template.Value) : Traced Failure (Table String) :=
  renderInputs (e.context d keywords) (inputTemplates search path)

/-- What a search asks for. -/
structure Plan where
  route : Fetch.Route
  url : List Char
  method : Method
  inputs : Table String

/-- Work out what to ask for. -/
def plan (e : Engine) (d : Definition) (keywords : String) (category : Option String) :
    Traced Failure Plan := do
  Traced.ofExcept d.check
  match d.search with
  | none => throw (.definition d.id .missingRowSelector "")
  | some search =>
    let path := search.firstPath? category
    let filtered ←
      (Filter.applyAll search.keywordsFilters (some keywords.toList)).mapError Failure.fault
    let url ← Template.targetUrl d filtered e.config e.fallback category
    let inputs ← match path with
      | some path => e.queryInputs d search path filtered
      | none => pure []
    let route ← e.means.routeFor d e.useRelay
    Traced.report .searchStarted
    return { route, url, method := (path.map (·.method)).getD .get, inputs }

/-- Search the site of a definition. -/
def search (e : Engine) (d : Definition) (keywords : String) (category : Option String) :
    Online Failure (List Candidate) := do
  let plan ← Dialogue.ofTraced (e.plan d keywords category)
  let page ← plan.route.fetch plan.url plan.method.wire plan.inputs
  let found ← Dialogue.ofTraced (Page.parseRows d page)
  Dialogue.report .searchCompleted
  return found

/-- The page on which the download link of a candidate is looked up. -/
def detailsPage? (c : Candidate) : Option String :=
  match c.details.filter (!·.isEmpty) with
  | some page => some page
  | none => if c.isMagnet || c.magnet.isEmpty then none else some c.magnet

/-- Put the link from its page in the place of a candidate's link. -/
def resolveDownload (e : Engine) (d : Definition) (c : Candidate) : Online Failure Candidate :=
  match d.download.filter (!·.selectors.isEmpty), detailsPage? c with
  | some rule, some page => do
    let route ← Dialogue.ofTraced (e.means.routeFor d e.useRelay)
    let source ← route.fetch page.toList rule.method.wire []
    let link ← Dialogue.ofTraced (Page.parseDetails d.baseLink.toList rule.selectors source)
    Dialogue.report .downloadResolved
    return { c with magnet := String.ofList link }
  | _, _ => return c

end Engine
end TrackerSearch.Search
