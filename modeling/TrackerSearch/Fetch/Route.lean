import TrackerSearch.Fetch.Relay
import TrackerSearch.Definition.Validity
import TrackerSearch.Page.Source

/-!
# The way to a page

Pages of a definition are fetched through the relay if that is asked for, or if the definition
wants it and nothing is said; without a relay, every page is fetched from its site.
-/
namespace TrackerSearch.Fetch

open Http

/-- The means to fetch pages. -/
structure Means where
  client : Client
  relay : Option Relay
  deriving Repr

/-- A way to fetch pages. -/
inductive Route where
  | direct (client : Client)
  | relay (r : Relay)
  deriving Repr

def Route.viaRelay : Route → Bool
  | direct _ => false
  | relay _ => true

/-- The route to the pages of a definition. -/
def Means.routeFor (m : Means) (d : Definition) (useRelay : Option Bool) : Traced Failure Route :=
  if !useRelay.getD d.wantsRelay then pure (.direct m.client)
  else
    match m.relay with
    | some r => pure (.relay r)
    | none => do
      if useRelay = some true then Traced.report .relayNotConfigured
      return .direct m.client

/-- Fetch a page. A site gives bytes; a relay gives text that is decoded already. -/
def Route.fetch (route : Route) (url : List Char) (method : String) (inputs : Table String) :
    Online Failure Page.Source :=
  match route with
  | .direct client => do return .bytes (← Fetch.direct client url method inputs)
  | .relay r => do return .text (← Fetch.relayed r url method inputs).toList

end TrackerSearch.Fetch
