import TrackerSearch.Fetch.Route
import TrackerSearch.Template.Target
import TrackerSearch.Time.Timestamp

/-!
# Probing sites

A probe fetches the address of a search without keywords once. A site is healthy if the fetch
succeeds; what goes wrong with the fetch is the reason why it is not.
-/
namespace TrackerSearch

open Http

/-- What a probe finds, apart from its times. -/
structure ProbeFinding where
  indexer : String
  isHealthy : Bool
  targetUrl : Option String := none
  reason : String := ""
  httpStatus : Option Int := none
  viaRelay : Bool := false
  deriving Repr, DecidableEq

/-- A probe with its times. -/
structure ProbeResult where
  finding : ProbeFinding
  startedAt : Time.Timestamp
  /-- In milliseconds. -/
  duration : Number.Binary64

/-- How sites are probed. -/
structure Prober where
  means : Fetch.Means
  config : Template.Bindings := []
  fallback : String := "guest"

namespace Prober

/-- What a failed fetch tells about a site; other failures tell nothing. -/
def unhealthy? (d : Definition) (target : List Char) (viaRelay : Bool) :
    Failure → Option ProbeFinding
  | .network _ message status =>
    some ⟨d.id, false, some (String.ofList target), message, status, viaRelay⟩
  | .relay message _ => some ⟨d.id, false, some (String.ofList target), message, none, viaRelay⟩
  | _ => none

/-- Probe the site of a definition. -/
def probe (p : Prober) (d : Definition) (useRelay : Option Bool) : Online Failure ProbeFinding :=
  if d.links.isEmpty then return ⟨d.id, false, none, "No links defined", none, false⟩
  else do
    let target ← Dialogue.ofTraced (Template.targetUrl d (some []) p.config p.fallback none)
    let route ← Dialogue.ofTraced (p.means.routeFor d useRelay)
    match ← (route.fetch target "GET" []).attempt with
    | .done _ => return ⟨d.id, true, some (String.ofList target), "", none, route.viaRelay⟩
    | .waiting => Dialogue.waitForever
    | .failed e =>
      match unhealthy? d target route.viaRelay e with
      | none => Dialogue.fail e
      | some finding =>
        Dialogue.report .probeUnhealthy
        return finding

/-- How a probe ends. -/
abbrev Probed := Ending Failure ProbeFinding

/-- Probe one site up to the end. -/
def probeOne (p : Prober) (useRelay : Option Bool) (d : Definition) : Online Failure Probed :=
  Dialogue.attempt (do
    let finding ← p.probe d useRelay
    Dialogue.report .probeDone
    return finding : Online Failure ProbeFinding)

/-- Probe sites while there are free places; a probe that does not end keeps its place. -/
def probeEach (p : Prober) (useRelay : Option Bool) :
    Nat → List Definition → Online Failure (List Probed)
  | _, [] => pure []
  | 0, ds => pure (ds.map fun _ => .waiting)
  | free + 1, d :: ds => do
    let probed ← p.probeOne useRelay d
    let rest ← p.probeEach useRelay (match probed with
      | .waiting => free
      | _ => free + 1) ds
    return probed :: rest

/-- The findings if all probes have one; otherwise the first failure, and without one the probes
wait. -/
def findingsOf : List Probed → Ending Failure (List ProbeFinding)
  | [] => .done []
  | probed :: rest =>
    match probed, findingsOf rest with
    | .failed e, _ => .failed e
    | _, .failed e => .failed e
    | .done f, .done fs => .done (f :: fs)
    | _, _ => .waiting

/-- Probe sites side by side; of several probes under one identifier the last one counts, at the
place of the first. -/
def probeAll (p : Prober) (ds : List Definition) (concurrency : Int) (useRelay : Option Bool) :
    Online Failure (Table ProbeFinding) := do
  if concurrency < 0 then Dialogue.fail (.fault .badValue)
  match findingsOf (← p.probeEach useRelay concurrency.toNat ds) with
  | .failed e => Dialogue.fail e
  | .waiting => Dialogue.waitForever
  | .done found =>
    return (ds.zip found).foldl (fun table (d, f) => insertKey table d.id f) []

end Prober
end TrackerSearch
