import TrackerSearch.Definition.Validity
import TrackerSearch.Json.Basic
import TrackerSearch.Probe
import TrackerSearch.Search.Selection
import TrackerSearch.Time.Iso

/-!
# Reports

How candidates, selections, probes and definitions are written down as JSON.
-/
namespace TrackerSearch

def Candidate.toJson (c : Candidate) : Json :=
  .obj [("title", .str c.title), ("magnet", .str c.magnet), ("indexer", .str c.indexer),
    ("size", .ofOption .str c.size), ("seeders", .int c.seeders), ("leechers", .int c.leechers),
    ("published_at", .ofOption (fun t => .str t.text) c.publishedAt),
    ("details", .ofOption .str c.details)]

namespace Search

def IndexerFailure.toJson (f : IndexerFailure) : Json :=
  .obj [("indexer", .str f.indexer), ("kind", .str f.kind.text),
    ("message", .ofOption .str f.message)]

def Selection.toJson (s : Selection) : Json :=
  .obj [("outcome", .str s.outcome.text), ("min_seeders", .int s.minSeeders),
    ("total_results", .int s.totalResults), ("selected", .ofOption Candidate.toJson s.selected),
    ("ranked", .arr (s.ranked.map Candidate.toJson)),
    ("failures", .arr (s.failures.map IndexerFailure.toJson))]

end Search

/-- The members of a finding without its times. -/
def ProbeFinding.members (f : ProbeFinding) : List (String × Json) :=
  [("indexer", .str f.indexer), ("healthy", .bool f.isHealthy), ("reason", .str f.reason),
    ("target_url", .ofOption .str f.targetUrl), ("http_status", .ofOption .int f.httpStatus),
    ("via_relay", .bool f.viaRelay)]

def ProbeFinding.toJson (f : ProbeFinding) : Json := .obj f.members

/-- A probe with its times; the duration is rounded to tenths. -/
def ProbeResult.toJson (p : ProbeResult) : Json :=
  .obj (p.finding.members ++ [("checked_at", .str p.startedAt.text),
    ("duration_ms", .float p.duration.roundTenths)])

/-- A definition as a list of definitions shows it. -/
def Definition.summary (d : Definition) : Json :=
  .obj [("id", .str d.id), ("name", .str d.name), ("type", .str d.access.text),
    ("links", .arr (d.links.map .str)), ("wants_relay", .bool d.wantsRelay)]

end TrackerSearch
