import TrackerSearch.Search.Aggregate
import TrackerSearch.Search.Engine

/-!
# Searching many sites on the network

The failures of searches on the network, sorted by what they mean for an aggregated search.
-/
namespace TrackerSearch

open Http

/-- Is a failure one of those that are expected of sites, pages and definitions? -/
def Failure.isExpected : Failure → Bool
  | .fault _ => false
  | _ => true

namespace Search

/-- What kept a search from its candidates. -/
def failureKind : Failure → FailureKind
  | .definition .. | .unresolved .. => .definition
  | .relay .. => .relay
  | .network .. => .network
  | .unreadableDocument | .unreadableFragment _ | .linkNotFound => .parse
  | .load _ | .notFound _ | .duplicate _ | .fault _ => .unexpected

/-- What a failure means for an aggregated search. -/
def troubleOf (e : Failure) : Trouble where
  kind := failureKind e
  message := if failureKind e = .unexpected then none else e.message?
  isCrash := !e.isExpected

/-- Searching sites on the network. -/
def Engine.searcher (e : Engine) :
    Searcher Request (Except TransportFault Response) Failure where
  search d keywords category := do return some (← e.search d keywords category)
  resolve := e.resolveDownload
  trouble := troubleOf

end Search
end TrackerSearch
