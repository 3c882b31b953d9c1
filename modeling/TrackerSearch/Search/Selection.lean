import TrackerSearch.Candidate

/-!
# Ranking and selection

Candidates are ranked by their seeders, the most first; candidates with equally many stay in their
order. The first one that has enough seeders is selected.
-/
namespace TrackerSearch.Search

/-- What kept a definition from contributing candidates. -/
inductive FailureKind where
  | definition
  | network
  | relay
  | parse
  | cancelled
  | unexpected
  deriving Repr, DecidableEq

def FailureKind.text : FailureKind → String
  | definition => "definition"
  | network => "network"
  | relay => "relay"
  | parse => "parse"
  | cancelled => "cancelled"
  | unexpected => "unexpected"

/-- Why one definition contributed no candidates; an unexpected failure has no wording. -/
structure IndexerFailure where
  indexer : String
  kind : FailureKind
  message : Option String
  deriving Repr, DecidableEq

inductive Outcome where
  | found
  | noResults
  | belowThreshold
  deriving Repr, DecidableEq

def Outcome.text : Outcome → String
  | found => "found"
  | noResults => "no_results"
  | belowThreshold => "below_threshold"

/-- The outcome with a name. -/
def Outcome.ofText? (s : String) : Option Outcome :=
  [found, noResults, belowThreshold].find? (·.text == s)

/-- The answer to an aggregated search. -/
structure Selection where
  outcome : Outcome
  ranked : List Candidate := []
  selected : Option Candidate := none
  minSeeders : Int := 0
  failures : List IndexerFailure := []
  deriving Repr, DecidableEq

def Selection.totalResults (s : Selection) : Nat := s.ranked.length

def Selection.isFound (s : Selection) : Bool := s.outcome = .found

/-- Candidates by seeders, the most first. -/
def rank (cs : List Candidate) : List Candidate := cs.mergeSort fun a b => b.seeders ≤ a.seeders

/-- Does a candidate have enough seeders? -/
def hasEnough (minSeeders : Int) (c : Candidate) : Bool := minSeeders ≤ c.seeders

/-- The first candidate with enough seeders. -/
def select (ranked : List Candidate) (minSeeders : Int) : Option Candidate :=
  ranked.find? (hasEnough minSeeders)

/-- Put another candidate in the place of the selected one. -/
def replaceSelected (ranked : List Candidate) (minSeeders : Int) (c : Candidate) : List Candidate :=
  match ranked.findIdx? (hasEnough minSeeders) with
  | some i => ranked.set i c
  | none => ranked

end TrackerSearch.Search
