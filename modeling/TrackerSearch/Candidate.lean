import TrackerSearch.Time.Timestamp

/-!
# Candidates

A candidate is a release that was found: what it is called, where it can be downloaded and what else
its row on the page says.
-/
namespace TrackerSearch

structure Candidate where
  title : String
  magnet : String
  indexer : String
  size : Option String := none
  seeders : Int := 0
  leechers : Int := 0
  publishedAt : Option Time.Timestamp := none
  details : Option String := none
  deriving Repr, DecidableEq

/-- Is the download link a magnet link? -/
def Candidate.isMagnet (c : Candidate) : Bool := "magnet:".isPrefixOf c.magnet

end TrackerSearch
