import TrackerSearch.Dialogue
import TrackerSearch.Search.FanOut

/-!
# Searching many sites

An aggregated search runs the searches of several definitions side by side, a limited number at a
time, and puts their candidates together in the order of the definitions. A search that fails, or
that has not ended by the deadline, contributes a failure instead; it never ends the whole search.
-/
namespace TrackerSearch.Search

open Number

/-- What a failure means for an aggregated search. A crash is a failure that no search is supposed
to have. -/
structure Trouble where
  kind : FailureKind
  message : Option String
  isCrash : Bool
  deriving Repr, DecidableEq

/-- Searching single sites, whatever they are asked and however they fail. A search may end without
any answer. -/
structure Searcher (Q A ε : Type) where
  search : Definition → String → Option String → Dialogue Q A ε (Option (List Candidate))
  resolve : Definition → Candidate → Dialogue Q A ε Candidate
  trouble : ε → Trouble

/-- How a search ends. -/
abbrev SearchEnding (ε : Type) := Ending ε (Option (List Candidate))

/-- A request that cannot be answered. -/
inductive BadRequest where
  | negativeSeeders (n : Int)
  | noDefinitions
  deriving Repr, DecidableEq

def BadRequest.message : BadRequest → String
  | negativeSeeders n => s!"min_seeders must be >= 0, got {n}"
  | noDefinitions => "no indexer definitions to search"

/-- Why an aggregated search has no answer. -/
inductive Refusal (ε : Type) where
  | badRequest (reason : BadRequest)
  | crashed (e : ε)
  deriving Repr

/-- What is searched for, and how. -/
structure Query where
  keywords : String
  minSeeders : Int := 0
  category : Option String := none
  /-- The identifiers of the definitions to search; all of them if there is none. -/
  only : List String := []
  resolveDownload : Bool := false
  maxConcurrent : Int := 5
  deadline : Option Binary64 := none

namespace Searcher

variable {Q A ε ε' : Type}

/-- The event that a failed search is reported by. -/
def failureEvent (t : Trouble) : Event :=
  if t.isCrash then .indexerSearchCrashed else .indexerSearchFailed

/-- How an ending counts; not at all if the search does not end. -/
def answer? (s : Searcher Q A ε) (d : Definition) : SearchEnding ε → Option Answer
  | .done (some cs) => some (.found cs)
  | .done none => some .nothing
  | .failed e => some (.failed ⟨d.id, (s.trouble e).kind, (s.trouble e).message⟩)
  | .waiting => none

/-- Report how a search has ended. -/
def reportEnding (s : Searcher Q A ε) : SearchEnding ε → Dialogue Q A ε' Unit
  | .failed e => Dialogue.report (failureEvent (s.trouble e))
  | _ => pure ()

/-- Search by a definition up to the end, if there is a free place. -/
def advance (s : Searcher Q A ε) (q : Query) (f : FanOut) (i : Nat) (d : Definition) :
    Dialogue Q A ε' FanOut :=
  if (f.start? i).isNone then return f
  else do
    let ending ← (s.search d q.keywords q.category).attempt
    s.reportEnding ending
    return f.serve i (s.answer? d ending)

/-- Let the searches of definitions begin one after another, the first one at slot `i`. -/
def fanOut (s : Searcher Q A ε) (q : Query) (f : FanOut) :
    Nat → List Definition → Dialogue Q A ε' FanOut
  | _, [] => pure f
  | i, d :: ds => do s.fanOut q (← s.advance q f i d) (i + 1) ds

end Searcher

namespace Query

/-- The places for searches that run at the same time; there is always one. -/
def places (q : Query) : Nat := max 1 q.maxConcurrent.toNat

/-- The definitions that are searched. -/
def chosen (q : Query) (ds : List Definition) : List Definition :=
  if q.only.isEmpty then ds else ds.filter fun d => q.only.contains d.id

/-- Is the query one that can be answered? -/
def check (q : Query) (ds : List Definition) : Except BadRequest Unit :=
  if q.minSeeders < 0 then .error (.negativeSeeders q.minSeeders)
  else if (q.chosen ds).isEmpty then .error .noDefinitions
  else .ok ()

end Query

namespace Searcher

variable {Q A ε : Type}

/-- What all searches contribute by the deadline. -/
def results (s : Searcher Q A ε) (q : Query) (ds : List Definition) :
    Dialogue Q A (Refusal ε) (List Contribution) := do
  let f ← s.fanOut q (.initial q.places ds.length) 0 ds
  match f.contributions? q.deadline ds with
  | none => Dialogue.waitForever
  | some results =>
    if f.isOpen then Dialogue.report .deadlineExceeded
    return results

/-- Look up the download link of the selected candidate through the definition that it comes
from. Without success the selection stays as it is. -/
def resolveSelected (s : Searcher Q A ε) (ds : List Definition) (found : Selection) :
    Dialogue Q A (Refusal ε) Selection :=
  match found.selected with
  | none => return found
  | some c =>
    match ds.find? (·.id == c.indexer) with
    | none => return found
    | some d => do
      match ← (s.resolve d c).attempt with
      | .done resolved => return { found with
          selected := some resolved
          ranked := replaceSelected found.ranked found.minSeeders resolved }
      | .waiting => Dialogue.waitForever
      | .failed e =>
        if (s.trouble e).isCrash then Dialogue.fail (.crashed e)
        Dialogue.report .downloadResolutionFailed
        return found

/-- Search several sites and select the best candidate. -/
def aggregate (s : Searcher Q A ε) (q : Query) (ds : List Definition) :
    Dialogue Q A (Refusal ε) Selection := do
  Dialogue.ofExcept ((q.check ds).mapError .badRequest)
  let chosen := q.chosen ds
  let found := selectionOf q.minSeeders (← s.results q chosen)
  let found ← if q.resolveDownload then s.resolveSelected chosen found else pure found
  Dialogue.report .aggregatedSearchCompleted
  return found

end Searcher
end TrackerSearch.Search
