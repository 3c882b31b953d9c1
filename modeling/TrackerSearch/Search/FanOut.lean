import TrackerSearch.Number.Binary64
import TrackerSearch.Search.Selection
import TrackerSearch.Definition.Basic

/-!
# Searches side by side

A fan-out is where the searches of several definitions are and how many places for searches are
free. A search that begins takes a place, one that ends gives its place back. What is in the slots
when the fan-out is over becomes the results, in the order of the definitions.
-/
namespace TrackerSearch.Search

open Number

/-- How a deadline is called. -/
def deadlineText (deadline : Option Binary64) : String :=
  "deadline of " ++ ((deadline.map (·.text)).getD "None") ++ "s exceeded"

/-- What the search of a definition contributes: its candidates, or why it has none. -/
abbrev Contribution := Except IndexerFailure (List Candidate)

/-- How a search of a definition that has ended counts. -/
inductive Answer where
  | found (cs : List Candidate)
  | failed (f : IndexerFailure)
  /-- The search has ended without any answer. -/
  | nothing
  deriving Repr, DecidableEq

/-- Where the search of a definition is. -/
inductive Slot where
  | waiting
  | searching
  | ended (answer : Answer)
  deriving Repr, DecidableEq

namespace Slot

/-- The search has not ended. -/
def isOpen : Slot → Bool
  | waiting | searching => true
  | ended _ => false

/-- What a slot contributes when the fan-out is over. -/
def contribution (deadline : Option Binary64) (d : Definition) : Slot → Contribution
  | ended (.found cs) => .ok cs
  | ended (.failed f) => .error f
  | waiting | searching | ended .nothing =>
    .error ⟨d.id, .cancelled, some (deadlineText deadline)⟩

end Slot

/-- The free places, and where each search is. -/
structure FanOut where
  free : Nat
  slots : List Slot
  deriving Repr, DecidableEq

namespace FanOut

/-- No search has begun. -/
def initial (places searches : Nat) : FanOut := ⟨places, List.replicate searches .waiting⟩

/-- A search that waits takes a free place. -/
def start? (f : FanOut) (i : Nat) : Option FanOut :=
  if 0 < f.free ∧ f.slots[i]? = some .waiting then some ⟨f.free - 1, f.slots.set i .searching⟩
  else none

/-- A search that goes on ends and gives its place back. -/
def finish? (f : FanOut) (i : Nat) (answer : Answer) : Option FanOut :=
  if f.slots[i]? = some .searching then some ⟨f.free + 1, f.slots.set i (.ended answer)⟩
  else none

/-- Let a search begin, if there is a free place, and end if it has an answer. One without an answer
keeps its place. -/
def serve (f : FanOut) (i : Nat) (answer : Option Answer) : FanOut :=
  match f.start? i with
  | none => f
  | some begun => (answer.bind (begun.finish? i)).getD begun

/-- Some search has not ended. -/
def isOpen (f : FanOut) : Bool := f.slots.any (·.isOpen)

/-- What the searches contribute. As long as one is open there is nothing without a deadline; with
one, the open searches are given up. -/
def contributions? (deadline : Option Binary64) (ds : List Definition) (f : FanOut) :
    Option (List Contribution) :=
  if f.isOpen && deadline.isNone then none
  else some (List.zipWith (fun d slot => slot.contribution deadline d) ds f.slots)

end FanOut

/-- The candidates that have been found, in order. -/
def mergedCandidates (results : List Contribution) : List Candidate :=
  results.flatMap fun r => r.toOption.getD []

/-- The failures, in order. -/
def failuresOf (results : List Contribution) : List IndexerFailure :=
  results.filterMap fun
    | .error f => some f
    | .ok _ => none

@[simp] theorem failuresOf_nil : failuresOf [] = [] := rfl

@[simp] theorem failuresOf_ok_cons (cs : List Candidate) (results : List Contribution) :
    failuresOf (.ok cs :: results) = failuresOf results := rfl

@[simp] theorem failuresOf_error_cons (f : IndexerFailure) (results : List Contribution) :
    failuresOf (.error f :: results) = f :: failuresOf results := rfl

/-- The selection from what the searches have contributed. -/
def selectionOf (minSeeders : Int) (results : List Contribution) : Selection :=
  let ranked := rank (mergedCandidates results)
  let selected := select ranked minSeeders
  { outcome := if ranked.isEmpty then .noResults
      else if selected.isNone then .belowThreshold else .found
    ranked, selected, minSeeders, failures := failuresOf results }

end TrackerSearch.Search
