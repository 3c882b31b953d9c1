import TrackerSearch.Failure
import TrackerSearch.Filter.Basic
import TrackerSearch.Number.Integer
import TrackerSearch.Regex.Replacement
import TrackerSearch.Trace
import TrackerSearch.Web.Percent
import TrackerSearch.Web.Reference

/-!
# Applying filters

A filter takes a text to a text. The text is missing after a `regexp` whose first group took no part
in the match; most filters are then not defined. A filter whose arguments are missing or bad is
reported and leaves the value as it was.
-/
namespace TrackerSearch.Filter

open TrackerSearch.Text TrackerSearch.Web

/-- The argument at a position. -/
def arg (args : List String) (n : Nat) : Except Fault (List Char) :=
  match args[n]? with
  | some a => .ok a.toList
  | none => .error .outOfRange

/-- A value that has to be there. -/
def present : Option (List Char) → Except Fault (List Char)
  | some v => .ok v
  | none => .error .wrongType

/-- The element at an index; negative ones count from the end. -/
def pick {α : Type} (items : List α) (index : Int) : Except Fault α :=
  let at? := if 0 ≤ index then items[index.toNat]?
    else if items.length < index.natAbs then none else items[items.length - index.natAbs]?
  match at? with
  | some a => .ok a
  | none => .error .outOfRange

/-- Replace the matches of a pattern. The pattern and the replacement are checked before the value
is looked at. -/
def reReplace (value : Option (List Char)) (args : List String) : Except Fault (List Char) := do
  let pattern ← arg args 0
  let replacement ← arg args 1
  let p ← (Regex.Pattern.compile pattern).mapError Fault.ofPattern
  let pieces ← (p.readPieces (Regex.expandReferences replacement)).mapError Fault.ofPattern
  return p.replaceMatches pieces (← present value)

/-- The piece of a text at an index, by default the first. -/
def splitPiece (value : List Char) (args : List String) : Except Fault (List Char) := do
  let sep ← arg args 0
  if sep.isEmpty then throw .badValue
  let index ←
    match args[1]? with
    | none => pure 0
    | some a =>
      match Number.readInt? a.toList with
      | some n => pure n
      | none => throw .badValue
  pick (splitOn sep value) index

/-- The first group of the first match of a pattern, or the whole match if there is no group. -/
def firstMatch (value : Option (List Char)) (args : List String) :
    Except Fault (Option (List Char)) := do
  let p ← (Regex.Pattern.compile (← arg args 0)).mapError Fault.ofPattern
  let text ← present value
  match p.search text with
  | none => return some []
  | some m => return m.group? text (if p.groups = 0 then 0 else 1)

/-- The first value of a key in the query of a link; no value for a key is empty. -/
def queryValue (value : Option (List Char)) (args : List String) : Except Fault (List Char) := do
  let pairs ←
    match value with
    | none => pure []
    | some v =>
      match Reference.split? [] v with
      | some r => pure (queryPairs r.query)
      | none => throw .badValue
  let key ← arg args 0
  return ((pairs.find? (·.1 == key)).map (·.2)).getD []

/-- What a filter makes of a value. -/
def evaluate (f : FilterName) (args : List String) (value : Option (List Char)) :
    Except Fault (Option (List Char)) :=
  match f with
  | .reReplace => do return some (← reReplace value args)
  | .replace => do
    let v ← present value
    return some (replaceAll (← arg args 0) (← arg args 1) v)
  | .trim => do
    let v ← present value
    match args with
    | [] => return some (Text.trim v)
    | chars :: _ => return some (trimBy chars.toList.contains v)
  | .prepend => do
    let lead ← arg args 0
    return some (lead ++ (← present value))
  | .append => do
    let tail ← arg args 0
    return some ((← present value) ++ tail)
  | .toLower => do return some (lower (← present value))
  | .toUpper => do return some (upper (← present value))
  | .split => do return some (← splitPiece (← present value) args)
  | .regexp => firstMatch value args
  | .queryString => do return some (← queryValue value args)
  | .urlDecode => do return some (formDecode (← present value))
  | .urlEncode => do return some (formEncode (← present value))

/-- Faults of a filter that are reported and leave the value as it was. -/
def isForgiven : Fault → Bool
  | .outOfRange | .badValue | .badPattern | .unencodable => true
  | .wrongType | .tooLarge | .unknownKey => false

/-- Apply one filter. -/
def apply (spec : FilterSpec) (value : Option (List Char)) : Traced Fault (Option (List Char)) :=
  match spec.kind with
  | .unknown _ => ⟨.ok value, [.filterUnknown]⟩
  | .known f =>
    match evaluate f spec.args value with
    | .ok v => pure v
    | .error e => if isForgiven e then ⟨.ok value, [.filterFailed]⟩ else throw e

/-- Apply a chain of filters in order. -/
def applyAll : List FilterSpec → Option (List Char) → Traced Fault (Option (List Char))
  | [], value => pure value
  | spec :: rest, value => do applyAll rest (← apply spec value)

/-- The value after each filter of a chain. -/
def stages : List FilterSpec → Option (List Char) → Traced Fault (List (Option (List Char)))
  | [], _ => pure []
  | spec :: rest, value => do
    let value ← apply spec value
    return value :: (← stages rest value)

end TrackerSearch.Filter
