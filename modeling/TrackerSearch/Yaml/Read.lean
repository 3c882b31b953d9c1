import TrackerSearch.Yaml.Node

/-!
# Documents

The value of a tree: scalars by their kinds, mappings with the entries that they take over from
others in front of their own. Keys are values that can be compared.
-/
namespace TrackerSearch.Yaml

open TrackerSearch

/-- The entries of a mapping, with those that it takes over in front; `fuel` bounds the depth of
taking over. -/
def flattened : Nat → List (Node × Node) → Result (List (Node × Node))
  | 0, _ => refuse
  | fuel + 1, entries => do
    let taken ← entries.filterMapM fun (k, v) => do
      match k with
      | .scalar .merge _ | .sequence .merge _ | .mapping .merge _ =>
        match v with
        | .mapping _ inner => return some (← flattened fuel inner)
        | .sequence _ items =>
          let inner ← items.mapM fun n =>
            match n with
            | .mapping _ inner => flattened fuel inner
            | _ => refuse
          return some (inner.reverse.flatten)
        | .scalar .. => refuse
      | _ => return none
    let own := entries.filterMap fun (k, v) =>
      match k with
      | .scalar .merge _ | .sequence .merge _ | .mapping .merge _ => none
      | .scalar .value text => some (.scalar .str text, v)
      | k => some (k, v)
    return taken.flatten ++ own

/-- Can a value be a key? -/
def canBeKey : Document → Bool
  | .list _ | .set _ | .map _ => false
  | _ => true

/-- The text of a scalar, or of the value that a mapping stands for; `fuel` bounds the depth. -/
def scalarText? : Nat → Node → Option String
  | 0, _ => none
  | _ + 1, .scalar _ text => some text
  | fuel + 1, .mapping _ entries =>
    (entries.find? fun (k, _) =>
      match k with
      | .scalar .value _ | .sequence .value _ | .mapping .value _ => true
      | _ => false).bind fun (_, v) => scalarText? fuel v
  | _ + 1, .sequence .. => none

mutual

/-- The value of a node; `fuel` bounds the depth of the tree. -/
def valueOf : Nat → Node → Result Document
  | 0, _ => refuse
  | fuel + 1, n => do
    let tag := match n with
      | .scalar tag _ | .sequence tag _ | .mapping tag _ => tag
    match tag, n with
    | .mapping, .mapping _ entries =>
      return .map (← entriesOf fuel (← flattened (fuel + 1) entries) [])
    | .set, .mapping _ entries =>
      return .set ((← entriesOf fuel (← flattened (fuel + 1) entries) []).map (·.1))
    | .sequence, .sequence _ items => return .list (← itemsOf fuel items)
    | .pairs, .sequence _ items | .orderedPairs, .sequence _ items =>
      return .list (← pairsOf fuel items)
    | .mapping, _ | .set, _ | .sequence, _ | .pairs, _ | .orderedPairs, _ => refuse
    | tag, n =>
      match scalarText? (fuel + 1) n with
      | some text => scalarValue tag text
      | none => refuse

def itemsOf : Nat → List Node → Result (List Document)
  | _, [] => .ok []
  | 0, _ :: _ => refuse
  | fuel + 1, n :: rest => do return (← valueOf fuel n) :: (← itemsOf fuel rest)

/-- The entries of a mapping laid over those before them. -/
def entriesOf : Nat → List (Node × Node) → List (Document × Document) →
    Result (List (Document × Document))
  | _, [], acc => .ok acc
  | 0, _ :: _, _ => refuse
  | fuel + 1, (k, v) :: rest, acc => do
    let key ← valueOf fuel k
    if canBeKey key then entriesOf fuel rest (Document.insert acc key (← valueOf fuel v))
    else refuse

/-- Mappings with one entry each, as pairs. -/
def pairsOf : Nat → List Node → Result (List Document)
  | _, [] => .ok []
  | 0, _ :: _ => refuse
  | fuel + 1, n :: rest => do
    match n with
    | .mapping _ [(k, v)] =>
      let pair := Document.list [← valueOf fuel k, ← valueOf fuel v]
      return pair :: (← pairsOf fuel rest)
    | _ => refuse

end

mutual

/-- The number of nodes in a tree. -/
def Node.size : Node → Nat
  | .scalar .. => 1
  | .sequence _ items => 1 + sizeOfItems items
  | .mapping _ entries => 1 + sizeOfEntries entries

def sizeOfItems : List Node → Nat
  | [] => 0
  | n :: rest => 1 + n.size + sizeOfItems rest

def sizeOfEntries : List (Node × Node) → Nat
  | [] => 0
  | (k, v) :: rest => 1 + k.size + v.size + sizeOfEntries rest

end

/-- Read the only document of a text; without any it is null. -/
def read (text : List Char) : Result Document := do
  match ← (rowOf text).root with
  | none => return .null
  | some n => valueOf (n.size + 1) n

end TrackerSearch.Yaml
