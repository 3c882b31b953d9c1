/-!
# Tables of code points

A property of characters is a list of disjoint ranges, written as hexadecimal numbers separated by
spaces. A case mapping is a list of runs along which the shift is constant.
-/
namespace TrackerSearch.Text

/-- The value of a hexadecimal digit. -/
def hexDigit? (c : Char) : Option Nat :=
  if '0' ≤ c ∧ c ≤ '9' then some (c.toNat - 48)
  else if 'A' ≤ c ∧ c ≤ 'F' then some (c.toNat - 55)
  else if 'a' ≤ c ∧ c ≤ 'f' then some (c.toNat - 87)
  else none

/-- The hexadecimal numbers in a text; any other character separates two of them. -/
def hexNumbers (s : List Char) : List Nat :=
  let (found, current) := s.foldr (fun c (found, current) =>
    match hexDigit? c, current with
    | some d, none => (found, some (d, 16))
    | some d, some (n, scale) => (found, some (n + d * scale, scale * 16))
    | none, none => (found, none)
    | none, some (n, _) => (n :: found, none)) (([] : List Nat), (none : Option (Nat × Nat)))
  match current with
  | none => found
  | some (n, _) => n :: found

/-- A set of code points, as disjoint ranges in increasing order. -/
structure CodeSet where
  ranges : Array (Nat × Nat)

namespace CodeSet

private def pairs : List Nat → List (Nat × Nat)
  | lo :: hi :: rest => (lo, hi) :: pairs rest
  | _ => []

/-- Read a set from its bounds: first and last code point of every range. -/
def ofBounds (text : String) : CodeSet := ⟨(pairs (hexNumbers text.toList)).toArray⟩

def contains (s : CodeSet) (n : Nat) : Bool := s.ranges.any fun (lo, hi) => lo ≤ n && n ≤ hi

end CodeSet

/-- The code points `first, first + step, …, last` go to `target, target + step, …`. -/
structure CodeRun where
  first : Nat
  last : Nat
  step : Nat
  target : Nat

/-- A mapping of code points that is the identity outside its runs. -/
structure CodeMap where
  runs : Array CodeRun

namespace CodeMap

def apply (m : CodeMap) (n : Nat) : Nat :=
  match m.runs.find? fun r => r.first ≤ n && n ≤ r.last && (n - r.first) % r.step == 0 with
  | some r => r.target + (n - r.first)
  | none => n

/-- The code points other than `n` itself that go to `n`. -/
def sources (m : CodeMap) (n : Nat) : List Nat :=
  m.runs.toList.filterMap fun r =>
    if r.target ≤ n && n - r.target ≤ r.last - r.first && (n - r.target) % r.step == 0 then
      some (r.first + (n - r.target))
    else none

end CodeMap

end TrackerSearch.Text
