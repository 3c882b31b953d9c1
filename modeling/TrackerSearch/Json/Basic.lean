import TrackerSearch.Number.Binary64

/-!
# JSON values

Objects keep the order of their members; integers are exact and apart from floating-point numbers.
-/
namespace TrackerSearch

inductive Json where
  | null
  | bool (b : Bool)
  | int (n : Int)
  | float (x : Number.Binary64)
  | str (s : String)
  | arr (items : List Json)
  | obj (members : List (String × Json))
  deriving Repr, Inhabited

/-- Put a value under a key: an existing key keeps its place, a new one comes last. -/
def insertKey {α β : Type} [BEq α] (members : List (α × β)) (key : α) (value : β) :
    List (α × β) :=
  if members.any (·.1 == key) then
    members.map fun (k, v) => if k == key then (k, value) else (k, v)
  else members ++ [(key, value)]

namespace Json

/-- The value of a member; nothing for other values than objects. -/
def get? (j : Json) (key : String) : Option Json :=
  match j with
  | obj members => (members.find? (·.1 == key)).map (·.2)
  | _ => none

def str? : Json → Option String
  | str s => some s
  | _ => none

def bool? : Json → Option Bool
  | bool b => some b
  | _ => none

def int? : Json → Option Int
  | int n => some n
  | _ => none

def arr? : Json → Option (List Json)
  | arr items => some items
  | _ => none

def obj? : Json → Option (List (String × Json))
  | obj members => some members
  | _ => none

def ofOption {α : Type} (f : α → Json) : Option α → Json
  | none => null
  | some a => f a

end Json

end TrackerSearch
