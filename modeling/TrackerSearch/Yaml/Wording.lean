import TrackerSearch.Text.Quoted
import TrackerSearch.Yaml.Read

/-!
# The wording of refused values

A document is made level by level, the nodes of each level in their order. The first text that is to
be a number or a time and is none is told in the words of its kind.
-/
namespace TrackerSearch.Yaml

open TrackerSearch.Text TrackerSearch.Number

/-- The most characters of a numeral that are shown. -/
def shownNumeral : Nat := 200

def badNumeral (base : Nat) (s : List Char) : String :=
  s!"invalid literal for int() with base {base}: " ++
    String.ofList ((quoted (String.ofList s)).toList.take shownNumeral)

/-- What is wrong with a part that is to be a decimal numeral. -/
def badDecimal (s : List Char) : String :=
  let digits := ((withoutSign (trimBy isMargin s)).takeWhile isDigit).length
  if digits ≤ maxDigits then badNumeral 10 s
  else s!"Exceeds the limit ({maxDigits} digits) for integer string conversion: value has " ++
    s!"{digits} digits; use sys.set_int_max_str_digits() to increase the limit"

/-- The first of the parts between colons that is not readable. -/
def firstBad {α : Type} (read? : List Char → Option α) (s : List Char) : List Char :=
  ((splitBy (· == ':') s).find? fun part => (read? part).isNone).getD s

def badInt (text : String) : String :=
  match withoutSign (text.toList.filter (· ≠ '_')) with
  | '0' :: 'b' :: r => badNumeral 2 r
  | '0' :: 'x' :: r => badNumeral 16 r
  | '0' :: r => badNumeral 8 ('0' :: r)
  | s => badDecimal (firstBad readInt? s)

def badFloat (text : String) : String :=
  let s := withoutSign (lower (text.toList.filter (· ≠ '_')))
  "could not convert string to float: " ++ quoted (String.ofList (firstBad decimal? s))

/-- A difference of times, in minutes, as messages show it. -/
def minutesText (minutes : Int) : String :=
  let seconds := minutes % 1440 * 60
  s!"datetime.timedelta(days={minutes / 1440}" ++
    (if seconds = 0 then "" else s!", seconds={seconds}") ++ ")"

/-- What is wrong with a point of time; an offset is looked at first. -/
def badMoment (p : MomentParts) : String :=
  let number (s : List Char) : Nat := (inBase? 10 s).getD 0
  let minutes : Int := match p.offset with
    | none => 0
    | some (negative, h, m) => (if negative then -1 else 1) * ((number h * 60 + number m : Nat) : Int)
  let (hour, minute) := match p.clock with
    | none => (0, 0)
    | some (hour, minute, _, _) => (number hour, number minute)
  if 1440 ≤ minutes.natAbs then
    "offset must be a timedelta strictly between -timedelta(hours=24) and timedelta(hours=24), " ++
      s!"not {minutesText minutes}."
  else if number p.year = 0 then "year 0 is out of range"
  else if number p.month < 1 ∨ 12 < number p.month then "month must be in 1..12"
  else if ¬ Time.ValidDate (number p.year) (number p.month) (number p.day) then
    "day is out of range for month"
  else if 23 < hour then "hour must be in 0..23"
  else if 59 < minute then "minute must be in 0..59"
  else "second must be in 0..59"

/-- What is said of a scalar whose text is not acceptable for its kind. -/
def refusal? (tag : Tag) (text : String) : Option String :=
  match scalarValue tag text with
  | .error (.badValue .badValue) =>
    match tag with
    | .int => some (badInt text)
    | .float => some (badFloat text)
    | _ => (momentParts? text.toList).map badMoment
  | _ => none

/-- The nodes that a collection is made of; other nodes are made of none. -/
def children : Node → List Node
  | .sequence .sequence items => items
  | .mapping .mapping entries | .mapping .set entries =>
    match flattened (sizeOfEntries entries + 1) entries with
    | .ok entries => entries.flatMap fun (k, v) => [k, v]
    | .error _ => []
  | .sequence .pairs items | .sequence .orderedPairs items =>
    items.flatMap fun
      | .mapping _ [(k, v)] => [k, v]
      | _ => []
  | _ => []

/-- What is said of a node itself. -/
def nodeRefusal? (n : Node) : Option String :=
  let tag := match n with
    | .scalar tag _ | .sequence tag _ | .mapping tag _ => tag
  (scalarText? n.size n).bind (refusal? tag)

/-- The first thing that is said of some nodes or of what they are made of; `fuel` bounds the
depth. -/
def levelRefusal? : Nat → List Node → Option String
  | 0, _ => none
  | fuel + 1, nodes =>
    match nodes.findSome? nodeRefusal? with
    | some message => some message
    | none => levelRefusal? fuel (nodes.flatMap children)

/-- What is said of a text with a value that is not acceptable. -/
def wording (text : List Char) : String :=
  match (rowOf text).root with
  | .ok (some root) => (levelRefusal? root.size [root]).getD ""
  | .ok none => ""
  | .error _ => "chr() arg not in range(0x110000)"

end TrackerSearch.Yaml
