import TrackerSearch.Json.Basic
import TrackerSearch.Text.Quoted
import TrackerSearch.Time.Iso

/-!
# Decoded documents

What a YAML or JSON text stands for once it is decoded. Mappings keep their order and may have keys
of any scalar kind; two keys are the same if they are equal as values, so that a truth value
equals the number 0 or 1.
-/
namespace TrackerSearch

open Text Number

inductive Document where
  | null
  | bool (b : Bool)
  | int (n : Int)
  | float (x : Binary64)
  | str (s : String)
  | bytes (data : List UInt8)
  | date (year month day : Nat)
  /-- A point of time, with or without an offset from UTC. -/
  | moment (t : Time.Timestamp)
  | list (items : List Document)
  | set (items : List Document)
  | map (entries : List (Document × Document))
  deriving Repr, Inhabited

namespace Document

/-- Are two scalars the same key? -/
def sameKey : Document → Document → Bool
  | null, null => true
  | str a, str b => a == b
  | bytes a, bytes b => a == b
  | date a b c, date d e f => a == d && b == e && c == f
  | moment a, moment b => a == b
  | a, b =>
    let exact : Document → Option Int
      | bool b => some (if b then 1 else 0)
      | int n => some n
      | float x => x.toInt?
      | _ => none
    match exact a, exact b with
    | some m, some n => m == n
    | none, none =>
      match a, b with
      | float x, float y => Binary64.compare? x y == some .eq
      | _, _ => false
    | _, _ => false

/-- Put a value under a key: an equal key keeps its place and its form. -/
def insert (entries : List (Document × Document)) (key value : Document) :
    List (Document × Document) :=
  if entries.any fun (k, _) => sameKey k key then
    entries.map fun (k, v) => if sameKey k key then (k, value) else (k, v)
  else entries ++ [(key, value)]

/-- The value under a text key. -/
def find? (entries : List (Document × Document)) (key : String) : Option Document :=
  (entries.find? fun (k, _) => sameKey k (str key)).map (·.2)

/-- Does a value count as absent? -/
def isFalsy : Document → Bool
  | null => true
  | bool b => !b
  | int n => n == 0
  | float (.finite _ m _) => m == 0
  | float _ => false
  | str s => s.isEmpty
  | bytes data => data.isEmpty
  | date .. | moment _ => false
  | list items | set items => items.isEmpty
  | map entries => entries.isEmpty

mutual

def ofJson : Json → Document
  | .null => null
  | .bool b => bool b
  | .int n => int n
  | .float x => float x
  | .str s => str s
  | .arr items => list (ofItems items)
  | .obj members => map (ofMembers members)

def ofItems : List Json → List Document
  | [] => []
  | j :: rest => ofJson j :: ofItems rest

def ofMembers : List (String × Json) → List (Document × Document)
  | [] => []
  | (k, j) :: rest => (str k, ofJson j) :: ofMembers rest

end

/-! ## The text of a value -/

/-- A date as `YYYY-MM-DD`. -/
def dateText (year month day : Nat) : String :=
  String.ofList (Time.padded 4 year ++ '-' :: Time.padded 2 month ++ '-' :: Time.padded 2 day)

/-- A point of time with a blank before the time of day. -/
def momentText (t : Time.Timestamp) : String :=
  String.ofList (t.toIso.map fun c => if c = 'T' then ' ' else c)

/-- Bytes between quotes. -/
def bytesText (data : List UInt8) : String :=
  let chars := data.map fun b => Char.ofNat b.toNat
  let q := quoteFor chars
  let shown := chars.flatMap fun c =>
    if c.toNat < 128 then escaped q c else '\\' :: 'x' :: hexDigits 2 c.toNat
  String.ofList ('b' :: q :: shown ++ [q])

/-- A point of time as a nested value shows it. -/
def momentParts (t : Time.Timestamp) : String :=
  let time := if t.microsecond ≠ 0 then [t.hour, t.minute, t.second, t.microsecond]
    else if t.second ≠ 0 then [t.hour, t.minute, t.second]
    else [t.hour, t.minute]
  let parts := ([t.year, t.month, t.day] ++ time).map toString
  let zone := match t.offset with
    | none => []
    | some 0 => ["tzinfo=datetime.timezone.utc"]
    | some offset =>
      let seconds := offset / 1000000
      let days := seconds / 86400
      let inner := (if days ≠ 0 then [s!"days={days}"] else []) ++
        (if seconds % 86400 ≠ 0 then [s!"seconds={seconds % 86400}"] else [])
      ["tzinfo=datetime.timezone(datetime.timedelta(" ++ ", ".intercalate inner ++ "))"]
  "datetime.datetime(" ++ ", ".intercalate (parts ++ zone) ++ ")"

mutual

/-- A value as it is shown inside a container. -/
def shown : Document → String
  | null => "None"
  | bool b => if b then "True" else "False"
  | int n => toString n
  | float x => x.text
  | str s => quoted s
  | bytes data => bytesText data
  | date y m d => s!"datetime.date({y}, {m}, {d})"
  | moment t => momentParts t
  | list items => "[" ++ ", ".intercalate (shownItems items) ++ "]"
  | set [] => "set()"
  | set (j :: rest) => "\x7b" ++ ", ".intercalate (shown j :: shownItems rest) ++ "\x7d"
  | map entries => "\x7b" ++ ", ".intercalate (shownEntries entries) ++ "\x7d"

def shownItems : List Document → List String
  | [] => []
  | d :: rest => shown d :: shownItems rest

def shownEntries : List (Document × Document) → List String
  | [] => []
  | (k, v) :: rest => (shown k ++ ": " ++ shown v) :: shownEntries rest

end

/-- The text of a value by itself. -/
def text : Document → String
  | str s => s
  | date y m d => dateText y m d
  | moment t => momentText t
  | d => shown d

end Document

end TrackerSearch
