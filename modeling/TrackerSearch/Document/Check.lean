import TrackerSearch.Document.Basic
import TrackerSearch.Failure
import TrackerSearch.Number.Integer
import TrackerSearch.Text.Blank
import TrackerSearch.Text.Utf8

/-!
# Checking documents

A check takes a document to a value or to the list of places that do not fit. Checks of several
parts all run, and what does not fit is listed in the order of the parts. Scalars are read
leniently: numbers from text, truth values from the usual words, text from bytes.
-/
namespace TrackerSearch

open Text Number

/-- A value, or what does not fit. -/
inductive Checked (α : Type) where
  | ok (a : α)
  | bad (problems : List Mismatch)
  deriving Repr

namespace Checked

variable {α β : Type}

/-- One place that does not fit, here. -/
def mismatch (kind message : String) : Checked α := .bad [⟨[], kind, message⟩]

def map (f : α → β) : Checked α → Checked β
  | .ok a => .ok (f a)
  | .bad ps => .bad ps

/-- Apply a function to a value; both sides are checked. -/
def ap (f : Checked (α → β)) (a : Unit → Checked α) : Checked β :=
  match f, a () with
  | .ok f, .ok a => .ok (f a)
  | .ok _, .bad ps => .bad ps
  | .bad ps, .ok _ => .bad ps
  | .bad ps, .bad qs => .bad (ps ++ qs)

instance : Applicative Checked where
  pure := .ok
  map := map
  seq := ap

/-- Go on only with a value. -/
def andThen (x : Checked α) (f : α → Checked β) : Checked β :=
  match x with
  | .ok a => f a
  | .bad ps => .bad ps

/-- What does not fit lies one step further down. -/
def under (step : Step) : Checked α → Checked α
  | .ok a => .ok a
  | .bad ps => .bad (ps.map fun p => { p with path := step :: p.path })

/-- All values of a list. -/
def all : List (Checked α) → Checked (List α)
  | [] => .ok []
  | x :: rest => List.cons <$> x <*> all rest

def toExcept : Checked α → Except (List Mismatch) α
  | .ok a => .ok a
  | .bad ps => .error ps

end Checked

namespace Document

/-! ## Scalars -/

/-- A text. -/
def asString : Document → Checked String
  | str s => .ok s
  | bytes data =>
    match utf8Decode? data with
    | some s => .ok (String.ofList s)
    | none => .mismatch "string_unicode"
        "Input should be a valid string, unable to parse raw data as a unicode string"
  | _ => .mismatch "string_type" "Input should be a valid string"

/-- A text of at least one character. -/
def asNonEmpty (d : Document) : Checked String :=
  d.asString.andThen fun s =>
    if s.isEmpty then .mismatch "string_too_short" "String should have at least 1 character"
    else .ok s

/-- The words for the truth values. -/
def boolWord? (s : String) : Option Bool :=
  let w := asciiFold s
  if ["true", "yes", "on", "t", "y", "1"].contains w then some true
  else if ["false", "no", "off", "f", "n", "0"].contains w then some false
  else none
where
  asciiFold (s : String) : String := s.map Char.toLower

def badBool : Checked Bool := .mismatch "bool_type" "Input should be a valid boolean"

def unknownBool : Checked Bool :=
  .mismatch "bool_parsing" "Input should be a valid boolean, unable to interpret input"

def boolOfInt (n : Int) : Checked Bool :=
  if n = 0 then .ok false else if n = 1 then .ok true else unknownBool

/-- Whole numbers of floating point that are read as integers. -/
def fitsWord (n : Int) : Bool := n.natAbs < 0x8000000000000000

/-- A truth value. -/
def asBool : Document → Checked Bool
  | bool b => .ok b
  | int n => boolOfInt n
  | float x =>
    match x.toInt? with
    | some n => if fitsWord n then boolOfInt n else badBool
    | none => badBool
  | str s => match boolWord? s with
    | some b => .ok b
    | none => unknownBool
  | bytes data =>
    match (utf8Decode? data).bind fun s => boolWord? (String.ofList s) with
    | some b => .ok b
    | none => unknownBool
  | _ => badBool

/-- White space of the Unicode standard, without the information separators. -/
def isSpace (c : Char) : Bool := isBlank c && !(28 ≤ c.toNat && c.toNat ≤ 31)

/-- Drop single underscores between other characters; `none` when there is nothing to drop or the
underscores stand elsewhere. -/
def dropUnderscores? (s : List Char) : Option (List Char) :=
  let doubled := (s.zip (s.drop 1)).any fun (a, b) => a == '_' && b == '_'
  if s.head? = some '_' ∨ s.getLast? = some '_' ∨ !s.contains '_' ∨ doubled then none
  else some (s.filter (· != '_'))

/-- The integer of a text: an optional sign, ASCII digits, and possibly a point with zeros. -/
def integerText? (s : List Char) : Option Int :=
  let s := trimBy isSpace s
  let s := (dropUnderscores? s).getD s
  let (negative, s) := match s with
    | '-' :: s => (true, s)
    | '+' :: s => (false, s)
    | s => (false, s)
  let digits := s.takeWhile isAsciiDigit
  let tailOk := match s.dropWhile isAsciiDigit with
    | [] => true
    | '.' :: zeros => zeros.all (· == '0')
    | _ => false
  if digits.isEmpty ∨ !tailOk then none
  else
    let n : Int := digits.foldl (fun n c => n * 10 + (c.toNat - 48)) 0
    some (if negative then -n else n)

def badInt : Checked Int :=
  .mismatch "int_parsing" "Input should be a valid integer, unable to parse string as an integer"

def hugeInt : Checked Int :=
  .mismatch "int_parsing_size"
    "Unable to parse input string as an integer, exceeded maximum size"

def intOfText (s : List Char) : Checked Int :=
  if maxDigits < s.length then hugeInt
  else
    match integerText? s with
    | some n => .ok n
    | none => badInt

/-- An integer. -/
def asInt : Document → Checked Int
  | bool b => .ok (if b then 1 else 0)
  | int n => .ok n
  | float (.finite negative m e) =>
    match Binary64.toInt? (.finite negative m e) with
    | some n => if fitsWord n then .ok n else hugeInt
    | none => .mismatch "int_from_float"
        "Input should be a valid integer, got a number with a fractional part"
  | float _ => .mismatch "finite_number" "Input should be a finite number"
  | str s => intOfText s.toList
  | bytes data => match utf8Decode? data with
    | some s => intOfText s
    | none => badInt
  | _ => .mismatch "int_type" "Input should be a valid integer"

/-- The number of a text: decimal notation with an optional exponent, or a name. -/
def numberText? (s : List Char) : Option Binary64 :=
  let (negative, s) := match s with
    | '-' :: s => (true, s)
    | '+' :: s => (false, s)
    | s => (false, s)
  let word := String.ofList (s.map Char.toLower)
  if word = "inf" ∨ word = "infinity" then some (.infinite negative)
  else if word = "nan" then some .nan
  else
    let whole := s.takeWhile isAsciiDigit
    let s := s.dropWhile isAsciiDigit
    let (fraction, s) := match s with
      | '.' :: s => (s.takeWhile isAsciiDigit, s.dropWhile isAsciiDigit)
      | s => ([], s)
    if whole.isEmpty ∧ fraction.isEmpty then none
    else
      let value (ds : List Char) : Nat := ds.foldl (fun n c => n * 10 + (c.toNat - 48)) 0
      let number (power : Int) : Binary64 :=
        Binary64.ofDecimal negative (value (whole ++ fraction)) (power - fraction.length)
      match s with
      | [] => some (number 0)
      | e :: s =>
        if e = 'e' ∨ e = 'E' then
          let (down, s) := match s with
            | '-' :: s => (true, s)
            | '+' :: s => (false, s)
            | s => (false, s)
          if s.isEmpty ∨ !s.all isAsciiDigit then none
          else some (number (if down then -(value s : Int) else value s))
        else none

def badNumber : Checked Binary64 :=
  .mismatch "float_parsing" "Input should be a valid number, unable to parse string as a number"

def numberOfText (s : List Char) : Checked Binary64 :=
  let s := trimBy isSpace s
  match numberText? s with
  | some x => .ok x
  | none =>
    match (dropUnderscores? s).bind numberText? with
    | some x => .ok x
    | none => badNumber

/-- A number. -/
def asNumber : Document → Checked Binary64
  | bool b => .ok (Binary64.ofInt (if b then 1 else 0))
  | int n =>
    match Binary64.ofInt n with
    | .infinite _ => .mismatch "float_type" "Input should be a valid number"
    | x => .ok x
  | float x => .ok x
  | str s => numberOfText s.toList
  | bytes data => match utf8Decode? data with
    | some s => numberOfText s
    | none => badNumber
  | _ => .mismatch "float_type" "Input should be a valid number"

/-! ## Containers -/

/-- The step to the value of a key. -/
def stepOf : Document → Step
  | str s => .key s
  | bool b => .index (if b then 1 else 0)
  | int n => if fitsWord n then .index n else .key (toString n)
  | d => .key d.shown

/-- Nothing, or a value. -/
def nullable {α : Type} (check : Document → Checked α) : Document → Checked (Option α)
  | null => .ok none
  | d => (check d).map some

def checkItems {α : Type} (check : Document → Checked α) (n : Nat) :
    List Document → Checked (List α)
  | [] => .ok []
  | d :: rest => List.cons <$> (check d).under (.index n) <*> checkItems check (n + 1) rest

/-- A list. -/
def asList {α : Type} (check : Document → Checked α) : Document → Checked (List α)
  | list items | set items => checkItems check 0 items
  | _ => .mismatch "list_type" "Input should be a valid list"

/-- The entries of a mapping with text keys; an entry whose key is no text is marked. -/
def checkEntries {α : Type} (check : Document → Checked α) :
    List (Document × Document) → Checked (List (String × α))
  | [] => .ok []
  | (k, v) :: rest =>
    let entry := Prod.mk <$> (k.asString.under (.key "[key]")).under (stepOf k) <*>
      (check v).under (stepOf k)
    List.cons <$> entry <*> checkEntries check rest

/-- A mapping with text keys. -/
def asTable {α : Type} (check : Document → Checked α) : Document → Checked (List (String × α))
  | map entries =>
    (checkEntries check entries).map (·.foldl (fun acc (k, v) => insertKey acc k v) [])
  | _ => .mismatch "dict_type" "Input should be a valid dictionary"

/-- The entries of a record of the named kind. -/
def asRecord {α : Type} (kind : String) (read : List (Document × Document) → Checked α) :
    Document → Checked α
  | map entries => read entries
  | _ => .mismatch "model_type" s!"Input should be a valid dictionary or instance of {kind}"

/-- The value of a field, under its written name or else under its plain one. -/
def fieldValue? (entries : List (Document × Document)) (written plain : String) :
    Option Document :=
  match find? entries written with
  | some d => some d
  | none => find? entries plain

/-- The name under which the value of a field is found. -/
def fieldKey (entries : List (Document × Document)) (written plain : String) : String :=
  if (find? entries written).isSome then written else plain

/-- A field that has to be there; one that is missing is called by its written name. -/
def required {α : Type} (entries : List (Document × Document)) (written plain : String)
    (check : Document → Checked α) : Checked α :=
  match fieldValue? entries written plain with
  | some d => (check d).under (.key (fieldKey entries written plain))
  | none => (Checked.mismatch "missing" "Field required").under (.key written)

/-- A field that may be left out. -/
def orElse {α : Type} (entries : List (Document × Document)) (written plain : String) (default : α)
    (check : Document → Checked α) : Checked α :=
  match fieldValue? entries written plain with
  | some d => (check d).under (.key (fieldKey entries written plain))
  | none => .ok default

/-- One of some words. -/
def oneOf {α : Type} (words : List (String × α)) (d : Document) : Checked α :=
  let found : Option α := match d with
    | str s => (words.find? fun (w : String × α) => w.1 == s).map (·.2)
    | _ => none
  match found with
  | some a => .ok a
  | none =>
    let names := words.map fun (w, _) => "'" ++ w ++ "'"
    let listed := match names.reverse with
      | last :: rest@(_ :: _) => ", ".intercalate rest.reverse ++ " or " ++ last
      | _ => ", ".intercalate names
    .mismatch "literal_error" s!"Input should be {listed}"

end Document

end TrackerSearch
