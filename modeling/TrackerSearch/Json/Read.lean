import TrackerSearch.Json.Basic
import TrackerSearch.Text.CodeSet
import TrackerSearch.Text.Digit

/-!
# Reading JSON

The grammar of the standard, with the names `NaN`, `Infinity` and `-Infinity` allowed as numbers.
A repeated member keeps its first place and its last value. Nesting is limited.
-/
namespace TrackerSearch.Json

open TrackerSearch.Text TrackerSearch.Number

def skipBlank (s : List Char) : List Char :=
  s.dropWhile fun c => c == ' ' || c == '\t' || c == '\n' || c == '\r'

/-- The value of exactly four hexadecimal digits. -/
def readHex4? : List Char → Option (Nat × List Char)
  | a :: b :: c :: d :: rest => do
    let a ← hexDigit? a
    let b ← hexDigit? b
    let c ← hexDigit? c
    let d ← hexDigit? d
    return (a * 4096 + b * 256 + c * 16 + d, rest)
  | _ => none

/-- The character after `\u`; a high surrogate needs its low one behind it. -/
def readUnicode? (s : List Char) : Option (Char × List Char) := do
  let (n, rest) ← readHex4? s
  if 0xD800 ≤ n ∧ n < 0xDC00 then
    match rest with
    | '\\' :: 'u' :: rest =>
      let (m, rest) ← readHex4? rest
      if 0xDC00 ≤ m ∧ m < 0xE000 then
        some (Char.ofNat (0x10000 + (n - 0xD800) * 1024 + (m - 0xDC00)), rest)
      else none
    | _ => none
  else if 0xDC00 ≤ n ∧ n < 0xE000 then none
  else some (Char.ofNat n, rest)

/-- The rest of a string after its opening quote; `read` holds what was read, last character
first. -/
def readString? : Nat → List Char → List Char → Option (String × List Char)
  | 0, _, _ => none
  | _, _, [] => none
  | steps + 1, read, c :: s =>
    if c = '"' then some (String.ofList read.reverse, s)
    else if c = '\\' then
      match s with
      | 'u' :: s => do
        let (u, s) ← readUnicode? s
        readString? steps (u :: read) s
      | e :: s => do
        let u ← match e with
          | '"' => some '"'
          | '\\' => some '\\'
          | '/' => some '/'
          | 'b' => some '\x08'
          | 'f' => some '\x0c'
          | 'n' => some '\n'
          | 'r' => some '\r'
          | 't' => some '\t'
          | _ => none
        readString? steps (u :: read) s
      | [] => none
    else if c.toNat < 32 then none
    else readString? steps (c :: read) s

/-- The value of a run of ASCII digits. -/
def digitsValue (ds : List Char) : Nat := ds.foldl (fun n c => n * 10 + (c.toNat - 48)) 0

/-- A text without a minus sign in front, and whether there is one. -/
def dropMinus (s : List Char) : Bool × List Char :=
  match s with
  | '-' :: s => (true, s)
  | s => (false, s)

/-- The digits of a fraction, if the text goes on with one. -/
def readFraction? (s : List Char) : Option (Option (List Char) × List Char) :=
  match s with
  | '.' :: s =>
    let f := s.takeWhile isAsciiDigit
    if f.isEmpty then none else some (some f, s.dropWhile isAsciiDigit)
  | s => some (none, s)

/-- The value of an exponent, if the text goes on with one. -/
def readPower? (s : List Char) : Option (Option Int × List Char) :=
  match s with
  | e :: s =>
    if e = 'e' ∨ e = 'E' then
      let (down, s) := match s with
        | '-' :: s => (true, s)
        | '+' :: s => (false, s)
        | s => (false, s)
      let p := s.takeWhile isAsciiDigit
      if p.isEmpty then none
      else
        let n : Int := digitsValue p
        some (some (if down then -n else n), s.dropWhile isAsciiDigit)
    else some (none, e :: s)
  | [] => some (none, [])

/-- The number of some digits: an integer unless it has a fraction or an exponent. -/
def numberOf (negative : Bool) (whole : List Char) (fraction : Option (List Char))
    (power : Option Int) : Json :=
  match fraction, power with
  | none, none =>
    let n : Int := digitsValue whole
    .int (if negative then -n else n)
  | _, _ =>
    let f := fraction.getD []
    .float (Binary64.ofDecimal negative (digitsValue (whole ++ f)) (power.getD 0 - f.length))

/-- A number behind its sign. -/
def readUnsigned? (negative : Bool) (s : List Char) : Option (Json × List Char) :=
  let name := "Infinity".toList
  if s.take name.length = name then some (.float (.infinite negative), s.drop name.length)
  else
    let whole := s.takeWhile isAsciiDigit
    if whole.isEmpty ∨ (whole.length > 1 ∧ whole.head? = some '0') then none
    else do
      let (fraction, s) ← readFraction? (s.dropWhile isAsciiDigit)
      let (power, s) ← readPower? s
      return (numberOf negative whole fraction power, s)

def readNumber? (s : List Char) : Option (Json × List Char) :=
  let (negative, s) := dropMinus s
  readUnsigned? negative s

/-- The items of an array after its opening bracket, each read by `value`. -/
def readItems? (value : List Char → Option (Json × List Char)) :
    Nat → List Json → List Char → Option (List Json × List Char)
  | 0, _, _ => none
  | steps + 1, read, s => do
    let (j, s) ← value s
    match skipBlank s with
    | ',' :: s => readItems? value steps (j :: read) s
    | ']' :: s => some ((j :: read).reverse, s)
    | _ => none

/-- The members of an object after its opening brace. -/
def readMembers? (value : List Char → Option (Json × List Char)) :
    Nat → List (String × Json) → List Char → Option (List (String × Json) × List Char)
  | 0, _, _ => none
  | steps + 1, read, s =>
    match skipBlank s with
    | '"' :: s => do
      let (key, s) ← readString? (s.length + 1) [] s
      match skipBlank s with
      | ':' :: s => do
        let (j, s) ← value s
        let read := insertKey read key j
        match skipBlank s with
        | ',' :: s => readMembers? value steps read s
        | '\x7d' :: s => some (read, s)
        | _ => none
      | _ => none
    | _ => none

/-- A value nested at most `depth` deep, with blanks in front. -/
def readValue? : Nat → List Char → Option (Json × List Char)
  | 0, _ => none
  | depth + 1, s =>
    match skipBlank s with
    | '\x7b' :: s =>
      match skipBlank s with
      | '\x7d' :: s => some (.obj [], s)
      | s => (readMembers? (readValue? depth) (s.length + 1) [] s).map fun (m, s) => (.obj m, s)
    | '[' :: s =>
      match skipBlank s with
      | ']' :: s => some (.arr [], s)
      | s => (readItems? (readValue? depth) (s.length + 1) [] s).map fun (a, s) => (.arr a, s)
    | '"' :: s => (readString? (s.length + 1) [] s).map fun (t, s) => (.str t, s)
    | 't' :: 'r' :: 'u' :: 'e' :: s => some (.bool true, s)
    | 'f' :: 'a' :: 'l' :: 's' :: 'e' :: s => some (.bool false, s)
    | 'n' :: 'u' :: 'l' :: 'l' :: s => some (.null, s)
    | 'N' :: 'a' :: 'N' :: s => some (.float .nan, s)
    | s => readNumber? s

/-- The value that a whole text stands for. -/
def read? (depth : Nat) (s : List Char) : Option Json := do
  let (j, rest) ← readValue? depth s
  if (skipBlank rest).isEmpty then some j else none

end TrackerSearch.Json
