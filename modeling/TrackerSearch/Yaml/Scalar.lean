import TrackerSearch.Document.Basic
import TrackerSearch.Number.Integer
import TrackerSearch.Text.Pieces
import TrackerSearch.Yaml.Token

/-!
# Scalars

A plain scalar has the kind that its form tells: nothing, a truth value, a number or a date, and
otherwise a text. A tag can ask for a kind whatever the form; then the text has to be a value of it.
-/
namespace TrackerSearch.Yaml

open TrackerSearch.Text TrackerSearch.Number

/-- The kinds of nodes. -/
inductive Tag where
  | null
  | bool
  | int
  | float
  | binary
  | timestamp
  | str
  | sequence
  | mapping
  | set
  | pairs
  | orderedPairs
  /-- The key under which a mapping takes over the entries of others. -/
  | merge
  /-- The key of the value that a mapping stands for. -/
  | value
  | unknown
  deriving Repr, DecidableEq

/-- What the names of the known kinds start with. -/
def knownLead : String := "tag:yaml.org,2002:"

def Tag.ofText (text : String) : Tag :=
  match dropLead? knownLead.toList text.toList with
  | none => .unknown
  | some name =>
    match String.ofList name with
    | "null" => .null
    | "bool" => .bool
    | "int" => .int
    | "float" => .float
    | "binary" => .binary
    | "timestamp" => .timestamp
    | "str" => .str
    | "seq" => .sequence
    | "map" => .mapping
    | "set" => .set
    | "pairs" => .pairs
    | "omap" => .orderedPairs
    | "merge" => .merge
    | "value" => .value
    | _ => .unknown

/-! ## Forms -/

def isDigitOrLine (c : Char) : Bool := c.isDigit || c = '_'

def withoutSign (s : List Char) : List Char :=
  match s with
  | '-' :: s | '+' :: s => s
  | s => s

/-- Digits with underscores among them, the first one a digit. -/
def isDigits (s : List Char) : Bool :=
  match s with
  | c :: s => c.isDigit && s.all isDigitOrLine
  | [] => false

/-- A number below sixty in one or two digits. -/
def isSixtieth (s : List Char) : Bool :=
  match s with
  | [a] => a.isDigit
  | [a, b] => '0' ≤ a && a ≤ '5' && b.isDigit
  | _ => false

def isIntForm (s : List Char) : Bool :=
  let s := withoutSign s
  match s with
  | '0' :: 'b' :: r => !r.isEmpty && r.all fun c => c = '0' || c = '1' || c = '_'
  | '0' :: 'x' :: r => !r.isEmpty && r.all fun c => (hexDigit? c).isSome || c = '_'
  | ['0'] => true
  | '0' :: r => r.all fun c => ('0' ≤ c && c ≤ '7') || c = '_'
  | s =>
    match splitBy (· == ':') s with
    | first :: rest => isDigits first && rest.all isSixtieth
    | [] => false

/-- A signed exponent, or none. -/
def isExponent (s : List Char) : Bool :=
  match s with
  | [] => true
  | e :: sign :: digits =>
    (e = 'e' || e = 'E') && (sign = '-' || sign = '+') && !digits.isEmpty && digits.all Char.isDigit
  | _ => false

def isFloatForm (s : List Char) : Bool :=
  let unsigned := withoutSign s
  let special := [".inf", ".Inf", ".INF"].contains (String.ofList unsigned) ||
    [".nan", ".NaN", ".NAN"].contains (String.ofList s)
  let parts := (unsigned.takeWhile (· ≠ '.'), unsigned.dropWhile (· ≠ '.'))
  special ||
    match parts with
    | (whole, '.' :: tail) =>
      let exponent := isExponent (tail.dropWhile isDigitOrLine)
      if whole.isEmpty then s = unsigned && isDigits (tail.takeWhile isDigitOrLine) && exponent
      else if whole.contains ':' then
        match splitBy (· == ':') whole with
        | first :: rest => isDigits first && rest.all isSixtieth && tail.all isDigitOrLine
        | [] => false
      else isDigits whole && exponent
    | _ => false

/-- A point of time in its parts; the texts have digits only. -/
structure MomentParts where
  year : List Char
  month : List Char
  day : List Char
  /-- Hours, minutes, seconds and the fraction of a second. -/
  clock : Option (List Char × List Char × List Char × List Char) := none
  /-- The offset: its sign, hours and minutes; `none` is no offset. -/
  offset : Option (Bool × List Char × List Char) := none

/-- Digits at the start, between `least` and `most` of them. -/
def digitsAt? (least most : Nat) (s : List Char) : Option (List Char × List Char) :=
  let digits := (s.take most).takeWhile Char.isDigit
  if digits.length < least then none else some (digits, s.drop digits.length)

/-- The offset of a point of time, up to the end of the text. -/
def offsetParts? (s : List Char) : Option (Option (Bool × List Char × List Char)) := do
  match s.dropWhile fun c => c = ' ' || c = '\t' with
  | [] => if s.isEmpty then some none else none
  | ['Z'] => some (some (false, ['0'], ['0']))
  | sign :: s =>
    if sign ≠ '+' ∧ sign ≠ '-' then none
    else
      let (hours, s) ← digitsAt? 1 2 s
      match s with
      | [] => some (some (sign = '-', hours, ['0']))
      | ':' :: s =>
        let (minutes, s) ← digitsAt? 2 2 s
        if s.isEmpty then some (some (sign = '-', hours, minutes)) else none
      | _ => none

/-- The parts of a point of time. -/
def momentParts? (s : List Char) : Option MomentParts := do
  let (year, s) ← digitsAt? 4 4 s
  let s ← dropLead? ['-'] s
  let (month, s) ← digitsAt? 1 2 s
  let s ← dropLead? ['-'] s
  let (day, s) ← digitsAt? 1 2 s
  match s with
  | [] => return { year, month, day }
  | c :: rest =>
    let rest ←
      if c = 'T' ∨ c = 't' then some rest
      else if c = ' ' ∨ c = '\t' then some (rest.dropWhile fun c => c = ' ' || c = '\t')
      else none
    let (hour, s) ← digitsAt? 1 2 rest
    let s ← dropLead? [':'] s
    let (minute, s) ← digitsAt? 2 2 s
    let s ← dropLead? [':'] s
    let (second, s) ← digitsAt? 2 2 s
    let (fraction, s) := match s with
      | '.' :: s => (s.takeWhile Char.isDigit, s.dropWhile Char.isDigit)
      | s => ([], s)
    return { year, month, day, clock := some (hour, minute, second, fraction),
             offset := ← offsetParts? s }

/-- Dates alone are written with two digits for the month and the day. -/
def isMomentForm (s : List Char) : Bool :=
  match momentParts? s with
  | some p => p.clock.isSome || (p.month.length = 2 && p.day.length = 2)
  | none => false

def boolWords : List (String × Bool) :=
  [("yes", true), ("no", false), ("true", true), ("false", false), ("on", true), ("off", false)]

/-- A word in lower case, in upper case or with a capital at its start. -/
def isSpelling (word : String) (s : String) : Bool :=
  s == word || s == String.ofList (upper word.toList) ||
    s == match word.toList with
      | c :: rest => String.ofList (upper [c] ++ rest)
      | [] => ""

/-- The kind of a plain scalar. -/
def plainTag (text : String) : Tag :=
  let s := text.toList
  if boolWords.any fun w => isSpelling w.1 text then .bool
  else if isFloatForm s then .float
  else if isIntForm s then .int
  else if text == "<<" then .merge
  else if text == "" || text == "~" || isSpelling "null" text then .null
  else if isMomentForm s then .timestamp
  else if text == "=" then .value
  else if ["!", "&", "*"].contains text then .unknown
  else .str

/-! ## Values -/

/-- The value of digits in a base. -/
def inBase? (base : Nat) (s : List Char) : Option Nat :=
  if s.isEmpty then none
  else s.foldlM (fun n c => (hexDigit? c).bind fun d => if d < base then some (n * base + d) else none) 0

/-- A numeral in a base, as it is read behind a mark of the base. -/
def numeral? (base : Nat) (s : List Char) : Option Int :=
  let (negative, s) := match trim s with
    | '-' :: s => (true, s)
    | '+' :: s => (false, s)
    | s => (false, s)
  (inBase? base s).map fun n => if negative then -(n : Int) else n

/-- A number whose parts count sixtieths of the parts before them. -/
def bySixties (parts : List Int) : Int := parts.foldl (fun n p => n * 60 + p) 0

def intValue (text : String) : Except Fault Document := do
  let s := text.toList.filter (· ≠ '_')
  let orBad (n : Option Int) : Except Fault Int := match n with
    | some n => .ok n
    | none => .error .badValue
  let (factor, s) : Int × List Char ← match s with
    | [] => .error .outOfRange
    | '-' :: s => .ok (-1, s)
    | '+' :: s => .ok (1, s)
    | s => .ok (1, s)
  let n ← match s with
    | [] => .error .outOfRange
    | ['0'] => .ok 0
    | '0' :: 'b' :: r => orBad (numeral? 2 r)
    | '0' :: 'x' :: r => orBad (numeral? 16 r)
    | '0' :: _ => orBad (numeral? 8 s)
    | s =>
      if s.contains ':' then orBad (((splitBy (· == ':') s).mapM readInt?).map bySixties)
      else orBad (readInt? s)
  return .int (factor * n)

/-- The number that a text of digits, a point and an exponent is. -/
def decimal? (s : List Char) : Option (Bool × Nat × Int) := do
  let (negative, s) := match trim s with
    | '-' :: s => (true, s)
    | '+' :: s => (false, s)
    | s => (false, s)
  let whole := s.takeWhile Char.isDigit
  let s := s.dropWhile Char.isDigit
  let (part, s) := match s with
    | '.' :: s => (s.takeWhile Char.isDigit, s.dropWhile Char.isDigit)
    | s => ([], s)
  if whole.isEmpty && part.isEmpty then none
  else
    let exponent ← match s with
      | [] => some (0 : Int)
      | 'e' :: s => (do
        let (down, digits) := match s with
          | '-' :: d => (true, d)
          | '+' :: d => (false, d)
          | d => (false, d)
        let n ← inBase? 10 digits
        return if down then -(n : Int) else n)
      | _ => none
    let digits ← inBase? 10 (whole ++ part)
    return (negative, digits, exponent - part.length)

/-- The value of parts that count sixtieths, exact before it is rounded. -/
def sixtiesValue (parts : List (Bool × Nat × Int)) : Binary64 :=
  let scale := parts.foldl (fun n p => max n (-p.2.2).toNat) 0
  let exact (p : Bool × Nat × Int) : Int :=
    (if p.1 then -1 else 1) * (p.2.1 : Int) * (tenTo (p.2.2 + scale).toNat : Nat)
  let n := bySixties (parts.map exact)
  Binary64.ofRatio (n < 0) n.natAbs (tenTo scale)

def floatValue (text : String) : Except Fault Document := do
  let s := lower (text.toList.filter (· ≠ '_'))
  let (negative, s) ← match s with
    | [] => .error .outOfRange
    | '-' :: s => .ok (true, s)
    | '+' :: s => .ok (false, s)
    | s => .ok (false, s)
  let flip (x : Binary64) : Binary64 :=
    if !negative then x
    else match x with
      | .finite sign m e => .finite (!sign) m e
      | .infinite sign => .infinite (!sign)
      | .nan => .nan
  if s = ".inf".toList then return .float (flip (.infinite false))
  else if s = ".nan".toList then return .float .nan
  else if s.contains ':' then
    match (splitBy (· == ':') s).mapM decimal? with
    | some parts => return .float (flip (sixtiesValue parts))
    | none => .error .badValue
  else
    match decimal? s with
    | some (minus, digits, exponent) => return .float (flip (Binary64.ofDecimal minus digits exponent))
    | none =>
      match String.ofList (trim (withoutSign (trim s))) with
      | "inf" | "infinity" =>
        return .float (flip (.infinite ((trim s).head? = some '-')))
      | "nan" => return .float .nan
      | _ => .error .badValue

def momentValue (text : String) : Except Fault Document := do
  match momentParts? text.toList with
  | none => .error .wrongType
  | some p =>
    let number (s : List Char) : Nat := (inBase? 10 s).getD 0
    let year := number p.year
    let month := number p.month
    let day := number p.day
    if ¬ Time.ValidDate year month day then .error .badValue
    else
      match p.clock with
      | none => return .date year month day
      | some (hour, minute, second, fraction) =>
        let fraction := (fraction ++ List.replicate 6 '0').take 6
        let minutes : Option Int := p.offset.map fun (negative, h, m) =>
          (if negative then -1 else 1) * ((number h * 60 + number m : Nat) : Int)
        let t : Time.Timestamp :=
          { year, month, day, hour := number hour, minute := number minute, second := number second
            microsecond := number fraction, offset := minutes.map (· * 60000000) }
        if t.Valid then return .moment t else .error .badValue

/-- The value of a digit of a text in base 64. -/
def base64Digit? (c : Char) : Option Nat :=
  if 'A' ≤ c ∧ c ≤ 'Z' then some (c.toNat - 65)
  else if 'a' ≤ c ∧ c ≤ 'z' then some (c.toNat - 71)
  else if '0' ≤ c ∧ c ≤ '9' then some (c.toNat + 4)
  else if c = '+' then some 62
  else if c = '/' then some 63
  else none

/-- The bytes of digits in base 64, `none` if they end inside a byte. -/
def base64Bytes? : List Nat → Nat → Option (List UInt8)
  | a :: b :: c :: d :: rest, padding => do
    let n := ((a * 64 + b) * 64 + c) * 64 + d
    let more ← base64Bytes? rest padding
    return UInt8.ofNat (n / 65536) :: UInt8.ofNat (n / 256 % 256) :: UInt8.ofNat (n % 256) :: more
  | [a, b, c], padding =>
    if padding < 1 then none
    else
      let n := (a * 64 + b) * 64 + c
      some [UInt8.ofNat (n / 1024), UInt8.ofNat (n / 4 % 256)]
  | [a, b], padding => if padding < 2 then none else some [UInt8.ofNat ((a * 64 + b) / 16)]
  | [_], _ => none
  | [], _ => some []

def binaryValue (text : String) : Result Document :=
  let s := text.toList
  if s.any fun c => 0x7F < c.toNat then refuse
  else
    match base64Bytes? (s.filterMap base64Digit?) (s.count '=') with
    | some bytes => .ok (.bytes bytes)
    | none => refuse

/-- The value of a scalar of a kind. -/
def scalarValue (tag : Tag) (text : String) : Result Document :=
  let checked (v : Except Fault Document) : Result Document := v.mapError .badValue
  match tag with
  | .null => .ok .null
  | .bool =>
    match boolWords.find? (·.1 == lowered text) with
    | some (_, b) => .ok (.bool b)
    | none => .error (.badValue .unknownKey)
  | .int => checked (intValue text)
  | .float => checked (floatValue text)
  | .binary => binaryValue text
  | .timestamp => checked (momentValue text)
  | .str => .ok (.str text)
  | _ => refuse

end TrackerSearch.Yaml
