import TrackerSearch.Number.Power
import TrackerSearch.Text.Blank
import TrackerSearch.Text.Digit
import TrackerSearch.Time.Timestamp

/-!
# ISO 8601 timestamps

Reading accepts calendar dates and week dates, in the extended and the basic form, followed by any
one separating character, a time of day, and an offset. Printing writes the extended form, with
microseconds and offset seconds only where they are not zero.
-/
namespace TrackerSearch.Time

open TrackerSearch.Text

/-- The value of exactly `width` ASCII digits, and what follows them. -/
def readFixed? (width : Nat) (s : List Char) : Option (Nat × List Char) :=
  if (s.take width).length = width ∧ (s.take width).all isAsciiDigit then
    some ((s.take width).foldl (fun n c => n * 10 + (c.toNat - 48)) 0, s.drop width)
  else none

/-- The date that a text of the form `YYYY-MM-DD`, `YYYYMMDD`, `YYYY-Www-D`, `YYYYWwwD`,
`YYYY-Www` or `YYYYWww` stands for. -/
def readDate? (s : List Char) : Option (Nat × Nat × Nat) := do
  let (year, s) ← readFixed? 4 s
  let extended := s.head? = some '-'
  let s := if extended then s.drop 1 else s
  let dash (s : List Char) : Option (List Char) :=
    if extended then (if s.head? = some '-' then some (s.drop 1) else none) else some s
  match s with
  | 'W' :: s =>
    let (week, s) ← readFixed? 2 s
    if s.isEmpty then dateOfWeek? year week 1
    else
      let (day, _) ← readFixed? 1 (← dash s)
      dateOfWeek? year week day
  | _ =>
    let (month, s) ← readFixed? 2 s
    let (day, _) ← readFixed? 2 (← dash s)
    return (year, month, day)

/-- How many characters of a timestamp are its date. A week date followed by a digit run is told
from one with a weekday by the parity of that run; where a hyphen after the week is followed by two
characters of which the second is a digit, the hyphen is the separator. -/
def dateLength (s : List Char) : Nat :=
  if s.length = 7 then 7
  else if s[4]? = some '-' then
    if s[5]? = some 'W' then
      if s[8]? = some '-' then
        (if (s[10]?.map isAsciiDigit).getD false then 8 else 10)
      else 8
    else 10
  else if s[4]? = some 'W' then
    let digitsEnd := 7 + ((s.drop 7).takeWhile isAsciiDigit).length
    if digitsEnd < 9 then digitsEnd else if digitsEnd % 2 = 0 then 7 else 8
  else 8

/-- A time of day, or the amount of an offset. -/
structure Clock where
  hour : Nat
  minute : Nat
  second : Nat
  microsecond : Nat
  deriving Repr, DecidableEq

/-- Is nothing left? A NUL counts as the end. -/
def atEnd : List Char → Bool
  | [] => true
  | c :: _ => c == '\x00'

/-- The microseconds of a fraction: the first six digits count, later ones are skipped. Fails when
one of the first six characters is no digit. -/
def readFraction? (s : List Char) : Option (Nat × List Char) := do
  let width := min s.length 6
  let (value, s) ← readFixed? width s
  return (value * Number.tenTo (6 - width), s.dropWhile isAsciiDigit)

/-- Read `HH[:MM[:SS[.ffffff]]]` or `HH[MM[SS[.ffffff]]]`. The flag tells whether all of the text
was used: a single ASCII character after a complete field ends the reading and is left over. A
fraction may follow any field, and needs no point after the seconds of the form without colons. -/
def readClock? (s : List Char) : Option (Clock × Bool) := do
  let (hour, s) ← readFixed? 2 s
  let clock : Clock := ⟨hour, 0, 0, 0⟩
  let colons := s.head? = some ':'
  let fraction (clock : Clock) (s : List Char) : Option (Clock × Bool) := do
    let (value, s) ← readFraction? s
    return ({ clock with microsecond := value }, atEnd s)
  -- What to do after a field: stop, read a fraction, go on with the next field.
  let after (clock : Clock) (s : List Char) (next : List Char → Option (Clock × Bool)) :
      Option (Clock × Bool) :=
    match s with
    | [] => some (clock, true)
    | [c] => if c.toNat < 128 then some (clock, c == '\x00') else none
    | c :: rest =>
      if colons ∧ c = ':' then next rest
      else if c = '.' ∨ c = ',' then fraction clock rest
      else if colons then none
      else next s
  after clock s fun s => do
    let (minute, s) ← readFixed? 2 s
    let clock := { clock with minute }
    after clock s fun s => do
      let (second, s) ← readFixed? 2 s
      let clock := { clock with second }
      after clock s fun s => fraction clock s

/-- The signed offset that a clock reading stands for. One below a second counts as UTC itself. -/
def offsetOf (negative : Bool) (c : Clock) : Int :=
  let seconds := c.hour * 3600 + c.minute * 60 + c.second
  if seconds = 0 then 0
  else
    let amount : Int := (seconds * micro + c.microsecond : Nat)
    if negative then -amount else amount

/-- The time of day and the offset, if there is one. -/
def readTime? (s : List Char) : Option (Clock × Option Int) := do
  let isMark (c : Char) : Bool := c == '+' || c == '-' || c == 'Z'
  let (clock, complete) ← readClock? (s.takeWhile (!isMark ·))
  match s.dropWhile (!isMark ·) with
  | [] => if complete then some (clock, none) else none
  | 'Z' :: rest => if atEnd rest then some (clock, some 0) else none
  | mark :: rest =>
    let (amount, complete) ← readClock? rest
    if complete then some (clock, some (offsetOf (mark == '-') amount)) else none

/-- A valid timestamp of the given parts. -/
def Timestamp.ofParts? (date : Nat × Nat × Nat) (clock : Clock) (offset : Option Int) :
    Option Timestamp :=
  let t : Timestamp := ⟨date.1, date.2.1, date.2.2, clock.hour, clock.minute, clock.second,
    clock.microsecond, offset⟩
  if t.Valid then some t else none

/-- Read a timestamp without blanks around it. -/
def Timestamp.ofIso? (s : List Char) : Option Timestamp :=
  if s.length < 7 then none
  else do
    let date ← readDate? (s.take (dateLength s))
    let rest := s.drop (dateLength s)
    match rest with
    | [] => ofParts? date ⟨0, 0, 0, 0⟩ none
    | _ :: rest =>
      let (clock, offset) ← readTime? rest
      ofParts? date clock offset

/-- A final `Z` means UTC. -/
def expandZulu (s : List Char) : List Char :=
  if s.getLast? = some 'Z' then s.dropLast ++ ['+', '0', '0', ':', '0', '0'] else s

/-- A timestamp without an offset is taken as one in UTC. -/
def Timestamp.orUtc (t : Timestamp) : Timestamp := { t with offset := some (t.offset.getD 0) }

/-- The timestamp in a table cell. -/
def timestampOf (s : String) : Option Timestamp :=
  if s.isEmpty then none else (Timestamp.ofIso? (expandZulu (trim s.toList))).map (·.orUtc)

/-- `n` in decimal, with zeros in front up to `width` digits. -/
def padded (width n : Nat) : List Char :=
  let ds := Nat.toDigits 10 n
  List.replicate (width - ds.length) '0' ++ ds

/-- An offset as `+HH:MM[:SS[.ffffff]]`. -/
def offsetText (offset : Int) : List Char :=
  let total := offset.natAbs
  let seconds := total / micro
  (if offset < 0 then '-' else '+') :: padded 2 (seconds / 3600) ++ ':' :: padded 2 (seconds / 60 % 60) ++
    (if seconds % 60 ≠ 0 ∨ total % micro ≠ 0 then ':' :: padded 2 (seconds % 60) else []) ++
    (if total % micro ≠ 0 then '.' :: padded 6 (total % micro) else [])

/-- A timestamp as `YYYY-MM-DDTHH:MM:SS[.ffffff][±HH:MM[:SS[.ffffff]]]`. -/
def Timestamp.toIso (t : Timestamp) : List Char :=
  padded 4 t.year ++ '-' :: padded 2 t.month ++ '-' :: padded 2 t.day ++
    'T' :: padded 2 t.hour ++ ':' :: padded 2 t.minute ++ ':' :: padded 2 t.second ++
    (if t.microsecond ≠ 0 then '.' :: padded 6 t.microsecond else []) ++
    (t.offset.map offsetText).getD []

def Timestamp.text (t : Timestamp) : String := String.ofList t.toIso

end TrackerSearch.Time
