import TrackerSearch.Html.Tree
import TrackerSearch.Text.Pieces
import TrackerSearch.Time.Timestamp

/-!
# Values of inputs

Inputs for dates, times and numbers can have bounds. A value is compared as a sequence of numbers;
a text that is no value of its type bounds nothing.
-/
namespace TrackerSearch.Selector

open TrackerSearch.Text TrackerSearch.Time TrackerSearch.Html

/-- The value of decimal digits, at least `least` and at most `most` of them. -/
def digits? (least : Nat) (most : Option Nat) (s : List Char) : Option Nat :=
  if s.length < least || most.any (· < s.length) || !s.all (fun c => '0' ≤ c && c ≤ '9') then none
  else some (s.foldl (fun n c => n * 10 + (c.toNat - 48)) 0)

def year? (s : List Char) : Option Nat := (digits? 4 none s).filter (1 ≤ ·)

def month? (s : List Char) : Option Nat := (digits? 2 (some 2) s).filter fun m => 1 ≤ m && m ≤ 12

def day? (year month : Nat) (s : List Char) : Option Nat :=
  (digits? 2 (some 2) s).filter fun d => 1 ≤ d && d ≤ daysInMonth year month

/-- The weekday of the first of January, with Monday as 0. -/
def newYearsDay (year : Nat) : Nat :=
  let y := year - 1
  (y + y / 4 - y / 100 + y / 400) % 7

/-- The number of weeks in a year; a year whose last day belongs to the next one counts 53. -/
def weeksIn (year : Nat) : Nat :=
  let last := (newYearsDay year + if isLeapYear year then 365 else 364) % 7
  if last < 3 then 53
  else if newYearsDay year = 3 || (isLeapYear year && newYearsDay year = 2) then 53
  else 52

def dateValue? (s : List Char) : Option (List Nat) :=
  match splitBy (· == '-') s with
  | [y, m, d] => do
    let y ← year? y
    let m ← month? m
    return [y, m, ← day? y m d]
  | _ => none

def timeValue? (s : List Char) : Option (List Nat) :=
  match splitBy (· == ':') s with
  | [h, m] => do
    let h ← (digits? 2 (some 2) h).filter (· ≤ 23)
    return [h, ← (digits? 2 (some 2) m).filter (· ≤ 59)]
  | _ => none

/-- A number as its sign and the digits on both sides of the point. -/
def numberValue? (s : List Char) : Option (Bool × Nat × List Nat) :=
  let (negative, s) := match s with
    | '-' :: s => (true, s)
    | s => (false, s)
  let tail? (s : List Char) : Option (List Nat) :=
    (digits? 1 none s).map fun _ => s.map fun c => c.toNat - 48
  match splitBy (· == '.') s with
  | [whole] => (digits? 1 none whole).map (negative, ·, [])
  | [[], part] => (tail? part).map (negative, 0, ·)
  | [whole, part] => do return (negative, ← digits? 1 none whole, ← tail? part)
  | _ => none

/-- Is a sequence of numbers before another one? The end counts as zeros. -/
def before : List Nat → List Nat → Bool
  | [], ys => ys.any (0 < ·)
  | _ :: _, [] => false
  | x :: xs, y :: ys => x < y || (x == y && before xs ys)

/-- Is a number less than another one? -/
def lessNumber (a b : Bool × Nat × List Nat) : Bool :=
  let isZero (x : Bool × Nat × List Nat) : Bool := x.2.1 = 0 && x.2.2.all (· = 0)
  let below (x y : Bool × Nat × List Nat) : Bool := before (x.2.1 :: x.2.2) (y.2.1 :: y.2.2)
  if isZero a && isZero b then false
  else match a.1, b.1 with
    | false, false => below a b
    | true, true => below b a
    | true, false => true
    | false, true => false

/-- A value of an input. -/
inductive InputValue where
  | parts (values : List Nat)
  | number (value : Bool × Nat × List Nat)

def InputValue.less : InputValue → InputValue → Bool
  | .parts a, .parts b => before a b
  | .number a, .number b => lessNumber a b
  | _, _ => false

/-- A text without the line feed that it may end with. -/
def withoutLastBreak (s : List Char) : List Char :=
  match s.reverse with
  | '\n' :: s => s.reverse
  | _ => s

/-- The value that a text is for an input of a type. -/
def inputValue? (type : String) (text : String) : Option InputValue :=
  let s := withoutLastBreak text.toList
  match type with
  | "date" => (dateValue? s).map .parts
  | "month" =>
    match splitBy (· == '-') s with
    | [y, m] => do return .parts [← year? y, ← month? m]
    | _ => none
  | "week" =>
    match splitBy (· == '-') s with
    | [y, 'W' :: w] => do
      let y ← year? y
      return .parts [y, ← (digits? 2 (some 2) w).filter fun w => 1 ≤ w && w ≤ weeksIn y]
    | _ => none
  | "time" => (timeValue? s).map .parts
  | "datetime-local" =>
    match splitBy (· == 'T') s with
    | [d, t] => do return .parts ((← dateValue? d) ++ (← timeValue? t))
    | _ => none
  | "number" | "range" => (numberValue? s).map .number
  | _ => none

/-- Is the value of an input inside its bounds? No answer if it has no bounds. Times go round: with
the bounds the wrong way round, the values between them are outside. -/
def insideBounds? (e : Element) : Option Bool :=
  let type := asciiLowered (e.attrText "type")
  let value (name : String) : Option InputValue :=
    (e.attr? name).bind fun v => inputValue? type v.text
  match value "min", value "max" with
  | none, none => none
  | least, most =>
    match value "value" with
    | none => some true
    | some v =>
      let below := least.any (v.less ·)
      let above := most.any (·.less v)
      match least, most with
      | some l, some m => some (!(if type == "time" && m.less l then below && above else below || above))
      | _, _ => some (!(below || above))

end TrackerSearch.Selector
