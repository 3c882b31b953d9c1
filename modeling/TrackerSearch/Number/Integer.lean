import TrackerSearch.Text.Blank
import TrackerSearch.Text.Digit

/-!
# Integers in text

A numeral is an optional sign and decimal digits of any script, with single underscores allowed
between digits and blanks around the whole; the information separators are no blanks here. Numerals
of more than 4300 digits are refused.
-/
namespace TrackerSearch.Number

open TrackerSearch.Text

/-- The most digits a numeral may have. -/
def maxDigits : Nat := 4300

/-- Value and number of the digits of `s`, given those read so far; `afterDigit` tells whether an
underscore may come next and whether the numeral may end here. -/
def readDigits? (value count : Nat) (afterDigit : Bool) : List Char → Option (Nat × Nat)
  | [] => if afterDigit then some (value, count) else none
  | c :: rest =>
    if c = '_' then (if afterDigit then readDigits? value count false rest else none)
    else match digitValue? c with
      | some d => readDigits? (value * 10 + d) (count + 1) true rest
      | none => none

/-- The value of an unsigned numeral without blanks. -/
def readNat? (s : List Char) : Option Nat :=
  match readDigits? 0 0 false s with
  | some (value, count) => if count ≤ maxDigits then some value else none
  | none => none

/-- A blank that may stand around a numeral. -/
def isMargin (c : Char) : Bool := isBlank c && !(0x1C ≤ c.toNat && c.toNat ≤ 0x1F)

/-- The value of a numeral. -/
def readInt? (s : List Char) : Option Int :=
  match trimBy isMargin s with
  | '-' :: rest => (readNat? rest).map fun n => -(n : Int)
  | '+' :: rest => (readNat? rest).map Int.ofNat
  | rest => (readNat? rest).map Int.ofNat

/-- A table cell as it arrives: nothing, a truth value, an integer or a text. -/
inductive Cell where
  | absent
  | truth (b : Bool)
  | int (n : Int)
  | text (s : String)
  deriving Repr, DecidableEq

/-- A non-negative integer, or the default when it is negative. -/
def nonNegativeOr (default n : Int) : Int := if 0 ≤ n then n else default

/-- The count in a text, commas left out; `default` when there is none. -/
def countOfText (default : Int) (s : List Char) : Int :=
  match readInt? ((trim s).filter (· ≠ ',')) with
  | some n => nonNegativeOr default n
  | none => default

/-- The count in a table cell. -/
def countOf (default : Int) : Cell → Int
  | .absent | .truth _ => default
  | .int n => nonNegativeOr default n
  | .text s => countOfText default s.toList

end TrackerSearch.Number
