import TrackerSearch.Number.Power

/-!
# Binary floating point

The numbers of the 64-bit binary format, with exact arithmetic on natural numbers: rounding a ratio
to the nearest number, ties to the even one, and the shortest decimal that reads back.
-/
namespace TrackerSearch.Number

/-- A number of the format. A finite one is `mantissa · 2 ^ exponent` with `mantissa < 2 ^ 53` and
`-1074 ≤ exponent ≤ 971`, where the mantissa is at least `2 ^ 52` or the exponent is least. -/
inductive Binary64 where
  | nan
  | infinite (negative : Bool)
  | finite (negative : Bool) (mantissa : Nat) (exponent : Int)
  deriving Repr, DecidableEq, Inhabited

namespace Binary64

def zero : Binary64 := .finite false 0 (-1074)

/-- The quotient rounded to the nearest integer, ties to even. -/
def roundDiv (num den : Nat) : Nat :=
  let q := num / den
  let r := num % den
  if 2 * r < den then q else if den < 2 * r then q + 1 else q + q % 2

/-- The number nearest to `num / den`, for a positive `den`. -/
def ofRatio (negative : Bool) (num den : Nat) : Binary64 :=
  if num = 0 then .finite negative 0 (-1074)
  else
    -- `num / den` lies between `2 ^ (guess - 1)` and `2 ^ (guess + 1)`.
    let guess : Int := (Nat.log2 num : Int) - (Nat.log2 den : Int)
    let scaled (e : Int) : Nat × Nat :=
      if 0 ≤ e then (num, den * twoTo e.toNat) else (num * twoTo (-e).toNat, den)
    let low := max (guess - 53) (-1074)
    let exponent := if (scaled low).1 / (scaled low).2 < twoTo 53 then low else low + 1
    let m := roundDiv (scaled exponent).1 (scaled exponent).2
    let (m, exponent) := if m = twoTo 53 then (twoTo 52, exponent + 1) else (m, exponent)
    if 971 < exponent then .infinite negative else .finite negative m exponent

def ofInt (n : Int) : Binary64 := ofRatio (n < 0) n.natAbs 1

/-- The number nearest to `digits · 10 ^ exponent`. Exponents far outside the range are cut short,
so that no huge power is built. -/
def ofDecimal (negative : Bool) (digits : Nat) (exponent : Int) : Binary64 :=
  if digits = 0 then .finite negative 0 (-1074)
  else
    let magnitude : Int := (Nat.toDigits 10 digits).length + exponent
    if 400 < magnitude then .infinite negative
    else if magnitude < -400 then .finite negative 0 (-1074)
    else if 0 ≤ exponent then ofRatio negative (digits * tenTo exponent.toNat) 1
    else ofRatio negative digits (tenTo (-exponent).toNat)

/-- The value of a finite number as a ratio of natural numbers, without its sign. -/
def ratio (mantissa : Nat) (exponent : Int) : Nat × Nat :=
  if 0 ≤ exponent then (mantissa * twoTo exponent.toNat, 1) else (mantissa, twoTo (-exponent).toNat)

/-- Is the value an integer, and which one? -/
def toInt? : Binary64 → Option Int
  | .finite negative m e =>
    let (num, den) := ratio m e
    if num % den = 0 then some (if negative then -((num / den : Nat) : Int) else (num / den : Nat))
    else none
  | _ => none

/-- Compare two numbers; `none` when one of them is not a number. -/
def compare? : Binary64 → Binary64 → Option Ordering
  | .nan, _ | _, .nan => none
  | .infinite a, .infinite b => some (if a = b then .eq else if a then .lt else .gt)
  | .infinite a, .finite .. => some (if a then .lt else .gt)
  | .finite .., .infinite b => some (if b then .gt else .lt)
  | .finite a m e, .finite b n f =>
    let (p, q) := ratio m e
    let (r, s) := ratio n f
    let signed (negative : Bool) (x : Nat) : Int := if negative then -(x : Int) else x
    some (compare (signed a p * s) (signed b r * q))

def isPositive (x : Binary64) : Bool := compare? x zero == some .gt

/-- The decimal with `places` digits after the first that is nearest to `num / den` times
`10 ^ (-scale)`; `scale` is the decimal exponent of the first digit. -/
private def nearestDigits (num den : Nat) (scale : Int) (places : Nat) : Nat :=
  let shift : Int := places - scale
  if 0 ≤ shift then roundDiv (num * tenTo shift.toNat) den
  else roundDiv num (den * tenTo (-shift).toNat)

/-- The decimal exponent of the first digit of a positive ratio. -/
def decimalExponent (num den : Nat) : Int :=
  if den ≤ num then ((Nat.toDigits 10 (num / den)).length : Int) - 1
  else
    -- The quotient `den / num` has as many digits as the exponent says, give or take one.
    let k := (Nat.toDigits 10 (den / num)).length
    if den ≤ num * tenTo (k - 1) then -((k : Int) - 1) else -(k : Int)

/-- The fewest digits, and the exponent of their first, that read back as the number; of several
such decimals the nearest one. -/
def shortest (mantissa : Nat) (exponent : Int) : Nat × Int :=
  let (num, den) := ratio mantissa exponent
  let scale := decimalExponent num den
  let rec go (places : Nat) : Nat → Nat × Int
    | 0 => (nearestDigits num den scale places, scale)
    | more + 1 =>
      let d := nearestDigits num den scale places
      if ofDecimal false d (scale - places) = .finite false mantissa exponent then (d, scale)
      else go (places + 1) more
  let (d, s) := go 0 17
  -- Rounding up may have produced one digit more, a power of ten.
  let ds := Nat.toDigits 10 d
  let trimmed := (ds.reverse.dropWhile (· == '0')).reverse
  let first := s + (if (ds.length : Int) - 1 > 0 ∧ d = tenTo (ds.length - 1) ∧
    ofDecimal false d (s - (ds.length - 1)) ≠ .finite false mantissa exponent then 1 else 0)
  (trimmed.foldl (fun n c => n * 10 + (c.toNat - 48)) 0, first)

/-- The text of a number: positional from 0.0001 up to below 10 ^ 16 with at least one digit after
the point, and otherwise with an exponent of at least two digits. -/
def text : Binary64 → String
  | .nan => "nan"
  | .infinite negative => if negative then "-inf" else "inf"
  | .finite negative m e =>
    let sign := if negative then "-" else ""
    if m = 0 then sign ++ "0.0"
    else
      let (d, scale) := shortest m e
      let ds := Nat.toDigits 10 d
      if -4 ≤ scale ∧ scale < 16 then
        if scale < 0 then
          sign ++ String.ofList ('0' :: '.' :: List.replicate (-scale - 1).toNat '0' ++ ds)
        else
          let whole := scale.toNat + 1
          let before := ds.take whole ++ List.replicate (whole - ds.length) '0'
          let after := ds.drop whole
          sign ++ String.ofList (before ++ '.' :: (if after.isEmpty then ['0'] else after))
      else
        let lead := ds.take 1 ++ (if ds.length > 1 then '.' :: ds.drop 1 else [])
        let power := Nat.toDigits 10 scale.natAbs
        let power := if power.length < 2 then '0' :: power else power
        sign ++ String.ofList (lead ++ 'e' :: (if scale < 0 then '-' else '+') :: power)

/-- Round to one digit after the point, by the exact value, ties to even. -/
def roundTenths : Binary64 → Binary64
  | .finite negative m e =>
    let (num, den) := ratio m e
    ofRatio negative (roundDiv (num * 10) den) 10
  | x => x

end Binary64

end TrackerSearch.Number
