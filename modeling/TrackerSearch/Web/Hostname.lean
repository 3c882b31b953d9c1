import TrackerSearch.Text.Letter
import TrackerSearch.Text.Pieces
import TrackerSearch.Text.Word

/-!
# Host names beyond ASCII

A label with characters beyond ASCII is written in punycode behind `xn--`: its ASCII characters
first, then the others in rising order, each as its distance from the one before.
-/
namespace TrackerSearch.Web.Hostname

open TrackerSearch.Text

/-- A digit of base 36: letters first. -/
def digitChar (d : Nat) : Char := if d < 26 then Char.ofNat (97 + d) else Char.ofNat (22 + d)

/-- The threshold of the digit at a position. -/
def threshold (position bias : Nat) : Nat := min 26 (max 1 (position - bias))

/-- Divide a distance down to the range that the bias is made of. -/
def shrink (delta count : Nat) : Nat × Nat :=
  if 455 < delta then shrink (delta / 35) (count + 36) else (delta, count)
termination_by delta
decreasing_by omega

/-- The bias after a distance. -/
def adapt (delta written : Nat) (first : Bool) : Nat :=
  let delta := if first then delta / 700 else delta / 2
  let (delta, count) := shrink (delta + delta / written) 0
  count + 36 * delta / (delta + 38)

/-- A distance in digits whose thresholds depend on the bias; there are fewer digits than `fuel`. -/
def writeDistance : Nat → Nat → Nat → Nat → List Char
  | 0, _, _, _ => []
  | fuel + 1, bias, position, q =>
    let t := threshold position bias
    if q < t then [digitChar q]
    else digitChar (t + (q - t) % (36 - t)) ::
      writeDistance fuel bias (position + 36) ((q - t) / (36 - t))

/-- Between two characters: what is written, the distance so far, the bias and the number of
characters that are accounted for. -/
structure Progress where
  text : List Char
  delta : Nat
  bias : Nat
  written : Nat

/-- Go over all characters for one code point. -/
def writeCode (ascii n : Nat) (p : Progress) (s : List Char) : Progress :=
  s.foldl (fun p c =>
    if c.toNat < n then { p with delta := p.delta + 1 }
    else if c.toNat = n then
      { text := p.text ++ writeDistance (p.delta + 2) p.bias 36 p.delta
        delta := 0
        bias := adapt p.delta (p.written + 1) (p.written == ascii)
        written := p.written + 1 }
    else p) p

/-- The punycode of a label. -/
def punycode (s : List Char) : List Char :=
  let ascii := s.filter (·.toNat < 128)
  let codes := (((s.filter (128 ≤ ·.toNat)).map Char.toNat).mergeSort (· ≤ ·)).eraseDups
  let start : Progress :=
    { text := if ascii.isEmpty then [] else ascii ++ ['-'], delta := 0, bias := 72,
      written := ascii.length }
  let (p, _) := codes.foldl (fun (p, n) code =>
    let p := { p with delta := p.delta + (code - n) * (p.written + 1) }
    let p := writeCode ascii.length code p s
    ({ p with delta := p.delta + 1 }, code + 1)) (start, 128)
  p.text

/-- Characters that a label may have. -/
def isLabelChar (c : Char) : Bool :=
  c == '-' || (isAlphanumeric c && lowerChar c == c)

/-- A label that may stand in a host name. -/
def isLabel (s : List Char) : Bool :=
  !s.isEmpty && s.all isLabelChar && s.head? != some '-' && s.getLast? != some '-' &&
    (s.drop 2).take 2 != ['-', '-']

/-- A label in ASCII, if it can be written so in at most 63 characters. -/
def asciiLabel? (s : List Char) : Option (List Char) :=
  if !isLabel s then none
  else
    let written := if s.all (·.toNat < 128) then s else "xn--".toList ++ punycode s
    if written.length ≤ 63 then some written else none

/-- The points that part the labels. -/
def isLabelEnd (c : Char) : Bool := ['.', '\u3002', '\uff0e', '\uff61'].contains c

/-- A host name in ASCII; one empty label at the end is allowed. -/
def toAscii? (s : List Char) : Option (List Char) := do
  let labels := splitBy isLabelEnd (lower s)
  let rooted := labels.getLast? = some []
  let labels ← (if rooted then labels.dropLast else labels).mapM asciiLabel?
  let name := joinWith ['.'] (if rooted then labels ++ [[]] else labels)
  if labels.isEmpty || (if rooted then 254 else 253) < name.length then none else some name

end TrackerSearch.Web.Hostname
