/-!
# Blank characters and trimming

The blanks are the characters with the Unicode white-space property together with the four
information separators U+001C to U+001F. Trimming removes a run of them at an end and touches
nothing else.
-/
namespace TrackerSearch.Text

/-- White space in the Unicode sense, and the information separators. -/
def isBlank (c : Char) : Bool :=
  let n := c.toNat
  (9 ≤ n && n ≤ 13) || (28 ≤ n && n ≤ 32) || n == 0x85 || n == 0xA0 || n == 0x1680 ||
    (0x2000 ≤ n && n ≤ 0x200A) || n == 0x2028 || n == 0x2029 || n == 0x202F || n == 0x205F ||
    n == 0x3000

/-- Drop the leading characters that satisfy `p`. -/
def trimStartBy (p : Char → Bool) (s : List Char) : List Char := s.dropWhile p

/-- Drop the trailing characters that satisfy `p`. -/
def trimEndBy (p : Char → Bool) (s : List Char) : List Char := (s.reverse.dropWhile p).reverse

/-- Drop the characters that satisfy `p` at both ends. -/
def trimBy (p : Char → Bool) (s : List Char) : List Char := trimEndBy p (trimStartBy p s)

def trimStart (s : List Char) : List Char := trimStartBy isBlank s
def trimEnd (s : List Char) : List Char := trimEndBy isBlank s
def trim (s : List Char) : List Char := trimBy isBlank s

/-- `trim` on strings. -/
def stripped (s : String) : String := String.ofList (trim s.toList)

/-- The maximal blank-free pieces of a text, in order. -/
def words (s : List Char) : List (List Char) :=
  let step (c : Char) (acc : List (List Char) × List Char) : List (List Char) × List Char :=
    if isBlank c then (if acc.2.isEmpty then acc.1 else acc.2 :: acc.1, [])
    else (acc.1, c :: acc.2)
  let (done, last) := s.foldr step ([], [])
  if last.isEmpty then done else last :: done

end TrackerSearch.Text
