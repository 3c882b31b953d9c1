import TrackerSearch.Text.CodeSet
import TrackerSearch.Text.Pieces
import TrackerSearch.Text.Utf8

/-!
# Percent escapes and form encoding

A text is escaped byte by byte over its UTF-8 form; letters, digits and `_.-~` stand for
themselves. The form encoding writes a blank as `+`. Decoding takes escapes of either case, leaves
a percent sign without two hexadecimal digits alone, and reads the bytes of each ASCII stretch as
UTF-8 leniently.
-/
namespace TrackerSearch.Web

open TrackerSearch.Text

/-- Characters that never need an escape. -/
def isUnreserved (c : Char) : Bool := c.isAlphanum || c == '_' || c == '.' || c == '-' || c == '~'

/-- A hexadecimal digit in upper case. -/
def upperHex (d : Nat) : Char := if d < 10 then Char.ofNat (48 + d) else Char.ofNat (55 + d)

/-- The escape of a byte. -/
def escapeByte (b : UInt8) : List Char := ['%', upperHex (b.toNat / 16), upperHex (b.toNat % 16)]

/-- A character as it stands in an escaped text. -/
def escapeChar (c : Char) : List Char :=
  if isUnreserved c then [c] else (utf8OfChar c).flatMap escapeByte

/-- Escape everything that is not unreserved. -/
def percentEncode (s : List Char) : List Char := s.flatMap escapeChar

/-- Form encoding of one name or value. -/
def formEncode (s : List Char) : List Char :=
  s.flatMap fun c => if c = ' ' then ['+'] else escapeChar c

/-- The bytes of an ASCII text with its escapes resolved. -/
def percentBytes : List Char → List UInt8
  | [] => []
  | '%' :: a :: b :: rest =>
    match hexDigit? a, hexDigit? b with
    | some x, some y => UInt8.ofNat (16 * x + y) :: percentBytes rest
    | _, _ => 37 :: percentBytes (a :: b :: rest)
  | c :: rest => UInt8.ofNat c.toNat :: percentBytes rest

/-- Resolve the escapes of a text. A character beyond ASCII ends a stretch of bytes; `stretch` is the
one being read, last character first. -/
def percentDecodeFrom (stretch : List Char) : List Char → List Char
  | [] => utf8Lossy (percentBytes stretch.reverse)
  | c :: rest =>
    if c.toNat < 128 then percentDecodeFrom (c :: stretch) rest
    else utf8Lossy (percentBytes stretch.reverse) ++ c :: percentDecodeFrom [] rest

def percentDecode (s : List Char) : List Char := percentDecodeFrom [] s

/-- Undo `formEncode`. -/
def formDecode (s : List Char) : List Char :=
  percentDecode (s.map fun c => if c = '+' then ' ' else c)

/-- The pairs of a query; pairs with an empty value are left out. -/
def queryPairs (query : List Char) : List (List Char × List Char) :=
  (splitBy (· == '&') query).filterMap fun piece =>
    let name := piece.takeWhile (· != '=')
    let value := (piece.dropWhile (· != '=')).drop 1
    if value.isEmpty then none else some (formDecode name, formDecode value)

/-- Pairs in form encoding. -/
def formText (pairs : List (List Char × List Char)) : List Char :=
  joinWith ['&'] (pairs.map fun (name, value) => formEncode name ++ '=' :: formEncode value)

end TrackerSearch.Web
