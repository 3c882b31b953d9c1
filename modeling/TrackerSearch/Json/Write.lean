import TrackerSearch.Json.Basic
import TrackerSearch.Text.Quoted

/-!
# Writing JSON

The compact form has no blanks; the indented form puts every member on a line of its own, two
blanks deeper than what encloses it. Characters beyond ASCII stay as they are, unless the writer is
told to escape them as UTF-16 units.
-/
namespace TrackerSearch.Json

open TrackerSearch.Text

/-- One character of a string. -/
def escapeChar (asciiOnly : Bool) (c : Char) : List Char :=
  let n := c.toNat
  if c = '"' then ['\\', '"']
  else if c = '\\' then ['\\', '\\']
  else if c = '\n' then ['\\', 'n']
  else if c = '\r' then ['\\', 'r']
  else if c = '\t' then ['\\', 't']
  else if n = 8 then ['\\', 'b']
  else if n = 12 then ['\\', 'f']
  else if n < 32 then '\\' :: 'u' :: hexDigits 4 n
  else if n < 127 ∨ !asciiOnly then [c]
  else if n < 0x10000 then '\\' :: 'u' :: hexDigits 4 n
  else
    let m := n - 0x10000
    '\\' :: 'u' :: hexDigits 4 (0xD800 + m / 1024) ++ '\\' :: 'u' :: hexDigits 4 (0xDC00 + m % 1024)

/-- A string between double quotes. -/
def writeString (asciiOnly : Bool) (s : String) : String :=
  String.ofList ('"' :: s.toList.flatMap (escapeChar asciiOnly) ++ ['"'])

/-- The text of a number that is finite; the others have no JSON text and are written by name. -/
def writeFloat : Number.Binary64 → String
  | .nan => "NaN"
  | .infinite false => "Infinity"
  | .infinite true => "-Infinity"
  | x => x.text

mutual

/-- The form without blanks. -/
def compact (asciiOnly : Bool) : Json → String
  | null => "null"
  | bool b => if b then "true" else "false"
  | int n => toString n
  | float x => writeFloat x
  | str s => writeString asciiOnly s
  | arr items => "[" ++ ",".intercalate (compactItems asciiOnly items) ++ "]"
  | obj members => "\x7b" ++ ",".intercalate (compactMembers asciiOnly members) ++ "\x7d"

def compactItems (asciiOnly : Bool) : List Json → List String
  | [] => []
  | j :: rest => compact asciiOnly j :: compactItems asciiOnly rest

def compactMembers (asciiOnly : Bool) : List (String × Json) → List String
  | [] => []
  | (k, j) :: rest =>
    (writeString asciiOnly k ++ ":" ++ compact asciiOnly j) :: compactMembers asciiOnly rest

end

/-- A line break and the blanks of a nesting depth. -/
def lineBreak (depth : Nat) : String := String.ofList ('\n' :: List.replicate (2 * depth) ' ')

mutual

/-- The form with a member or item a line; empty containers stay on one line. -/
def indented (depth : Nat) : Json → String
  | null => "null"
  | bool b => if b then "true" else "false"
  | int n => toString n
  | float x => writeFloat x
  | str s => writeString false s
  | arr [] => "[]"
  | arr (j :: rest) =>
    "[" ++ lineBreak (depth + 1) ++ indented (depth + 1) j ++ indentedItems (depth + 1) rest ++
      lineBreak depth ++ "]"
  | obj [] => "\x7b\x7d"
  | obj ((k, j) :: rest) =>
    "\x7b" ++ lineBreak (depth + 1) ++ writeString false k ++ ": " ++ indented (depth + 1) j ++
      indentedMembers (depth + 1) rest ++ lineBreak depth ++ "\x7d"

def indentedItems (depth : Nat) : List Json → String
  | [] => ""
  | j :: rest => "," ++ lineBreak depth ++ indented depth j ++ indentedItems depth rest

def indentedMembers (depth : Nat) : List (String × Json) → String
  | [] => ""
  | (k, j) :: rest =>
    "," ++ lineBreak depth ++ writeString false k ++ ": " ++ indented depth j ++
      indentedMembers depth rest

end

end TrackerSearch.Json
