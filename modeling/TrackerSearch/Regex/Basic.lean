import TrackerSearch.Text.Blank
import TrackerSearch.Text.Digit
import TrackerSearch.Text.Letter
import TrackerSearch.Text.Word

/-!
# Regular expressions

The backtracking dialect with captures, named groups, look-around, atomic groups and possessive
quantifiers. A compiled expression is a tree in which every flag has been resolved.
-/
namespace TrackerSearch.Regex

open TrackerSearch.Text

/-- How characters are compared: as they are, ignoring the case of ASCII letters, or ignoring
case altogether. -/
inductive Folding where
  | none
  | ascii
  | full
  deriving Repr, DecidableEq

inductive Category where
  | digit
  | space
  | word
  deriving Repr, DecidableEq

/-- What a set is made of; code points are numbers. -/
inductive SetItem where
  | char (c : Nat)
  | range (lo hi : Nat)
  | category (k : Category) (negated : Bool) (asciiOnly : Bool)
  deriving Repr, DecidableEq

inductive Anchor where
  | textStart
  | textEnd
  /-- The end of the text, or the line break that ends it. -/
  | lastLineEnd
  | lineStart
  | lineEnd
  | wordBoundary (negated : Bool) (asciiOnly : Bool)
  deriving Repr, DecidableEq

inductive Quantifier where
  | greedy
  | lazy
  | possessive
  deriving Repr, DecidableEq

inductive Node where
  | empty
  | any (lineBreaks : Bool)
  | set (fold : Folding) (negated : Bool) (items : List SetItem)
  | anchor (a : Anchor)
  | seq (first second : Node)
  | alt (first second : Node)
  | repeated (q : Quantifier) (min : Nat) (max : Option Nat) (body : Node)
  | group (n : Nat) (body : Node)
  | atomic (body : Node)
  | ahead (negated : Bool) (body : Node)
  /-- Look behind, with the least and greatest width of the body. -/
  | behind (negated : Bool) (lo hi : Nat) (body : Node)
  | backref (fold : Folding) (n : Nat)
  | ifGroup (n : Nat) (yes no : Node)
  deriving Repr, DecidableEq

/-- A compiled expression: its tree, the number of its groups and their names. -/
structure Pattern where
  root : Node
  groups : Nat
  names : List (List Char × Nat)
  deriving Repr, DecidableEq

/-- Why a pattern, or a replacement for it, is refused. -/
inductive PatternError where
  /-- It does not follow the grammar. -/
  | malformed
  /-- A repetition count exceeds the largest allowed one. -/
  | countTooLarge
  /-- The flags for ASCII and for Unicode matching are both given. -/
  | flagsConflict
  /-- A repetition count has too many digits to be read. -/
  | countTooLong
  /-- A replacement names a group that the pattern lacks. -/
  | unknownGroupName
  deriving Repr, DecidableEq

/-- ASCII white space. -/
def isAsciiBlank (c : Char) : Bool := c == ' ' || (9 ≤ c.toNat && c.toNat ≤ 13)

/-- Does a character belong to a category? -/
def Category.holds (k : Category) (asciiOnly : Bool) (c : Char) : Bool :=
  match k with
  | .digit => if asciiOnly then isAsciiDigit c else isDigit c
  | .space => if asciiOnly then isAsciiBlank c else isBlank c
  | .word => if asciiOnly then c.isAlphanum || c == '_' else isWord c

/-- The code points that count as equal to `n`. -/
def Folding.variants (fold : Folding) (n : Nat) : List Nat :=
  match fold with
  | .none => [n]
  | .ascii =>
    if 65 ≤ n ∧ n ≤ 90 then [n, n + 32] else if 97 ≤ n ∧ n ≤ 122 then [n, n - 32] else [n]
  | .full => n :: caseClass n

def SetItem.holds (item : SetItem) (c : Char) : Bool :=
  match item with
  | .char n => c.toNat == n
  | .range lo hi => lo ≤ c.toNat && c.toNat ≤ hi
  | .category k negated asciiOnly => k.holds asciiOnly c != negated

/-- Is `c`, or a character equal to it under `fold`, among the items? -/
def inSet (fold : Folding) (items : List SetItem) (c : Char) : Bool :=
  match fold with
  | .none => items.any (·.holds c)
  | fold =>
    let variants := fold.variants c.toNat
    items.any fun item =>
      match item with
      | .char n => variants.contains n
      | .range lo hi => variants.any fun v => lo ≤ v && v ≤ hi
      | .category .. => item.holds c

/-- Are two characters equal under `fold`? -/
def Folding.same (fold : Folding) (a b : Char) : Bool :=
  match fold with
  | .none => a == b
  | .ascii => a.toLower == b.toLower
  | .full => lowerChar a == lowerChar b

end TrackerSearch.Regex
