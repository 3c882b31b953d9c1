import TrackerSearch.Regex.Basic

/-!
# Matching

Matching is a search in continuation style: every node tries its ways in order of preference and
hands the position it reaches and the groups captured so far to what follows. The first way for
which everything that follows succeeds is the match.

Whatever a way has captured is given back when the way fails. There are engines that keep captures
of a failed alternative inside a possessive repetition; that is not followed here.
-/
namespace TrackerSearch.Regex

/-- A position in a text: how far it is from the start, the characters before it, nearest first,
and those after it. -/
structure Cursor where
  offset : Nat
  before : List Char
  after : List Char
  deriving Repr

def Cursor.start (s : List Char) : Cursor := ⟨0, [], s⟩

/-- One character on. -/
def Cursor.next? (c : Cursor) : Option (Char × Cursor) :=
  match c.after with
  | [] => none
  | x :: rest => some (x, ⟨c.offset + 1, x :: c.before, rest⟩)

/-- `n` characters back. -/
def Cursor.back? (c : Cursor) (n : Nat) : Option Cursor :=
  if n ≤ c.before.length then
    some ⟨c.offset - n, c.before.drop n, (c.before.take n).reverse ++ c.after⟩
  else none

/-- Captured stretches, latest first: group, first offset, offset after the last character. -/
abbrev Captures := List (Nat × Nat × Nat)

/-- The latest capture of a group. -/
def Captures.find? (caps : Captures) (n : Nat) : Option (Nat × Nat) :=
  (List.find? (·.1 == n) caps).map (·.2)

/-- The characters from offset `lo` up to `hi`. -/
def slice (text : List Char) (lo hi : Nat) : List Char := (text.drop lo).take (hi - lo)

def Anchor.holds (a : Anchor) (c : Cursor) : Bool :=
  match a with
  | .textStart => c.before.isEmpty
  | .textEnd => c.after.isEmpty
  | .lastLineEnd => c.after.isEmpty || c.after == ['\n']
  | .lineStart => c.before.isEmpty || c.before.head? == some '\n'
  | .lineEnd => c.after.isEmpty || c.after.head? == some '\n'
  | .wordBoundary negated asciiOnly =>
    let isIn (x : Option Char) : Bool := (x.map (Category.word.holds asciiOnly)).getD false
    let boundary := isIn c.before.head? != isIn c.after.head?
    -- An empty text has neither a boundary nor a place that is none.
    !(c.before.isEmpty && c.after.isEmpty) && boundary != negated

/-- Step over a text that equals `s` under `fold`. -/
def stepOver (fold : Folding) : List Char → Cursor → Option Cursor
  | [], c => some c
  | x :: s, c =>
    match c.next? with
    | some (y, c) => if fold.same x y then stepOver fold s c else none
    | none => none

/-- What to do once a node has matched. -/
abbrev Rest (α : Type) := Cursor → Captures → Option α

/-- May there be another round after `count` of them? -/
def allows (max : Option Nat) (count : Nat) : Bool :=
  match max with
  | none => true
  | some m => count < m

/-- Repeat `body` as often as possible. After the least number of rounds a further round is tried
only if the one before it has moved on; `last` is where that one began. -/
def loopGreedy {α : Type} (body : Cursor → Captures → Rest α → Option α) (rest : Rest α)
    (min : Nat) (max : Option Nat) : Nat → Nat → Option Nat → Cursor → Captures → Option α
  | 0, _, _, c, caps => rest c caps
  | fuel + 1, count, last, c, caps =>
    if count < min then
      body c caps (loopGreedy body rest min max fuel (count + 1) last)
    else
      let again :=
        if allows max count ∧ last ≠ some c.offset then
          body c caps (loopGreedy body rest min max fuel (count + 1) (some c.offset))
        else none
      match again with
      | some a => some a
      | none => rest c caps

/-- Repeat `body` as rarely as possible. -/
def loopLazy {α : Type} (body : Cursor → Captures → Rest α → Option α) (rest : Rest α)
    (min : Nat) (max : Option Nat) : Nat → Nat → Option Nat → Cursor → Captures → Option α
  | 0, _, _, c, caps => rest c caps
  | fuel + 1, count, last, c, caps =>
    if count < min then
      body c caps (loopLazy body rest min max fuel (count + 1) last)
    else
      match rest c caps with
      | some a => some a
      | none =>
        if allows max count ∧ last ≠ some c.offset then
          body c caps (loopLazy body rest min max fuel (count + 1) (some c.offset))
        else none

/-- More rounds than any repetition can make from a position. -/
def roundBound (min : Nat) (c : Cursor) : Nat := min + c.after.length + 3

/-- The end of a match, kept as it is. -/
def finish : Rest (Cursor × Captures) := fun c caps => some (c, caps)

/-- Match a node at a position of `text`. -/
def Node.run {α : Type} (text : List Char) : Node → Cursor → Captures → Rest α → Option α
  | .empty, c, caps, rest => rest c caps
  | .any lineBreaks, c, caps, rest =>
    match c.next? with
    | some (x, c) => if lineBreaks || x != '\n' then rest c caps else none
    | none => none
  | .set fold negated items, c, caps, rest =>
    match c.next? with
    | some (x, c) => if inSet fold items x != negated then rest c caps else none
    | none => none
  | .anchor a, c, caps, rest => if a.holds c then rest c caps else none
  | .seq first second, c, caps, rest =>
    first.run text c caps fun c caps => second.run text c caps rest
  | .alt first second, c, caps, rest =>
    match first.run text c caps rest with
    | some a => some a
    | none => second.run text c caps rest
  | .repeated .greedy min max body, c, caps, rest =>
    loopGreedy (fun c caps rest => body.run text c caps rest) rest min max (roundBound min c) 0 none
      c caps
  | .repeated .lazy min max body, c, caps, rest =>
    loopLazy (fun c caps rest => body.run text c caps rest) rest min max (roundBound min c) 0 none
      c caps
  | .repeated .possessive min max body, c, caps, rest =>
    match loopGreedy (fun c caps rest => body.run text c caps rest) finish min max
        (roundBound min c) 0 none c caps with
    | some (c, caps) => rest c caps
    | none => none
  | .group n body, c, caps, rest =>
    body.run text c caps fun c' caps => rest c' ((n, c.offset, c'.offset) :: caps)
  | .atomic body, c, caps, rest =>
    match body.run text c caps finish with
    | some (c, caps) => rest c caps
    | none => none
  | .ahead negated body, c, caps, rest =>
    match body.run text c caps finish with
    | some (_, caps') => if negated then none else rest c caps'
    | none => if negated then rest c caps else none
  | .behind negated lo _ body, c, caps, rest =>
    match (c.back? lo).bind fun b => body.run text b caps finish with
    | some (_, caps') => if negated then none else rest c caps'
    | none => if negated then rest c caps else none
  | .backref fold n, c, caps, rest =>
    match caps.find? n with
    | some (lo, hi) =>
      match stepOver fold (slice text lo hi) c with
      | some c => rest c caps
      | none => none
    | none => none
  | .ifGroup n yes no, c, caps, rest =>
    if (caps.find? n).isSome then yes.run text c caps rest else no.run text c caps rest

/-- Where a match lies, and what its groups captured. -/
structure Found where
  first : Nat
  last : Cursor
  captures : Captures
  deriving Repr

/-- The match at a position. With `advance` set, an empty one does not count. -/
def Pattern.matchAt (p : Pattern) (text : List Char) (advance : Bool) (c : Cursor) :
    Option Found :=
  let accept : Rest (Cursor × Captures) := fun e caps =>
    if advance ∧ e.offset = c.offset then none else some (e, caps)
  (p.root.run text c [] accept).map fun (e, caps) => ⟨c.offset, e, caps⟩

/-- The first match at or after a position. With `advance` set, an empty match right at the
position does not count. -/
def Pattern.searchFrom (p : Pattern) (text : List Char) (advance : Bool) (offset : Nat)
    (before : List Char) : List Char → Option Found
  | [] => p.matchAt text advance ⟨offset, before, []⟩
  | x :: after =>
    match p.matchAt text advance ⟨offset, before, x :: after⟩ with
    | some m => some m
    | none => searchFrom p text false (offset + 1) (x :: before) after

/-- The first match in a text. -/
def Pattern.search (p : Pattern) (text : List Char) : Option Found :=
  p.searchFrom text false 0 [] text

/-- The matches from a position on, none overlapping the one before; an empty match may follow a
match directly only if that one was not empty. -/
def Pattern.matchesFrom (p : Pattern) (text : List Char) : Nat → Bool → Cursor → List Found
  | 0, _, _ => []
  | fuel + 1, advance, c =>
    match p.searchFrom text advance c.offset c.before c.after with
    | none => []
    | some m => m :: p.matchesFrom text fuel (m.last.offset == m.first) m.last

/-- All matches in a text, left to right. -/
def Pattern.findAll (p : Pattern) (text : List Char) : List Found :=
  p.matchesFrom text (2 * text.length + 2) false (Cursor.start text)

/-- The text of a group in a match: group 0 is the match itself. -/
def Found.group? (m : Found) (text : List Char) (n : Nat) : Option (List Char) :=
  if n = 0 then some (slice text m.first m.last.offset)
  else (m.captures.find? n).map fun (lo, hi) => slice text lo hi

end TrackerSearch.Regex
