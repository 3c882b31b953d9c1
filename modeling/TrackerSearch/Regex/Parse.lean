import TrackerSearch.Number.Integer
import TrackerSearch.Regex.Basic
import TrackerSearch.Text.CodeSet

/-!
# Reading a pattern

A recursive descent over the pattern text. The flags in force are known at every point, because
flags for the whole expression may only stand at its very start, so each node is built with its
flags resolved. What depends on the whole expression is checked afterwards: references from
conditions to groups, and the fixed width of what stands in a look-behind.

Escapes by the name of a character, such as `\N{EM DASH}`, are refused like other unknown ones, since
the table of names is not at hand.
-/
namespace TrackerSearch.Regex

open TrackerSearch.Text

/-- The largest number of repetitions, which itself means "without bound". -/
def maxCount : Nat := 4294967295

/-- The first group number that is refused. -/
def maxGroups : Nat := 2147483647

/-- Widths are cut off here. -/
def maxWidth : Nat := 0x10000000000000000

/-- Least and greatest number of characters. -/
structure Width where
  lo : Nat
  hi : Nat
  deriving Repr, DecidableEq

def Width.capped (w : Width) : Width := ⟨min w.lo maxWidth, min w.hi maxWidth⟩

/-- The width of a node, given those of the groups it may refer back to. -/
def Node.width (groups : List (Nat × Width)) : Node → Width
  | .empty | .anchor _ | .ahead .. | .behind .. => ⟨0, 0⟩
  | .any _ | .set .. => ⟨1, 1⟩
  | .seq a b =>
    let x := a.width groups
    let y := b.width groups
    Width.capped ⟨x.lo + y.lo, x.hi + y.hi⟩
  | .alt a b =>
    let x := a.width groups
    let y := b.width groups
    ⟨min x.lo y.lo, max x.hi y.hi⟩
  | .repeated _ lo hi body =>
    let w := body.width groups
    Width.capped ⟨w.lo * lo, match hi with
      | some hi => w.hi * hi
      | none => if w.hi = 0 then 0 else maxWidth⟩
  | .group _ body | .atomic body => body.width groups
  | .backref _ n => ((groups.find? (·.1 == n)).map (·.2)).getD ⟨0, 0⟩
  | .ifGroup _ yes no =>
    let x := yes.width groups
    let y := no.width groups
    ⟨min x.lo y.lo, max x.hi y.hi⟩

/-- Has every look-behind one width, and not too great a one? -/
def Node.behindsFixed : Node → Bool
  | .seq a b | .alt a b | .ifGroup _ a b => a.behindsFixed && b.behindsFixed
  | .repeated _ _ _ body | .group _ body | .atomic body | .ahead _ body => body.behindsFixed
  | .behind _ lo hi body => lo == hi && lo ≤ maxCount && body.behindsFixed
  | _ => true

def Node.hasRepetition : Node → Bool
  | .seq a b | .alt a b | .ifGroup _ a b => a.hasRepetition || b.hasRepetition
  | .repeated .. => true
  | .group _ body | .atomic body | .ahead _ body | .behind _ _ _ body => body.hasRepetition
  | _ => false

structure Flags where
  ignoreCase : Bool := false
  multiline : Bool := false
  dotAll : Bool := false
  verbose : Bool := false
  ascii : Bool := false
  unicode : Bool := false
  /-- Forbids repetitions altogether. -/
  plain : Bool := false
  deriving Repr, DecidableEq

namespace Flags

def folding (f : Flags) : Folding :=
  if f.ignoreCase then (if f.ascii then .ascii else .full) else .none

/-- The flags that either side sets. -/
def union (a b : Flags) : Flags :=
  ⟨a.ignoreCase || b.ignoreCase, a.multiline || b.multiline, a.dotAll || b.dotAll,
    a.verbose || b.verbose, a.ascii || b.ascii, a.unicode || b.unicode, a.plain || b.plain⟩

/-- Flags inside a group that adds some and takes others away. -/
def inGroup (f added removed : Flags) : Flags :=
  let f := if added.ascii || added.unicode then { f with ascii := false, unicode := false } else f
  let f := f.union added
  { f with
    ignoreCase := f.ignoreCase && !removed.ignoreCase
    multiline := f.multiline && !removed.multiline
    dotAll := f.dotAll && !removed.dotAll
    verbose := f.verbose && !removed.verbose }

/-- The flag of a letter. -/
def ofLetter? : Char → Option Flags
  | 'i' => some { ignoreCase := true }
  | 'm' => some { multiline := true }
  | 's' => some { dotAll := true }
  | 'x' => some { verbose := true }
  | 'a' => some { ascii := true }
  | 'u' => some { unicode := true }
  | 't' => some { plain := true }
  | _ => none

def overlaps (a b : Flags) : Bool :=
  (a.ignoreCase && b.ignoreCase) || (a.multiline && b.multiline) || (a.dotAll && b.dotAll) ||
    (a.verbose && b.verbose)

end Flags

/-- A character, or a backslash with the character after it. -/
inductive Token where
  | char (c : Char)
  | escape (c : Char)
  deriving Repr, DecidableEq

/-- What the reader knows at a point of the pattern. -/
structure ReadState where
  rest : List Char
  /-- Number of groups opened so far, the whole expression included. -/
  groups : Nat := 1
  /-- Widths of the groups that are closed. -/
  widths : List (Nat × Width) := []
  names : List (List Char × Nat) := []
  /-- Inside a look-behind, the number of groups at its start. -/
  behindGroups : Option Nat := none
  /-- Groups that conditions ask for. -/
  asked : List Nat := []
  flags : Flags := {}

abbrev Reader := StateT ReadState (Except PatternError)

namespace Reader

def fail {α : Type} : Reader α := throw .malformed

def peek : Reader (Option Token) := do
  match (← get).rest with
  | [] => return none
  | '\\' :: c :: _ => return some (.escape c)
  | c :: _ => return some (.char c)

/-- Go on to `rest`; a backslash alone at the end is refused as soon as it comes next. -/
def moveTo (rest : List Char) : Reader Unit :=
  if rest = ['\\'] then fail else modify fun s => { s with rest }

def advance : Reader Unit := do
  match (← get).rest with
  | [] => pure ()
  | '\\' :: _ :: rest => moveTo rest
  | _ :: rest => moveTo rest

def next : Reader (Option Token) := do
  let t ← peek
  advance
  return t

/-- Step over `c` if it comes next. -/
def accept (c : Char) : Reader Bool := do
  if (← peek) = some (.char c) then
    advance
    return true
  else return false

/-- Up to `n` characters that satisfy `p`. -/
def upTo (p : Char → Bool) : Nat → Reader (List Char)
  | 0 => return []
  | n + 1 => do
    match ← peek with
    | some (.char c) =>
      if p c then
        advance
        return c :: (← upTo p n)
      else return []
    | _ => return []

/-- A name of at least one character that ends with `stop`. -/
def nameUntil (stop : Char) : Nat → List Char → Reader (List Char)
  | 0, _ => fail
  | fuel + 1, read => do
    match ← next with
    | none => fail
    | some (.char c) =>
      if c = stop then (if read.isEmpty then fail else return read.reverse)
      else nameUntil stop fuel (c :: read)
    | some (.escape c) => nameUntil stop fuel (c :: '\\' :: read)

def name (stop : Char) : Reader (List Char) := do
  nameUntil stop ((← get).rest.length + 1) []

def isClosed (n : Nat) : Reader Bool := do
  return (← get).widths.any (·.1 == n)

/-- Inside a look-behind, only groups that were closed before it may be referred to. -/
def checkBehind (n : Nat) : Reader Unit := do
  match (← get).behindGroups with
  | none => pure ()
  | some limit => if (← isClosed n) && n < limit then pure () else fail

end Reader

open Reader

def isOctalDigit (c : Char) : Bool := '0' ≤ c && c ≤ '7'
def isHexDigit (c : Char) : Bool := (hexDigit? c).isSome

def numberIn (base : Nat) (ds : List Char) : Nat :=
  ds.foldl (fun n c => n * base + (hexDigit? c).getD 0) 0

/-- The rest of a hexadecimal escape of exactly `width` digits. -/
def hexEscape (width : Nat) : Reader Nat := do
  let ds ← upTo isHexDigit width
  if ds.length = width ∧ numberIn 16 ds ≤ 0x10FFFF then return numberIn 16 ds else fail

/-- Escapes that stand for control characters. -/
def controlEscape? : Char → Option Nat
  | 'a' => some 7
  | 'f' => some 12
  | 'n' => some 10
  | 'r' => some 13
  | 't' => some 9
  | 'v' => some 11
  | '\\' => some 92
  | _ => none

/-- Escapes that stand for a category. -/
def categoryEscape? (asciiOnly : Bool) : Char → Option SetItem
  | 'd' => some (.category .digit false asciiOnly)
  | 'D' => some (.category .digit true asciiOnly)
  | 's' => some (.category .space false asciiOnly)
  | 'S' => some (.category .space true asciiOnly)
  | 'w' => some (.category .word false asciiOnly)
  | 'W' => some (.category .word true asciiOnly)
  | _ => none

/-- An escape inside a set, its backslash and letter already read. -/
def setEscape (flags : Flags) (c : Char) : Reader SetItem := do
  if c = 'b' then return .char 8
  else if let some n := controlEscape? c then return .char n
  else if let some item := categoryEscape? flags.ascii c then return item
  else if c = 'x' then return .char (← hexEscape 2)
  else if c = 'u' then return .char (← hexEscape 4)
  else if c = 'U' then return .char (← hexEscape 8)
  else if isOctalDigit c then
    let n := numberIn 8 (c :: (← upTo isOctalDigit 2))
    if n ≤ 255 then return .char n else fail
  else if c.isAlphanum then fail
  else return .char c.toNat

/-- The items of a set after its opening bracket and circumflex, up to the closing bracket. -/
def setItems (flags : Flags) : Nat → List SetItem → Reader (List SetItem)
  | 0, _ => fail
  | fuel + 1, items => do
    let item (t : Token) : Reader SetItem :=
      match t with
      | .char c => return .char c.toNat
      | .escape c => setEscape flags c
    match ← next with
    | none => fail
    | some t =>
      if t = .char ']' ∧ !items.isEmpty then return items.reverse
      else
        let first ← item t
        if ← accept '-' then
          match ← next with
          | none => fail
          | some (.char ']') => return (SetItem.char 45 :: first :: items).reverse
          | some t =>
            match first, ← item t with
            | .char lo, .char hi =>
              if hi < lo then fail else setItems flags fuel (.range lo hi :: items)
            | _, _ => fail
        else setItems flags fuel (first :: items)

/-- What a quantifier after an item has to know about it. -/
inductive ItemKind where
  | plain
  | anchor
  | repeated
  deriving DecidableEq

/-- The items of a sequence, last one first. -/
abbrev Items := List (ItemKind × Node)

/-- The sequence of some items. -/
def joinItems (items : Items) : Node :=
  match items with
  | [] => .empty
  | (_, last) :: rest => rest.foldl (fun acc (_, n) => .seq n acc) last

/-- A single code point. -/
def charNode (flags : Flags) (n : Nat) : Node := .set flags.folding false [.char n]

/-- A reference back to a group that is closed. -/
def backrefTo (flags : Flags) (n : Nat) : Reader Node := do
  if !(← isClosed n) then fail
  checkBehind n
  return .backref flags.folding n

/-- An escape outside sets, its backslash and letter already read. -/
def escapeItem (flags : Flags) (c : Char) : Reader (ItemKind × Node) := do
  let plain (n : Node) : ItemKind × Node := (.plain, n)
  let anchor (a : Anchor) : ItemKind × Node := (.anchor, .anchor a)
  if c = 'A' then return anchor .textStart
  else if c = 'Z' then return anchor .textEnd
  else if c = 'b' then return anchor (.wordBoundary false flags.ascii)
  else if c = 'B' then return anchor (.wordBoundary true flags.ascii)
  else if let some item := categoryEscape? flags.ascii c then return plain (.set .none false [item])
  else if let some n := controlEscape? c then return plain (charNode flags n)
  else if c = 'x' then return plain (charNode flags (← hexEscape 2))
  else if c = 'u' then return plain (charNode flags (← hexEscape 4))
  else if c = 'U' then return plain (charNode flags (← hexEscape 8))
  else if c = '0' then return plain (charNode flags (numberIn 8 (← upTo isOctalDigit 2)))
  else if isAsciiDigit c then
    match ← upTo isAsciiDigit 1 with
    | [] => return plain (← backrefTo flags (numberIn 10 [c]))
    | d :: _ =>
      let third ← if isOctalDigit c && isOctalDigit d then upTo isOctalDigit 1 else pure []
      match third with
      | [] => return plain (← backrefTo flags (numberIn 10 [c, d]))
      | e :: _ =>
        let n := numberIn 8 [c, d, e]
        if n ≤ 255 then return plain (charNode flags n) else fail
  else if c.isAlphanum then fail
  else return plain (charNode flags c.toNat)

/-- The bounds between braces, after the opening one: a number, two numbers, or one with a comma on
either side. `none` if this is no quantifier. -/
def braceBounds : Reader (Option (Nat × Option Nat)) := do
  let saved := (← get).rest
  let digits : Reader (List Char) := do upTo isAsciiDigit (← get).rest.length
  let lo ← digits
  let hi ← if ← accept ',' then digits else pure lo
  if !(← accept '}') then
    moveTo saved
    return none
  let read (ds : List Char) : Reader Nat :=
    if Number.maxDigits < ds.length then throw .countTooLong
    else
      let n := numberIn 10 ds
      if maxCount ≤ n then throw .countTooLarge else return n
  let least ← if lo.isEmpty then pure 0 else read lo
  if hi.isEmpty then return some (least, none)
  let most ← read hi
  if most < least then fail
  return some (least, some most)

/-- The mark after a quantifier, which tells what it prefers. -/
def quantifierMark : Reader Quantifier := do
  if ← accept '?' then return .lazy
  if ← accept '+' then return .possessive
  return .greedy

/-- Put a quantifier on the last item. -/
def quantify (items : Items) (least : Nat) (most : Option Nat) : Reader Items := do
  match items with
  | (.plain, body) :: rest =>
    let q ← quantifierMark
    return (.repeated, .repeated q least most body) :: rest
  | _ => fail

/-- The letters of a flag group up to one of `stops`, the first letter given. -/
def flagLetters (stops : List Char) : Nat → Flags → Char → Reader (Flags × Char)
  | 0, _, _ => fail
  | fuel + 1, flags, c => do
    match Flags.ofLetter? c with
    | none => fail
    | some f =>
      let flags := flags.union f
      if flags.ascii && flags.unicode then fail
      match ← next with
      | some (.char d) => if stops.contains d then return (flags, d) else flagLetters stops fuel flags d
      | _ => fail

/-- Skip a comment up to its closing parenthesis. -/
def skipComment : Nat → Reader Unit
  | 0 => fail
  | fuel + 1 => do
    match ← next with
    | none => fail
    | some (.char ')') => return ()
    | some _ => skipComment fuel

/-- Skip the rest of a line. -/
def skipLine : Nat → Reader Unit
  | 0 => return ()
  | fuel + 1 => do
    match ← next with
    | none | some (.char '\n') => return ()
    | some _ => skipLine fuel

/-- The group that a condition names. -/
def conditionGroup : Reader Nat := do
  let name ← Reader.name ')'
  if isIdentifier name then
    match (← get).names.find? (·.1 == name) with
    | some (_, n) => return n
    | none => fail
  else
    match Number.readInt? name with
    | some n =>
      if n ≤ 0 ∨ maxGroups ≤ n.toNat then fail
      modify fun s => { s with asked := n.toNat :: s.asked }
      return n.toNat
    | none => fail

/-- Open a group, under a name if it has one. -/
def openGroup (name : Option (List Char)) : Reader Nat := do
  let s ← get
  match name with
  | none => set { s with groups := s.groups + 1 }
  | some name =>
    if s.names.any (·.1 == name) then fail
    set { s with groups := s.groups + 1, names := s.names ++ [(name, s.groups)] }
  return s.groups

def closeGroup (n : Nat) (body : Node) : Reader Unit :=
  modify fun s => { s with widths := (n, body.width s.widths) :: s.widths }

/-- What stands after the opening parenthesis of a group. -/
inductive GroupHead where
  | capture (name : Option (List Char))
  | plain (added removed : Flags)
  | atomic
  | look (ahead negated : Bool)
  | condition
  | backref (n : Nat)
  | comment
  | globalFlags (flags : Flags)

def groupHead : Reader GroupHead := do
  let fuel := (← get).rest.length + 1
  if !(← accept '?') then return .capture none
  let negation (t : Option Token) : Reader Bool :=
    match t with
    | some (.char '=') => return false
    | some (.char '!') => return true
    | _ => fail
  match ← next with
  | some (.char 'P') =>
    match ← next with
    | some (.char '<') =>
      let name ← Reader.name '>'
      if isIdentifier name then return .capture (some name) else fail
    | some (.char '=') =>
      let name ← Reader.name ')'
      if !isIdentifier name then fail
      match (← get).names.find? (·.1 == name) with
      | some (_, n) => return .backref n
      | none => fail
    | _ => fail
  | some (.char ':') => return .plain {} {}
  | some (.char '#') =>
    skipComment fuel
    return .comment
  | some (.char '=') => return .look true false
  | some (.char '!') => return .look true true
  | some (.char '<') => return .look false (← negation (← next))
  | some (.char '(') => return .condition
  | some (.char '>') => return .atomic
  | some (.char c) =>
    let (added, stop) ← if c = '-' then pure ({}, '-') else flagLetters [')', ':', '-'] fuel {} c
    if stop = ')' then
      modify fun s => { s with flags := s.flags.union added }
      return .globalFlags added
    if added.plain then fail
    if stop = ':' then return .plain added {}
    match ← next with
    | some (.char d) =>
      let (removed, _) ← flagLetters [':'] fuel {} d
      if removed.ascii || removed.unicode || removed.plain || added.overlaps removed then fail
      return .plain added removed
    | _ => fail
  | _ => fail

def closing : Reader Unit := do
  if !(← accept ')') then fail

mutual

/-- An alternation. At the top level every branch starts with the flags of the expression. -/
def readAlternation : Nat → Bool → Bool → Flags → Reader Node
  | 0, _, _, _ => fail
  | fuel + 1, top, first, flags => do
    let whole := (← get).flags
    let flags := if top then whole else flags
    let branch ← readSequence fuel (top && first) flags []
    if ← accept '|' then return .alt branch (← readAlternation fuel top false flags)
    else return branch

/-- A sequence up to a bar, a closing parenthesis or the end. `first` tells whether flags for the
whole expression may stand here. -/
def readSequence : Nat → Bool → Flags → Items → Reader Node
  | 0, _, _, _ => fail
  | fuel + 1, first, flags, items => do
    let push (item : ItemKind × Node) : Reader Node := readSequence fuel first flags (item :: items)
    match ← peek with
    | none | some (.char '|') | some (.char ')') => return joinItems items
    | some (.escape c) =>
      advance
      push (← escapeItem flags c)
    | some (.char c) =>
      advance
      if flags.verbose && isAsciiBlank c then readSequence fuel first flags items
      else if flags.verbose && c = '#' then
        skipLine ((← get).rest.length + 1)
        readSequence fuel first flags items
      else if c = '[' then
        let negated ← accept '^'
        let set ← setItems flags ((← get).rest.length + 1) []
        push (.plain, .set flags.folding negated set)
      else if c = '?' then readSequence fuel first flags (← quantify items 0 (some 1))
      else if c = '*' then readSequence fuel first flags (← quantify items 0 none)
      else if c = '+' then readSequence fuel first flags (← quantify items 1 none)
      else if c = '\x7b' then
        if (← peek) = some (.char '\x7d') then push (.plain, charNode flags c.toNat)
        else
          match ← braceBounds with
          | none => push (.plain, charNode flags c.toNat)
          | some (least, most) => readSequence fuel first flags (← quantify items least most)
      else if c = '.' then push (.plain, .any flags.dotAll)
      else if c = '^' then
        push (.anchor, .anchor (if flags.multiline then .lineStart else .textStart))
      else if c = '$' then
        push (.anchor, .anchor (if flags.multiline then .lineEnd else .lastLineEnd))
      else if c = '(' then
        match ← groupHead with
        | .comment => readSequence fuel first flags items
        | .globalFlags _ =>
          let flags := (← get).flags
          if first && items.isEmpty then readSequence fuel first flags items else fail
        | .backref n => push (.plain, ← backrefTo flags n)
        | head =>
          let node ← readGroup fuel flags head
          push (.plain, node)
      else push (.plain, charNode flags c.toNat)

/-- The body of a group and its closing parenthesis. -/
def readGroup : Nat → Flags → GroupHead → Reader Node
  | 0, _, _ => fail
  | fuel + 1, flags, head => do
    match head with
    | .capture name =>
      let n ← openGroup name
      let body ← readAlternation fuel false false flags
      closing
      closeGroup n body
      return .group n body
    | .plain added removed =>
      let body ← readAlternation fuel false false (flags.inGroup added removed)
      closing
      return body
    | .atomic =>
      let body ← readAlternation fuel false false flags
      closing
      return .atomic body
    | .look true negated =>
      let body ← readAlternation fuel false false flags
      closing
      return .ahead negated body
    | .look false negated =>
      let outer := (← get).behindGroups
      modify fun s => { s with behindGroups := some (outer.getD s.groups) }
      let body ← readAlternation fuel false false flags
      modify fun s => { s with behindGroups := outer }
      closing
      let w := body.width (← get).widths
      return .behind negated w.lo w.hi body
    | .condition =>
      let n ← conditionGroup
      checkBehind n
      let yes ← readSequence fuel false flags []
      let no ←
        if ← accept '|' then
          let no ← readSequence fuel false flags []
          if (← peek) = some (.char '|') then fail
          pure no
        else pure .empty
      closing
      return .ifGroup n yes no
    | _ => fail

end

/-- Read a whole pattern and check what concerns all of it. -/
def readPattern : Reader Pattern := do
  let fuel := 3 * (← get).rest.length + 10
  moveTo (← get).rest
  let root ← readAlternation fuel true true {}
  let s ← get
  if s.flags.ascii && s.flags.unicode then throw .flagsConflict
  if !s.rest.isEmpty then fail
  if s.asked.any (s.groups ≤ ·) then fail
  if !root.behindsFixed then fail
  if s.flags.plain && root.hasRepetition then fail
  return ⟨root, s.groups - 1, s.names⟩

/-- Compile a pattern. -/
def Pattern.compile (s : List Char) : Except PatternError Pattern :=
  (readPattern { rest := s }).map (·.1)

end TrackerSearch.Regex
