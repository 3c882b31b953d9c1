import TrackerSearch.Failure
import TrackerSearch.Text.CodeSet
import TrackerSearch.Text.Utf8
import TrackerSearch.Yaml.Cursor

/-!
# Tokens

The tokens of a text with block structure: indentation opens and closes collections, and a value
indicator behind a single-line token turns that into a key, wherever in the row of tokens it stands.

Tokens are read when they are asked for, so that what stops the reading of a text comes up only if
the tokens before it are accepted.
-/
namespace TrackerSearch.Yaml

open TrackerSearch.Text

/-- Why a text is no document. -/
inductive Error where
  | malformed
  /-- A node lies in itself, by an alias. Such a text is well-formed, but its value is no tree. -/
  | circular
  /-- The text is well-formed, but a value in it is not one of its kind. -/
  | badValue (cause : Fault)
  deriving Repr, DecidableEq

inductive Token where
  | streamEnd
  | version (major : Nat)
  | tagHandle (handle lead : String)
  /-- Any other directive. -/
  | directive
  | documentStart
  | documentEnd
  | blockSequence
  | blockMapping
  | blockEnd
  | flowSequence
  | flowMapping
  | flowSequenceEnd
  | flowMappingEnd
  | blockEntry
  | flowEntry
  | key
  | value
  | alias (name : String)
  | anchor (name : String)
  | tag (handle : Option String) (suffix : String)
  | scalar (value : String) (plain : Bool)
  deriving Repr, DecidableEq

abbrev Result := Except Error

/-- Refuse the text. -/
def refuse {α : Type} : Result α := .error .malformed

/-! ## Names and tags -/

def isWordChar (c : Char) : Bool := c.isAlphanum || c = '-' || c = '_'

def isUriChar (c : Char) : Bool := c.isAlphanum || "-;/?:@&=+$,_.!~*'()[]".toList.contains c

/-- The text of the percent escapes at the cursor; `fuel` bounds their number. -/
def uriEscapes : Nat → Cursor → Result (List UInt8 × Cursor)
  | 0, c => .ok ([], c)
  | fuel + 1, c =>
    if c.head ≠ '%' then .ok ([], c)
    else
      match hexDigit? (c.peek 1), hexDigit? (c.peek 2) with
      | some a, some b => do
        let (more, c) ← uriEscapes fuel (c.forward 3)
        return (UInt8.ofNat (a * 16 + b) :: more, c)
      | _, _ => refuse

/-- The rest of a tag, with its percent escapes resolved; `fuel` bounds its length. -/
def uriText : Nat → Cursor → Result (List Char × Cursor)
  | 0, c => .ok ([], c)
  | fuel + 1, c =>
    if c.head = '%' then do
      let (bytes, c) ← uriEscapes c.rest.length c
      match utf8Decode? bytes with
      | none => refuse
      | some s =>
        let (more, c) ← uriText fuel c
        return (s ++ more, c)
    else if isUriChar c.head then do
      let (more, c') ← uriText fuel c.step
      return (c.head :: more, c')
    else .ok ([], c)

def uri (c : Cursor) : Result (String × Cursor) := do
  let (s, c') ← uriText (c.rest.length + 1) c
  if c'.index = c.index then refuse else return (String.ofList s, c')

/-- The handle of a tag: `!`, `!!` or a word between exclamation marks. -/
def handle (c : Cursor) : Result (String × Cursor) :=
  if c.head ≠ '!' then refuse
  else if c.peek 1 = ' ' then .ok ("!", c.step)
  else
    let word := c.step.span isWordChar
    let c := c.forward (word.length + 1)
    if c.head = '!' then .ok (String.ofList ('!' :: word ++ ['!']), c.step) else refuse

/-- The rest of a line that holds only a comment. -/
def ignoredLine (c : Cursor) : Result Cursor :=
  let c := c.skip (· = ' ')
  let c := if c.head = '#' then c.skip (!endsLine ·) else c
  if endsLine c.head then .ok c.lineBreak.2 else refuse

/-- A number in decimal digits. -/
def decimalNumber (c : Cursor) : Result (Nat × Cursor) :=
  let digits := c.span Char.isDigit
  if digits.isEmpty then refuse
  else .ok (digits.foldl (fun n d => n * 10 + (d.toNat - 48)) 0, c.forward digits.length)

/-- A directive, behind its percent sign. -/
def directive (c : Cursor) : Result (Token × Cursor) := do
  let name := c.span isWordChar
  let c := c.forward name.length
  if name.isEmpty || !endsWord c.head then refuse
  else if name = "YAML".toList then
    let (major, c) ← decimalNumber (c.skip (· = ' '))
    if c.head ≠ '.' then refuse
    else
      let (_, c) ← decimalNumber c.step
      if !endsWord c.head then refuse
      else return (.version major, ← ignoredLine c)
  else if name = "TAG".toList then
    let (h, c) ← handle (c.skip (· = ' '))
    if c.head ≠ ' ' then refuse
    else
      let (lead, c) ← uri (c.skip (· = ' '))
      if !endsWord c.head then refuse
      else return (.tagHandle h lead, ← ignoredLine c)
  else return (.directive, ← ignoredLine (c.skip (!endsLine ·)))

/-- The name of an anchor or of an alias, behind its sign. -/
def anchorName (c : Cursor) : Result (String × Cursor) :=
  let name := c.span isWordChar
  let c := c.forward name.length
  if name.isEmpty then refuse
  else if separates c.head || "?:,]\x7d%@\x60".toList.contains c.head then .ok (String.ofList name, c)
  else refuse

/-- A tag. -/
def tag (c : Cursor) : Result (Token × Cursor) := do
  let (t, c) ← (
    if c.peek 1 = '<' then do
      let (suffix, c) ← uri (c.forward 2)
      if c.head = '>' then return (Token.tag none suffix, c.step) else refuse
    else if separates (c.peek 1) then return (Token.tag none "!", c.step)
    else if (c.step.span (!endsWord ·)).contains '!' then do
      let (h, c) ← handle c
      let (suffix, c) ← uri c
      return (Token.tag (some h) suffix, c)
    else do
      let (suffix, c) ← uri c.step
      return (Token.tag (some "!") suffix, c))
  if endsWord c.head then return (t, c) else refuse

/-! ## Block scalars -/

/-- What happens to the line ends at the end of a block scalar. -/
inductive Chomping where
  | strip
  | clip
  | keep
  deriving Repr, DecidableEq

/-- The header of a block scalar, behind its sign: how it ends, and how far it is indented. -/
def blockHeader (c : Cursor) : Result (Chomping × Option Nat × Cursor) := do
  let sign? (c : Cursor) : Option Chomping × Cursor :=
    match c.head with
    | '+' => (some .keep, c.step)
    | '-' => (some .strip, c.step)
    | _ => (none, c)
  let digit? (c : Cursor) : Option Nat × Cursor :=
    if c.head.isDigit then (some (c.head.toNat - 48), c.step) else (none, c)
  let (first, c) := sign? c
  let (increment, c) := digit? c
  let (second, c) :=
    match first, increment with
    | none, some _ => sign? c
    | first, _ => (first, c)
  if increment = some 0 || !endsWord c.head then refuse
  else return (second.getD .clip, increment, ← ignoredLine c)

/-- The empty lines before a block scalar, and the deepest indentation among them; `fuel` bounds
their length. -/
def leadingLines : Nat → Nat → Cursor → List Char × Nat × Cursor
  | 0, deepest, c => ([], deepest, c)
  | fuel + 1, deepest, c =>
    if c.head = ' ' then leadingLines fuel (max deepest c.step.column) c.step
    else if isBreak c.head then
      let (text, c) := c.lineBreak
      let (more, deepest, c) := leadingLines fuel deepest c
      (text ++ more, deepest, c)
    else ([], deepest, c)

/-- Step over blanks up to a column; `fuel` bounds their number. -/
def indentTo (column : Nat) : Nat → Cursor → Cursor
  | 0, c => c
  | fuel + 1, c => if c.column < column ∧ c.head = ' ' then indentTo column fuel c.step else c

/-- The empty lines inside a block scalar; `fuel` bounds their number. -/
def emptyLines (indent : Nat) : Nat → Cursor → List Char × Cursor
  | 0, c => ([], c)
  | fuel + 1, c =>
    let c := indentTo indent indent c
    if isBreak c.head then
      let (text, c) := c.lineBreak
      let (more, c) := emptyLines indent fuel c
      (text ++ more, c)
    else ([], c)

/-- The lines of a block scalar with the empty lines before them; the last line end and the empty
lines at the end stand apart. `fuel` bounds the number of lines. -/
def blockLines (folded : Bool) (indent : Nat) :
    Nat → List Char → Cursor → List Char × List Char × List Char × Cursor
  | 0, breaks, c => ([], [], breaks, c)
  | fuel + 1, breaks, c =>
    if c.column = indent ∧ c.head ≠ '\x00' then
      let startsBlank := c.head = ' ' || c.head = '\t'
      let line := c.span (!endsLine ·)
      let (lineBreak, c) := (c.forward line.length).lineBreak
      let (after, c) := emptyLines indent (c.rest.length + 1) c
      let goesOn := c.column = indent ∧ c.head ≠ '\x00'
      let goesOnBlank := c.head = ' ' || c.head = '\t'
      let joint : List Char :=
        if folded && lineBreak = ['\n'] && !startsBlank && !goesOnBlank then
          if after.isEmpty then [' '] else []
        else lineBreak
      if goesOn then
        let (text, last, tail, c) := blockLines folded indent fuel after c
        (breaks ++ line ++ joint ++ text, last, tail, c)
      else (breaks ++ line, lineBreak, after, c)
    else ([], [], breaks, c)

/-- A block scalar, behind its sign, inside a block of some indentation. -/
def blockScalar (folded : Bool) (outer : Int) (c : Cursor) : Result (Token × Cursor) := do
  let (chomping, increment, c) ← blockHeader c
  let least := max 1 (outer + 1).toNat
  let (breaks, indent, c) :=
    match increment with
    | none =>
      let (breaks, deepest, c) := leadingLines c.rest.length 0 c
      (breaks, max least deepest, c)
    | some n =>
      let indent := least + n - 1
      let (breaks, c) := emptyLines indent (c.rest.length + 1) c
      (breaks, indent, c)
  let (text, last, tail, c) := blockLines folded indent (c.rest.length + 1) breaks c
  let ending := match chomping with
    | .strip => []
    | .clip => last
    | .keep => last ++ tail
  return (.scalar (String.ofList (text ++ ending)) false, c)

/-! ## Quoted scalars -/

/-- The character of an escape of one character. -/
def shortEscape? (c : Char) : Option Char :=
  match c with
  | '0' => some '\x00'
  | 'a' => some '\x07'
  | 'b' => some '\x08'
  | 't' | '\t' => some '\t'
  | 'n' => some '\n'
  | 'v' => some '\x0b'
  | 'f' => some '\x0c'
  | 'r' => some '\r'
  | 'e' => some '\x1b'
  | ' ' => some ' '
  | '"' => some '"'
  | '\\' => some '\\'
  | '/' => some '/'
  | 'N' => some '\x85'
  | '_' => some '\xa0'
  | 'L' => some '\u2028'
  | 'P' => some '\u2029'
  | _ => none

/-- The number of digits of an escape by number. -/
def escapeWidth? (c : Char) : Option Nat :=
  match c with
  | 'x' => some 2
  | 'u' => some 4
  | 'U' => some 8
  | _ => none

/-- The line ends and blanks between two lines of a quoted scalar; `fuel` bounds the number of
lines. -/
def quotedBreaks : Nat → Cursor → Result (List Char × Cursor)
  | 0, c => .ok ([], c)
  | fuel + 1, c =>
    if c.atSeparator then refuse
    else
      let c := c.skip fun x => x = ' ' || x = '\t'
      if isBreak c.head then do
        let (text, c) := c.lineBreak
        let (more, c) ← quotedBreaks fuel c
        return (text ++ more, c)
      else .ok ([], c)

/-- The number that hexadecimal digits spell. -/
def escapeNumber (digits : List Char) : Nat :=
  digits.foldl (fun n d => n * 16 + (hexDigit? d).getD 0) 0

/-- An escape in a text in double quotes, behind its backslash. The code points that
are no characters, the halves of pairs, have U+FFFD in their place. -/
def escape (c : Cursor) : Result (List Char × Cursor) :=
  match shortEscape? c.head, escapeWidth? c.head with
  | some x, _ => .ok ([x], c.step)
  | none, some width =>
    let digits := (c.rest.drop 1).take width
    if digits.length < width || digits.any fun d => (hexDigit? d).isNone then refuse
    else
      let n := escapeNumber digits
      if 0x7FFFFFFF < n then .error (.badValue .tooLarge)
      else if 0x10FFFF < n then .error (.badValue .badValue)
      else .ok ([if n.isValidChar then Char.ofNat n else '\uFFFD'], c.forward (width + 1))
  | none, none =>
    if isBreak c.head then quotedBreaks (c.rest.length + 1) c.lineBreak.2 else refuse

/-- A quoted scalar, behind its opening quote; `fuel` bounds its length. -/
def quotedText (quote : Char) : Nat → Cursor → Result (List Char × Cursor)
  | 0, _ => refuse
  | fuel + 1, c =>
    let go (text : List Char) (c : Cursor) : Result (List Char × Cursor) := do
      let (more, c) ← quotedText quote fuel c
      return (text ++ more, c)
    if c.head = quote then
      if quote = '\'' ∧ c.peek 1 = '\'' then go ['\''] (c.forward 2) else .ok ([], c.step)
    else if c.head = '\x00' then refuse
    else if c.head = ' ' ∨ c.head = '\t' ∨ isBreak c.head then
      let blanks := c.span fun x => x = ' ' || x = '\t'
      let c := c.forward blanks.length
      if c.head = '\x00' then refuse
      else if isBreak c.head then do
        let (lineBreak, c) := c.lineBreak
        let (breaks, c) ← quotedBreaks (c.rest.length + 1) c
        let joint : List Char :=
          if lineBreak ≠ ['\n'] then lineBreak else if breaks.isEmpty then [' '] else []
        go (joint ++ breaks) c
      else go blanks c
    else if quote = '"' ∧ c.head = '\\' then do
      let (text, c) ← escape c.step
      go text c
    else go [c.head] c.step

/-! ## Plain scalars -/

/-- Does a plain scalar end before the character `n` places on? -/
def endsPlain (inFlow : Bool) (c : Cursor) (n : Nat) : Bool :=
  let x := c.peek n
  let y := c.peek (n + 1)
  separates x || (x = ':' && (separates y || (inFlow && ",[]\x7b\x7d".toList.contains y))) ||
    (inFlow && ",?[]\x7b\x7d".toList.contains x)

/-- The length of a piece of a plain scalar without blanks; `fuel` bounds it. -/
def plainLength (inFlow : Bool) (c : Cursor) : Nat → Nat → Nat
  | 0, n => n
  | fuel + 1, n => if endsPlain inFlow c n then n else plainLength inFlow c fuel (n + 1)

/-- The empty lines behind a line of a plain scalar, `none` at a mark that separates documents;
`fuel` bounds their length. -/
def plainBreaks : Nat → Cursor → Option (List Char) × Cursor
  | 0, c => (some [], c)
  | fuel + 1, c =>
    if c.head = ' ' then plainBreaks fuel c.step
    else if isBreak c.head then
      let (text, c) := c.lineBreak
      if c.atSeparator then (none, c)
      else
        let (more, c) := plainBreaks fuel c
        (more.map (text ++ ·), c)
    else (some [], c)

/-- What separates two pieces of a plain scalar, empty if it ends; tells whether a line ended. -/
def plainSpaces (c : Cursor) : List Char × Bool × Cursor :=
  let blanks := c.span (· = ' ')
  let c := c.forward blanks.length
  if isBreak c.head then
    let (lineBreak, c) := c.lineBreak
    if c.atSeparator then ([], true, c)
    else
      match plainBreaks c.rest.length c with
      | (none, c) => ([], true, c)
      | (some breaks, c) =>
        let joint : List Char :=
          if lineBreak ≠ ['\n'] then lineBreak else if breaks.isEmpty then [' '] else []
        (joint ++ breaks, true, c)
  else (blanks, false, c)

/-- A plain scalar: its text, whether a line ended behind its last piece, and the cursor behind it;
`fuel` bounds the number of pieces, `lead` separates the next piece from the text so far. -/
def plainText (inFlow : Bool) (outer : Int) :
    Nat → List Char → Bool → Cursor → List Char × Bool × Cursor
  | 0, _, ended, c => ([], ended, c)
  | fuel + 1, lead, ended, c =>
    let n := if c.head = '#' then 0 else plainLength inFlow c c.rest.length 0
    if n = 0 then ([], ended, c)
    else
      let piece := c.rest.take n
      let (spaces, ended, c) := plainSpaces (c.forward n)
      if spaces.isEmpty || c.head = '#' || (!inFlow && (c.column : Int) < outer + 1) then
        (lead ++ piece, ended, c)
      else
        let (more, ended, c) := plainText inFlow outer fuel spaces ended c
        (lead ++ piece ++ more, ended, c)

/-! ## The row of tokens -/

/-- The tokens of a text, or those that can be had before the error in which reading on ends. -/
structure Row where
  tokens : List Token
  error? : Option Error := none
  deriving Repr, DecidableEq

/-- A token that may turn out to be a key. -/
structure KeyCandidate where
  /-- Its position in the row of tokens. -/
  token : Nat
  /-- Something else cannot stand here. -/
  required : Bool
  index : Nat
  line : Nat
  column : Nat

/-- A text of which the first tokens have been read. -/
structure Scan where
  cursor : Cursor
  tokens : Array Token := #[]
  /-- How deep the cursor is in collections in brackets. -/
  flow : Nat := 0
  /-- The indentation of the innermost block, and those of the blocks around it. -/
  indent : Int := -1
  indents : List Int := []
  /-- May a key start here? -/
  allowKey : Bool := true
  /-- The candidates, one for every level of brackets at most. -/
  keys : List (Nat × KeyCandidate) := []

namespace Scan

def emit (s : Scan) (t : Token) : Scan := { s with tokens := s.tokens.push t }

/-- Give up a candidate; one that is required must not be given up. -/
def dropKey (s : Scan) : Result Scan :=
  match s.keys.find? (·.1 = s.flow) with
  | some (_, k) =>
    if k.required then refuse else .ok { s with keys := s.keys.filter (·.1 ≠ s.flow) }
  | none => .ok s

/-- A candidate on an earlier line or too far back is no key. -/
def isStale (s : Scan) (k : KeyCandidate) : Bool :=
  k.line ≠ s.cursor.line || 1024 < s.cursor.index - k.index

/-- Give up the candidates that are no keys any more. -/
def dropStale (s : Scan) : Result Scan :=
  if s.keys.any fun (_, k) => s.isStale k && k.required then refuse
  else .ok { s with keys := s.keys.filter fun (_, k) => !s.isStale k }

/-- Note that the next token may be a key. -/
def noteKey (s : Scan) : Result Scan :=
  if s.allowKey then do
    let s ← s.dropKey
    let k : KeyCandidate :=
      { token := s.tokens.size
        required := s.flow = 0 && s.indent = s.cursor.column
        index := s.cursor.index
        line := s.cursor.line
        column := s.cursor.column }
    return { s with keys := (s.flow, k) :: s.keys }
  else .ok s

/-- Close the blocks that are indented further than `column`; `fuel` bounds their number. -/
def unwindWith (column : Int) : Nat → Scan → Scan
  | 0, s => s
  | fuel + 1, s =>
    if column < s.indent then
      unwindWith column fuel
        { s.emit .blockEnd with indent := s.indents.headD (-1), indents := s.indents.tail }
    else s

def unwind (column : Int) (s : Scan) : Scan :=
  if s.flow ≠ 0 then s else unwindWith column (s.indents.length + 1) s

/-- Open a block at a column, if it is indented further than the innermost one. -/
def addIndent (column : Nat) (s : Scan) : Option Scan :=
  if s.indent < column then some { s with indents := s.indent :: s.indents, indent := column }
  else none

/-- A token of `width` characters. -/
def take (s : Scan) (t : Token) (width : Nat) : Scan :=
  { s.emit t with cursor := s.cursor.forward width }

/-- Blanks, comments and line ends; `fuel` bounds their length. -/
def skipBlanksWith : Nat → Scan → Scan
  | 0, s => s
  | fuel + 1, s =>
    let c := s.cursor.skip (· = ' ')
    let c := if c.head = '#' then c.skip (!endsLine ·) else c
    if isBreak c.head then
      skipBlanksWith fuel
        { s with cursor := c.lineBreak.2, allowKey := s.allowKey || s.flow = 0 }
    else { s with cursor := c }

def skipBlanks (s : Scan) : Scan :=
  let c := s.cursor
  let c := if c.index = 0 ∧ c.head = '\uFEFF' then c.step else c
  skipBlanksWith (c.rest.length + 1) { s with cursor := c }

/-- Everything that the row of tokens so far leaves open ends. -/
def close (s : Scan) : Result Scan := do
  let s ← (s.unwind (-1)).dropKey
  return { s with allowKey := false }

def openFlow (s : Scan) (t : Token) : Result Scan := do
  let s ← s.noteKey
  return { s.take t 1 with flow := s.flow + 1, allowKey := true }

def closeFlow (s : Scan) (t : Token) : Result Scan := do
  let s ← s.dropKey
  return { s.take t 1 with flow := s.flow - 1, allowKey := false }

/-- An indicator that opens a block of its own where none is. -/
def indicator (s : Scan) (block t : Token) (allowInBlock : Bool) : Result Scan := do
  if s.flow = 0 && !s.allowKey then refuse
  else
    let s := if s.flow = 0 then ((s.addIndent s.cursor.column).map (·.emit block)).getD s else s
    let s ← ({ s with allowKey := allowInBlock || s.flow = 0 } : Scan).dropKey
    return s.take t 1

/-- A value indicator. -/
def valueIndicator (s : Scan) : Result Scan :=
  match s.keys.find? (·.1 = s.flow) with
  | some (_, k) =>
    let s := { s with
      keys := s.keys.filter (·.1 ≠ s.flow)
      tokens := s.tokens.toList.insertIdx k.token .key |>.toArray }
    let s :=
      if s.flow = 0 then
        ((s.addIndent k.column).map fun s =>
          { s with tokens := s.tokens.toList.insertIdx k.token .blockMapping |>.toArray }).getD s
      else s
    .ok { s.take .value 1 with allowKey := false }
  | none => s.indicator .blockMapping .value false

/-- A token that may be a key. -/
def keyable (s : Scan) (read : Cursor → Result (Token × Cursor)) : Result Scan := do
  let s ← s.noteKey
  let (t, c) ← read s.cursor
  return { s.emit t with cursor := c, allowKey := false }

/-- A plain scalar; behind the end of a line another key may start. -/
def plain (s : Scan) : Result Scan := do
  let s ← s.noteKey
  let inFlow := s.flow ≠ 0
  let (text, ended, c) := plainText inFlow s.indent (s.cursor.rest.length + 1) [] false s.cursor
  return { s.emit (.scalar (String.ofList text) true) with cursor := c, allowKey := ended }

/-- Can a plain scalar start here? -/
def startsPlain (s : Scan) : Bool :=
  let x := s.cursor.head
  let y := s.cursor.peek 1
  !(separates x || "-?:,[]\x7b\x7d#&*!|>'\"%@\x60".toList.contains x) ||
    (!separates y && (x = '-' || (s.flow = 0 && (x = '?' || x = ':'))))

/-- Read the next token; `none` for the scan once the text has ended. -/
def next (s : Scan) : Result (Scan × Bool) := do
  let s ← s.skipBlanks.dropStale
  let s := s.unwind s.cursor.column
  let c := s.cursor
  let x := c.head
  let inFlow := s.flow ≠ 0
  let goOn (r : Result Scan) : Result (Scan × Bool) := r.map (·, true)
  let mark (lead : Char) : Bool :=
    c.column = 0 && c.rest.take 3 = [lead, lead, lead] && separates (c.peek 3)
  if x = '\x00' then
    let s ← s.close
    return ({ s.emit .streamEnd with keys := [] }, false)
  else if x = '%' ∧ c.column = 0 then goOn (do
    let s ← s.close
    let (t, c) ← directive s.cursor.step
    return { s.emit t with cursor := c })
  else if x = '-' ∧ mark '-' then goOn (do return (← s.close).take .documentStart 3)
  else if x = '.' ∧ mark '.' then goOn (do return (← s.close).take .documentEnd 3)
  else if x = '[' then goOn (s.openFlow .flowSequence)
  else if x = '\x7b' then goOn (s.openFlow .flowMapping)
  else if x = ']' then goOn (s.closeFlow .flowSequenceEnd)
  else if x = '\x7d' then goOn (s.closeFlow .flowMappingEnd)
  else if x = ',' then goOn (do
    let s ← ({ s with allowKey := true } : Scan).dropKey
    return s.take .flowEntry 1)
  else if x = '-' ∧ separates (c.peek 1) then goOn (s.indicator .blockSequence .blockEntry true)
  else if x = '?' ∧ (inFlow ∨ separates (c.peek 1)) then goOn (s.indicator .blockMapping .key false)
  else if x = ':' ∧ (inFlow ∨ separates (c.peek 1)) then goOn s.valueIndicator
  else if x = '*' then goOn (s.keyable fun c => do
    let (name, c) ← anchorName c.step
    return (.alias name, c))
  else if x = '&' then goOn (s.keyable fun c => do
    let (name, c) ← anchorName c.step
    return (.anchor name, c))
  else if x = '!' then goOn (s.keyable tag)
  else if (x = '|' ∨ x = '>') ∧ !inFlow then goOn (do
    let s ← ({ s with allowKey := true } : Scan).dropKey
    let (t, c) ← blockScalar (x = '>') s.indent s.cursor.step
    return { s.emit t with cursor := c })
  else if x = '\'' ∨ x = '"' then goOn (s.keyable fun c => do
    let (text, c) ← quotedText x (c.rest.length + 1) c.step
    return (.scalar (String.ofList text) false, c))
  else if s.startsPlain then goOn s.plain
  else refuse

/-- The tokens that can be had without reading on: those before the first candidate, as what stands
in front of a key is not known before the text behind it. -/
def settled (s : Scan) : List Token :=
  let candidates := s.keys.filterMap fun (_, k) => if s.isStale k then none else some k.token
  s.tokens.toList.take (candidates.foldl min s.tokens.size)

/-- The row of tokens, with the last token or the error behind those so far; `goOn` reads further. -/
def rowWith (s : Scan) (goOn : Scan → Row) : Result (Scan × Bool) → Row
  | .ok (s', true) => goOn s'
  | .ok (s', false) => { tokens := s'.tokens.toList }
  | .error e => { tokens := s.settled, error? := some e }

/-- Read all tokens, up to an error; `fuel` bounds their number. -/
def run : Nat → Scan → Row
  | 0, s => { tokens := s.settled, error? := some .malformed }
  | fuel + 1, s => s.rowWith (run fuel) s.next

end Scan

/-- Can a character stand in a text? -/
def isAllowed (c : Char) : Bool :=
  let n := c.toNat
  n = 9 || n = 10 || n = 13 || (0x20 ≤ n && n ≤ 0x7E) || n = 0x85 ||
    (0xA0 ≤ n && n ≤ 0xD7FF) || (0xE000 ≤ n && n ≤ 0xFFFD) || 0x10000 ≤ n

/-- The row of tokens of a text. -/
def rowOf (text : List Char) : Row :=
  if text.all isAllowed then Scan.run (text.length + 2) { cursor := { rest := text } }
  else { tokens := [], error? := some .malformed }

end TrackerSearch.Yaml
