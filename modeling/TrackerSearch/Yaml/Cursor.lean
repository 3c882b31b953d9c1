/-!
# Positions in a text

A cursor is the rest of a text together with its position. The end of the text reads as NUL, a
character that no text contains.
-/
namespace TrackerSearch.Yaml

structure Cursor where
  rest : List Char
  index : Nat := 0
  line : Nat := 0
  column : Nat := 0

/-- Characters that end a line. -/
def isBreak (c : Char) : Bool :=
  c = '\r' || c = '\n' || c = '\x85' || c = '\u2028' || c = '\u2029'

/-- The end of the text, or of a line. -/
def endsLine (c : Char) : Bool := c = '\x00' || isBreak c

/-- What separates a token of the line from the next one. -/
def endsWord (c : Char) : Bool := c = ' ' || endsLine c

/-- `endsWord`, or a tabulator. -/
def separates (c : Char) : Bool := c = '\t' || endsWord c

namespace Cursor

/-- The character `n` places on. -/
def peek (c : Cursor) (n : Nat) : Char := c.rest.getD n '\x00'

/-- The next character. -/
def head (c : Cursor) : Char := c.peek 0

/-- Step over one character. -/
def step (c : Cursor) : Cursor :=
  match c.rest with
  | [] => c
  | x :: rest =>
    let ends := isBreak x && !(x = '\r' && rest.head? = some '\n')
    { rest
      index := c.index + 1
      line := if ends then c.line + 1 else c.line
      column := if ends then 0 else if x = '\uFEFF' then c.column else c.column + 1 }

def forward : Nat → Cursor → Cursor
  | 0, c => c
  | n + 1, c => forward n c.step

/-- The characters up to the first that does not satisfy `p`. -/
def span (p : Char → Bool) (c : Cursor) : List Char := c.rest.takeWhile p

/-- Step over the characters up to the first that does not satisfy `p`. -/
def skip (p : Char → Bool) (c : Cursor) : Cursor := c.forward (c.span p).length

/-- The end of a line, as it is kept, and the cursor behind it; nothing if there is none. -/
def lineBreak (c : Cursor) : List Char × Cursor :=
  match c.rest with
  | '\r' :: '\n' :: _ => (['\n'], c.forward 2)
  | x :: _ =>
    if x = '\u2028' ∨ x = '\u2029' then ([x], c.step)
    else if isBreak x then (['\n'], c.step)
    else ([], c)
  | [] => ([], c)

/-- Is the cursor at a mark that separates documents? -/
def atSeparator (c : Cursor) : Bool :=
  (c.rest.take 3 = ['-', '-', '-'] || c.rest.take 3 = ['.', '.', '.']) && separates (c.peek 3)

end Cursor
end TrackerSearch.Yaml
