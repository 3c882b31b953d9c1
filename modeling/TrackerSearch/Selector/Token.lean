import TrackerSearch.Selector.Basic
import TrackerSearch.Text.CodeSet

/-!
# The words of a selector

Names, quoted texts, the calls of pseudo-classes and the combinators. A text that goes on with none
of them ends in a token that is refused; so does a number of a character that does not exist.
-/
namespace TrackerSearch.Selector

open TrackerSearch.Text

/-- Why a text is no selector. -/
inductive Refusal where
  /-- It is not written as one, or it is of a kind that cannot be evaluated. -/
  | malformed
  /-- It asks for a character with a number beyond the last one. -/
  | noSuchChar
  deriving Repr, DecidableEq

inductive Token where
  | close
  | containsText (own : Bool) (texts : List String)
  /-- With `among`, a selector follows that the counted siblings fulfil. -/
  | nth (fromEnd : Bool) (step offset : Int) (among : Bool)
  | nthOfTag (fromEnd : Bool) (step offset : Int)
  | lang (ranges : List String)
  | direction (rtl : Bool)
  | pseudoClass (name : String) (opens : Bool)
  | scope
  | id (value : String)
  | hasClass (name : String)
  /-- A tag name, `none` for any; `foreign` if it is bound to a namespace. -/
  | tag (name : Option String) (foreign : Bool)
  /-- With `negated`, the value must not meet the demand. -/
  | attr (name : String) (demand : Option AttrDemand) (negated : Bool)
  /-- A combinator, or the comma between alternatives. -/
  | combinator (c : Option Combinator)
  | refused (why : Refusal)
  deriving Repr, DecidableEq

/-! ## Characters -/

def isSpace (c : Char) : Bool := c = ' ' || c = '\t' || c = '\n' || c = '\x0c' || c = '\r'

def isLineEnd (c : Char) : Bool := c = '\n' || c = '\x0c' || c = '\r'

/-- Drop one blank, a carriage return together with a line feed behind it. -/
def dropSpace : List Char → List Char
  | '\r' :: '\n' :: s => s
  | c :: s => if isSpace c then s else c :: s
  | [] => []

/-- What is behind a comment whose opening has been read. -/
def commentEnd? : List Char → Option (List Char)
  | '*' :: '/' :: s => some s
  | _ :: s => commentEnd? s
  | [] => none

theorem length_of_commentEnd? {s r : List Char} (h : commentEnd? s = some r) :
    r.length < s.length := by
  fun_induction commentEnd? s with
  | case1 s => simp only [Option.some.injEq] at h; subst h; simp only [List.length_cons]; omega
  | case2 c s _ ih => have := ih h; simp only [List.length_cons]; omega
  | case3 => simp at h

/-- Skip blanks and comments; tells whether there was a blank among them. -/
def skipGap (s : List Char) : Bool × List Char :=
  match s with
  | [] => (false, [])
  | '/' :: '*' :: r =>
    match h : commentEnd? r with
    | some r' =>
      have : r'.length < r.length + 1 + 1 := by have := length_of_commentEnd? h; omega
      skipGap r'
    | none => (false, s)
  | c :: r => if isSpace c then (true, (skipGap r).2) else (false, c :: r)
termination_by s.length

def gap (s : List Char) : List Char := (skipGap s).2

def isNameStart (c : Char) : Bool :=
  ('a' ≤ c && c ≤ 'z') || ('A' ≤ c && c ≤ 'Z') || c = '_' || 0xA0 ≤ c.toNat

def isNameChar (c : Char) : Bool := isNameStart c || c = '-' || ('0' ≤ c && c ≤ '9')

/-! ## Escapes -/

/-- A text with its escapes resolved, or the reason against it. -/
abbrev Unescaped := Except Refusal (List Char)

/-- The character of a number; zero stands for U+FFFD, as do the numbers kept for pairs. -/
def charOf (n : Nat) : Unescaped :=
  if n = 0 then .ok ['\uFFFD']
  else if 0x10FFFF < n then .error .noSuchChar
  else if n.isValidChar then .ok [Char.ofNat n]
  else .ok ['\uFFFD']

/-- What an escape stands for and what follows it; the text starts behind the backslash. -/
def escape? (s : List Char) : Option (Unescaped × List Char) :=
  let digits := (s.take 6).takeWhile fun c => (hexDigit? c).isSome
  if !digits.isEmpty then
    let n := digits.foldl (fun n c => n * 16 + (hexDigit? c).getD 0) 0
    some (charOf n, dropSpace (s.drop digits.length))
  else
    match s with
    | [] => some (.ok ['\uFFFD'], [])
    | c :: s => if isLineEnd c then none else some (.ok [c], s)

/-- Put a piece before an unescaped text. -/
def consPiece (piece rest : Unescaped) : Unescaped := do
  let a ← piece
  return a ++ (← rest)

/-- The characters of a name that satisfy `p`, with escapes; `fuel` bounds the length. -/
def nameChars (p : Char → Bool) : Nat → List Char → Unescaped × List Char
  | 0, s => (.ok [], s)
  | _ + 1, [] => (.ok [], [])
  | fuel + 1, '\\' :: s =>
    match escape? s with
    | none => (.ok [], '\\' :: s)
    | some (piece, rest) =>
      let (more, rest) := nameChars p fuel rest
      (consPiece piece more, rest)
  | fuel + 1, c :: s =>
    if p c then
      let (more, rest) := nameChars p fuel s
      (consPiece (.ok [c]) more, rest)
    else (.ok [], c :: s)

/-- A name and what follows it. -/
def name? (s : List Char) : Option (Unescaped × List Char) :=
  let starts (s : List Char) : Bool :=
    match s with
    | '\\' :: s => (escape? s).isSome
    | c :: _ => isNameStart c
    | [] => false
  if starts s then some (nameChars isNameChar s.length s)
  else
    match s with
    | '-' :: '-' :: s =>
      let (more, rest) := nameChars isNameChar s.length s
      some (consPiece (.ok ['-', '-']) more, rest)
    | '-' :: s =>
      if starts s then
        let (more, rest) := nameChars isNameChar s.length s
        some (consPiece (.ok ['-']) more, rest)
      else none
    | _ => none

/-- The text up to a closing quote, and what follows; `fuel` bounds the length. -/
def quotedText? (quote : Char) : Nat → List Char → Option (Unescaped × List Char)
  | 0, _ => none
  | _ + 1, [] => none
  | fuel + 1, '\\' :: s =>
    let found :=
      match s with
      | [] => none
      | '\r' :: '\n' :: s => some (Except.ok [], s)
      | c :: s' => if isLineEnd c then some (Except.ok [], s') else escape? s
    match found with
    | none => none
    | some (piece, rest) =>
      (quotedText? quote fuel rest).map fun (more, rest) => (consPiece piece more, rest)
  | fuel + 1, c :: s =>
    if c = quote then some (.ok [], s)
    else if isLineEnd c then none
    else (quotedText? quote fuel s).map fun (more, rest) => (consPiece (.ok [c]) more, rest)

/-- A quoted text or a name, and what follows it. -/
def value? (s : List Char) : Option (Unescaped × List Char) :=
  match s with
  | '"' :: r => quotedText? '"' s.length r
  | '\'' :: r => quotedText? '\'' s.length r
  | _ => name? s

/-- Values with commas between them; `fuel` bounds their number. -/
def values? : Nat → List Char → Option (Except Refusal (List String) × List Char)
  | 0, _ => none
  | fuel + 1, s => do
    let (v, rest) ← value? s
    let one : Except Refusal (List String) := v.map fun t => [String.ofList t]
    match gap rest with
    | ',' :: more =>
      match values? fuel (gap more) with
      | some (vs, rest) => return (do return (← one) ++ (← vs), rest)
      | none => return (one, rest)
    | _ => return (one, rest)

/-! ## Tokens -/

/-- Behind the closing bracket of a call. -/
def closed? (s : List Char) : Option (List Char) :=
  match gap s with
  | ')' :: rest => some rest
  | _ => none

def decimal (s : List Char) : Nat := s.foldl (fun n c => n * 10 + (c.toNat - 48)) 0

def isDecimal (c : Char) : Bool := '0' ≤ c && c ≤ '9'

/-- The sign that stands at the start, if any. -/
def sign (s : List Char) : Int × List Char :=
  match s with
  | '-' :: s => (-1, s)
  | '+' :: s => (1, s)
  | s => (1, s)

/-- A rule for positions, `even`, `odd` or like `2n+1`: its step and offset, and what follows. -/
def positions? (s : List Char) : Option (Int × Int × List Char) :=
  let low := s.map asciiLower
  if startsWith "even".toList low then some (2, 0, s.drop 4)
  else if startsWith "odd".toList low then some (2, 1, s.drop 3)
  else
    let (factor, s) := sign s
    let digits := s.takeWhile isDecimal
    match s.dropWhile isDecimal with
    | c :: rest =>
      if asciiLower c = 'n' then
        let step := factor * (if digits.isEmpty then 1 else (decimal digits : Int))
        let bare := some (step, 0, rest)
        match gap rest with
        | c :: more =>
          if c = '+' ∨ c = '-' then
            let offset := (gap more).takeWhile isDecimal
            if offset.isEmpty then bare
            else some (step, (sign [c]).1 * (decimal offset : Int), (gap more).dropWhile isDecimal)
          else bare
        | [] => bare
      else if digits.isEmpty then none
      else some (0, factor * (decimal digits : Int), c :: rest)
    | [] => if digits.isEmpty then none else some (0, factor * (decimal digits : Int), [])

/-- Behind the word `of` with blanks on both sides. -/
def ofWord? (s : List Char) : Option (List Char) :=
  let (blank, s) := skipGap s
  match s with
  | o :: f :: s =>
    let (blank', rest) := skipGap s
    if blank && blank' && asciiLower o = 'o' && asciiLower f = 'f' then some rest else none
  | _ => none

/-- The calls that have a form of their own. -/
def specialCall? (name : String) (s : List Char) : Option (Token × List Char) :=
  let listed (f : List String → Token) : Option (Token × List Char) := do
    let (vs, rest) ← values? s.length s
    let rest ← closed? rest
    match vs with
    | .ok vs => return (f vs, rest)
    | .error e => return (.refused e, rest)
  let counted (f : Int → Int → Token) : Option (Token × List Char) := do
    let (step, offset, rest) ← positions? s
    return (f step offset, ← closed? rest)
  let countedAmong (fromEnd : Bool) : Option (Token × List Char) := do
    let (step, offset, rest) ← positions? s
    match closed? rest with
    | some rest => return (.nth fromEnd step offset false, rest)
    | none => return (.nth fromEnd step offset true, ← ofWord? rest)
  match name with
  | "contains" | "-soup-contains" => listed (.containsText false)
  | "-soup-contains-own" => listed (.containsText true)
  | "nth-child" => countedAmong false
  | "nth-last-child" => countedAmong true
  | "nth-of-type" => counted (.nthOfTag false)
  | "nth-last-of-type" => counted (.nthOfTag true)
  | "lang" => listed .lang
  | "dir" =>
    let word := (s.take 3).map asciiLower
    if word == "ltr".toList || word == "rtl".toList then
      (closed? (s.drop 3)).map (Token.direction (word == "rtl".toList), ·)
    else none
  | _ => none

/-- A word behind a colon. -/
def pseudo (s : List Char) : Token × List Char :=
  match name? s with
  | none => (.refused .malformed, [])
  | some (.error e, rest) => (.refused e, rest)
  | some (.ok word, rest) =>
    let name := asciiLowered (String.ofList word)
    match rest with
    | '(' :: inner =>
      let inner := gap inner
      match specialCall? name inner with
      | some found => found
      | none =>
        if startsWith ['-', '-'] s then (.refused .malformed, [])
        else (.pseudoClass name true, inner)
    | _ =>
      if startsWith ['-', '-'] s then (.refused .malformed, []) else (.pseudoClass name false, rest)

/-- The token of an unescaped name. -/
def named (f : String → Token) (found : Unescaped × List Char) : Token × List Char :=
  match found with
  | (.ok word, rest) => (f (String.ofList word), rest)
  | (.error e, rest) => (.refused e, rest)

/-- A tag name, with or without a namespace. -/
def tag? (s : List Char) : Option (Token × List Char) :=
  let local? (s : List Char) : Option ((Bool → Token) × List Char) :=
    match s with
    | '*' :: rest => some (Token.tag none, rest)
    | s =>
      (name? s).map fun found =>
        match found with
        | (.ok word, rest) => (Token.tag (some (asciiLowered (String.ofList word))), rest)
        | (.error e, rest) => (fun _ => .refused e, rest)
  let bound (foreign : Bool) (s : List Char) : Option (Token × List Char) :=
    (local? s).map fun (f, rest) => (f foreign, rest)
  let qualified : Option (Token × List Char) :=
    match s with
    | '|' :: rest => bound true rest
    | '*' :: '|' :: rest => bound false rest
    | s =>
      match name? s with
      | some (_, '|' :: rest) => bound true rest
      | _ => none
  qualified.orElse fun _ => bound false s

/-- A condition in square brackets, behind the opening one. -/
def attr? (s : List Char) : Option (Token × List Char) := do
  let s := gap s
  let (found, rest) ←
    match s with
    | '|' :: r => name? r
    | '*' :: '|' :: r => name? r
    | s =>
      match name? s with
      | some (_, '|' :: r) => (name? r).orElse fun _ => name? s
      | found => found
  let finish (rest : List Char) : Option (List Char) :=
    match gap rest with
    | ']' :: rest => some rest
    | _ => none
  let compared : Option (Token × List Char) := do
    let rest := gap rest
    let (relation, negated, rest) ←
      match rest with
      | '=' :: r => some (AttrRelation.equals, false, r)
      | '!' :: '=' :: r => some (.equals, true, r)
      | '~' :: '=' :: r => some (.hasWord, false, r)
      | '^' :: '=' :: r => some (.opens, false, r)
      | '|' :: '=' :: r => some (.dashed, false, r)
      | '*' :: '=' :: r => some (.contains, false, r)
      | '$' :: '=' :: r => some (.closes, false, r)
      | _ => none
    let (value, rest) ← value? (gap rest)
    let (flag, rest) ←
      match finish rest with
      | some rest => some (none, rest)
      | none =>
        match gap rest with
        | c :: r =>
          if asciiLower c = 'i' ∨ asciiLower c = 's' then
            (finish r).map (some (asciiLower c), ·)
          else none
        | [] => none
    match found, value with
    | .ok name, .ok value =>
      let name := asciiLowered (String.ofList name)
      let ignoreCase := match flag with
        | some c => c = 'i'
        | none => name == "type"
      return (.attr name (some ⟨relation, String.ofList value, ignoreCase⟩) negated, rest)
    | .error e, _ | _, .error e => return (.refused e, rest)
  match finish rest with
  | some rest => return named (Token.attr · none false) (found.map (·.map asciiLower), rest)
  | none => compared

/-- The combinator at the start, with the blanks around it. -/
def combinator? (s : List Char) : Option (Token × List Char) :=
  let (blank, rest) := skipGap s
  match rest with
  | ',' :: rest => some (.combinator none, gap rest)
  | '+' :: rest => some (.combinator (some .next), gap rest)
  | '>' :: rest => some (.combinator (some .child), gap rest)
  | '~' :: rest => some (.combinator (some .sibling), gap rest)
  | rest => if blank then some (.combinator (some .descendant), rest) else none

/-- The first token of a text and what follows it. -/
def token (s : List Char) : Token × List Char :=
  match closed? s with
  | some rest => (.close, rest)
  | none =>
    let found :=
      match s with
      | ':' :: ':' :: _ => none
      | ':' :: rest => some (pseudo rest)
      | '&' :: rest => some (.scope, rest)
      | '#' :: rest => (name? rest).map (named .id)
      | '.' :: rest => (name? rest).map (named .hasClass)
      | '[' :: rest => attr? rest
      | s => (tag? s).orElse fun _ => combinator? s
    found.getD (.refused .malformed, [])

/-- The tokens of a text; `fuel` bounds its length. -/
def tokensWith : Nat → List Char → List Token
  | 0, _ => []
  | fuel + 1, s =>
    if (gap s).isEmpty then []
    else
      let (t, rest) := token s
      t :: tokensWith fuel rest

/-- The tokens of a selector. -/
def tokens (selector : String) : List Token :=
  let s := selector.toList.map fun c => if c = '\x00' then '\uFFFD' else c
  tokensWith (s.length + 1) (gap s)

end TrackerSearch.Selector
