import TrackerSearch.Text.Blank
import TrackerSearch.Text.Pieces

/-!
# Templates

A template is text with actions between double braces. A hyphen inside the braces trims the text on
its side of the action. Here a template is cut into literals and actions, and the body of an action
into tokens.
-/
namespace TrackerSearch.Template

open TrackerSearch.Text

def openBraces : List Char := ['\x7b', '\x7b']
def closeBraces : List Char := ['\x7d', '\x7d']

/-- What stands between double braces. -/
structure Action where
  /-- Trim the literal before the action. -/
  trimLeft : Bool
  body : List Char
  /-- Trim the literal after the action. -/
  trimRight : Bool
  deriving Repr, DecidableEq

/-- The action with the given text between its braces. -/
def Action.ofInner (inner : List Char) : Action :=
  let trimLeft := inner.head? == some '-'
  let inner := if trimLeft then inner.drop 1 else inner
  let trimRight := inner.getLast? == some '-'
  ⟨trimLeft, if trimRight then inner.dropLast else inner, trimRight⟩

/-- An action as it was written. -/
def Action.source (a : Action) : List Char :=
  openBraces ++ (if a.trimLeft then ['-'] else []) ++ a.body ++
    (if a.trimRight then ['-'] else []) ++ closeBraces

/-- A literal and the action behind it. -/
abbrev Segment := List Char × Action

/-- Cut a template at its actions; the second part is the literal after the last one. An action ends
at the first closing braces. -/
def segments (s : List Char) : List Segment × List Char :=
  match h : cutAt? openBraces s with
  | none => ([], s)
  | some (literal, rest) =>
    match h' : cutAt? closeBraces rest with
    | none => ([], s)
    | some (inner, rest') =>
      have : rest'.length < s.length := by
        have h₁ := length_of_cutAt? h
        have h₂ := length_of_cutAt? h'
        simp only [openBraces, closeBraces, List.length_cons, List.length_nil] at h₁ h₂
        omega
      let (more, tail) := segments rest'
      ((literal, Action.ofInner inner) :: more, tail)
termination_by s.length

/-- The rest of a double-quoted text after its opening quote: what it holds up to and including the
closing quote, and what follows. A backslash takes the next character along, unless that is a line
break. -/
def quotedRest? : List Char → Option (List Char × List Char)
  | [] => none
  | '"' :: s => some (['"'], s)
  | '\\' :: c :: s =>
    if c = '\n' then none else (quotedRest? s).map fun (q, r) => ('\\' :: c :: q, r)
  | ['\\'] => none
  | c :: s => (quotedRest? s).map fun (q, r) => (c :: q, r)

/-- A character that can be part of an unquoted token. -/
def isPlain (c : Char) : Bool := !isBlank c && c != '|'

/-- The token at the start of a text: a quoted text, a back-quoted text, a bar, or a run of other
characters. At a blank there is none. -/
def token? (s : List Char) : Option (List Char × List Char) :=
  match s with
  | [] => none
  | c :: rest =>
    let plain := if isPlain c then some (s.takeWhile isPlain, s.dropWhile isPlain) else none
    if c = '"' then
      match quotedRest? rest with
      | some (q, r) => some ('"' :: q, r)
      | none => plain
    else if c = '`' then
      match rest.dropWhile (· != '`') with
      | _ :: r => some ('`' :: rest.takeWhile (· != '`') ++ ['`'], r)
      | [] => plain
    else if c = '|' then some (['|'], rest)
    else plain

/-- The tokens of an action's body; `fuel` is at least the length of the text. -/
def tokensOf : Nat → List Char → List (List Char)
  | 0, _ => []
  | _, [] => []
  | fuel + 1, c :: s =>
    match token? (c :: s) with
    | some (t, rest) => t :: tokensOf fuel rest
    | none => tokensOf fuel s

def tokens (body : List Char) : List (List Char) := tokensOf body.length body

/-- A token in quotes or back quotes. -/
def isLiteral (t : List Char) : Bool :=
  2 ≤ t.length && t.head? == t.getLast? && (t.head? == some '"' || t.head? == some '`')

/-- The text of a quoted token: escaped quotes first, then doubled backslashes. -/
def unquote (t : List Char) : List Char :=
  let body := (t.drop 1).dropLast
  if t.head? = some '`' then body
  else replaceAll ['\\', '\\'] ['\\'] (replaceAll ['\\', '"'] ['"'] body)

/-- The commands of a pipeline: the tokens between bars. -/
def pipeline (ts : List (List Char)) : List (List (List Char)) :=
  ts.foldr (fun t commands =>
    if t = ['|'] then [] :: commands
    else match commands with
      | [] => [[t]]
      | c :: rest => (t :: c) :: rest) [[]]

end TrackerSearch.Template
