import TrackerSearch.Config.Check

/-!
# Files of variables

A file of variables has one assignment a line, `NAME=value`. A value may be quoted; in double quotes
a backslash starts an escape. `${NAME}` and `${NAME:-text}` stand for the value of a variable,
whatever the quotes. Lines that cannot be read are passed over.
-/
namespace TrackerSearch.Dotenv

open Text

/-- White space inside a line. -/
def isGap (c : Char) : Bool := isBlank c && c != '\r' && c != '\n'

def isLineEnd (c : Char) : Bool := c == '\r' || c == '\n'

/-- The rest of a quoted value and what follows the closing quote. A quote after a backslash closes
only if no other one does. -/
def quotedEnd? (quote : Char) : List Char → Option (List Char × List Char)
  | [] => none
  | '\\' :: c :: s =>
    if c = quote then
      match quotedEnd? quote s with
      | some (value, rest) => some ('\\' :: c :: value, rest)
      | none => some (['\\'], s)
    else (quotedEnd? quote (c :: s)).map fun (value, rest) => ('\\' :: value, rest)
  | c :: s =>
    if c = quote then some ([], s)
    else (quotedEnd? quote s).map fun (value, rest) => (c :: value, rest)

/-- The character that a letter after a backslash stands for, inside the given quote. -/
def escape? (quote c : Char) : Option Char :=
  if c = '\\' ∨ c = '\'' then some c
  else if quote = '\'' then none
  else
    match c with
    | '"' => some '"'
    | 'a' => some '\x07'
    | 'b' => some '\x08'
    | 'f' => some '\x0c'
    | 'n' => some '\n'
    | 'r' => some '\r'
    | 't' => some '\t'
    | 'v' => some '\x0b'
    | _ => none

/-- A quoted value without its escapes. -/
def unescaped (quote : Char) : List Char → List Char
  | '\\' :: c :: s =>
    match escape? quote c with
    | some e => e :: unescaped quote s
    | none => '\\' :: unescaped quote (c :: s)
  | c :: s => c :: unescaped quote s
  | [] => []

/-- A line up to a comment: a `#` after white space. -/
def beforeComment : List Char → List Char
  | [] => []
  | c :: s =>
    if isBlank c && (s.dropWhile isBlank).head? = some '#' then [] else c :: beforeComment s

/-- The value after an equals sign, and what follows it. -/
def value? (s : List Char) : Option (List Char × List Char) :=
  match s with
  | '\'' :: s => (quotedEnd? '\'' s).map fun (v, rest) => (unescaped '\'' v, rest)
  | '"' :: s => (quotedEnd? '"' s).map fun (v, rest) => (unescaped '"' v, rest)
  | s =>
    let line := s.takeWhile (!isLineEnd ·)
    some (trimEnd (beforeComment line), s.dropWhile (!isLineEnd ·))

/-- The word `export` with the white space after it, left out. -/
def dropExport (s : List Char) : List Char :=
  match dropLead? "export".toList s with
  | some rest => if (rest.head?.map isGap).getD false then rest.dropWhile isGap else s
  | none => s

/-- A name before an equals sign, and what follows it; a comment has none. -/
def key? (s : List Char) : Option (Option (List Char) × List Char) :=
  let plain (c : Char) : Bool := c != '=' && c != '#' && !isBlank c
  match s with
  | '#' :: _ => some (none, s)
  | '\'' :: s =>
    let name := s.takeWhile (· != '\'')
    match s.dropWhile (· != '\'') with
    | '\'' :: rest => if name.isEmpty then none else some (some name, rest)
    | _ => none
  | s =>
    let name := s.takeWhile plain
    if name.isEmpty then none else some (some name, s.dropWhile plain)

/-- The rest after a line end, with an optional comment before it. -/
def lineEnd? (s : List Char) : Option (List Char) :=
  let s := s.dropWhile isGap
  let s := if s.head? = some '#' then s.dropWhile (!isLineEnd ·) else s
  match s with
  | [] => some []
  | '\r' :: '\n' :: rest => some rest
  | c :: rest => if isLineEnd c then some rest else none

/-- The next line with its end, left out. -/
def dropLine (s : List Char) : List Char :=
  (s.dropWhile (!isLineEnd ·)).drop 1

/-- A line of the file: a variable with its value if it has one, and what follows. -/
def binding (s : List Char) : Option (String × List Char) × List Char :=
  let s := dropExport (s.dropWhile isBlank)
  match key? s with
  | none => (none, dropLine s)
  | some (key, s) =>
    let s := s.dropWhile isGap
    let assigned : Option (Option (List Char) × List Char) := match s with
      | '=' :: rest => (value? (rest.dropWhile isGap)).map fun (v, rest) => (some v, rest)
      | s => some (none, s)
    match assigned with
    | none => (none, dropLine s)
    | some (value, rest) =>
      match lineEnd? rest with
      | none => (none, dropLine rest)
      | some rest =>
        match key, value with
        | some key, some value => (some (String.ofList key, value), rest)
        | _, _ => (none, rest)

/-- All assignments of a file, in order. -/
def bindings (s : List Char) : List (String × List Char) :=
  if s.isEmpty then []
  else
    let (first, rest) := binding s
    if rest.length < s.length then first.toList ++ bindings rest else first.toList
termination_by s.length

/-- The name and the text of a reference after its opening brace, and what follows it. -/
def reference? (s : List Char) : Option (String × List Char × List Char) :=
  let inName (c : Char) : Bool := c != '}' && c != ':'
  let name := String.ofList (s.takeWhile inName)
  match s.dropWhile inName with
  | '}' :: rest => some (name, [], rest)
  | ':' :: '-' :: rest =>
    match rest.dropWhile (· != '}') with
    | '}' :: after => some (name, rest.takeWhile (· != '}'), after)
    | _ => none
  | _ => none

/-- A value with the values of variables in the place of references. -/
def expanded (vars : Variables) (s : List Char) : List Char :=
  match s with
  | [] => []
  | '$' :: '{' :: inner =>
    match reference? inner with
    | some (name, text, rest) =>
      let value := ((vars.lookup? name).map (·.toList)).getD text
      if rest.length < inner.length then value ++ expanded vars rest else value
    | none => '$' :: expanded vars ('{' :: inner)
  | c :: rest => c :: expanded vars rest
termination_by s.length
decreasing_by all_goals (simp only [List.length_cons] at *; omega)

/-- The variables of a file; a reference sees the environment first, then the lines before. -/
def assignments (environment : Variables) (s : List Char) : Variables :=
  (bindings s).foldl (fun vars (name, value) =>
    let seen := vars.overlay environment
    insertKey vars name (String.ofList (expanded seen value))) []

/-- What keeps a variable from being set. -/
def refusal? (name value : String) : Option String :=
  if name.toList.contains '\x00' || value.toList.contains '\x00' then some "embedded null byte"
  else if name.toList.contains '=' then some "illegal environment variable name"
  else none

/-- An environment with the variables of a file; those that are there already stay. -/
def loaded (environment : Variables) (s : List Char) : Except String Variables :=
  (assignments environment s).foldlM (fun vars (name, value) =>
    if (vars.lookup? name).isSome then .ok vars
    else
      match refusal? name value with
      | some message => .error message
      | none => .ok (vars ++ [(name, value)])) environment

end TrackerSearch.Dotenv
