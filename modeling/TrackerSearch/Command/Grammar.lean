import TrackerSearch.Text.Digit
import TrackerSearch.Text.Pieces
import TrackerSearch.Text.Quoted

/-!
# Command lines

A command line is read by a grammar: the options that a program knows, and what it does with the
other words. An option is given by its name, or by the beginning of a long name if that fits no other
one; its value is the next word, or what follows an equals sign. After a bare `--` no word is an
option. A word that nobody knows is passed on.
-/
namespace TrackerSearch.Command

open Text

/-- Why a command line is not carried out. -/
inductive Stop where
  /-- The usage is asked for. -/
  | help (program : String)
  | misuse (program message : String)
  deriving Repr, DecidableEq

/-- What an option does to what has been read so far. -/
inductive Effect (σ : Type) where
  | help
  | switch (set : σ → σ)
  /-- The option takes a value, which it may refuse with a reason. -/
  | value (set : String → σ → Except String σ)

/-- An option under its names. -/
structure Flag (σ : Type) where
  names : List String
  effect : Effect σ

/-- What a program does with the words that are no options. -/
inductive Operands (σ : Type) where
  | none
  | one (name : String) (set : String → σ → σ)
  | many (add : String → σ → σ)
  /-- A command reads itself and the rest of the line; it gives back the words that it does not
  know. -/
  | command (name : String) (read : List String → σ → Except Stop (σ × List String))

structure Grammar (σ : Type) where
  program : String
  flags : List (Flag σ)
  operands : Operands σ

/-- A text in the word of an option, after an equals sign or right after its name. -/
structure Attachment where
  afterEquals : Bool
  text : List Char
  deriving Repr, DecidableEq

/-- An option in a word, and the text that is attached to it. -/
structure Mention (σ : Type) where
  flag : Flag σ
  name : String
  attached : Option Attachment

/-- The options in a word, the value of the last one if it is attached, and the rest of the word if
nobody knows it. -/
structure Bundle (σ : Type) where
  flags : List (Flag σ)
  value : Option String := none
  unknown : List String := []

/-- What a word is. -/
inductive Role (σ : Type) where
  | operand
  /-- The `--` after which no word is an option. -/
  | divider
  | mention (m : Mention σ)
  | unknown

/-- Where the words that are no options go. Several of them have to stand together. -/
inductive Slot where
  | free
  | filling
  | full
  deriving Repr, DecidableEq

/-- How far a command line has been read. -/
structure Progress (σ : Type) where
  state : σ
  slot : Slot := .free
  unknown : List String := []

namespace Flag

variable {σ : Type}

def takesValue (f : Flag σ) : Bool :=
  match f.effect with
  | .value _ => true
  | _ => false

/-- What is wrong with an option. -/
def wrong (f : Flag σ) (reason : String) : String :=
  "argument " ++ "/".intercalate f.names ++ ": " ++ reason

/-- What is wrong with an option that has a text attached but takes no value. -/
def ignores (f : Flag σ) (attached : List Char) : String :=
  f.wrong ("ignored explicit argument " ++ quoted (String.ofList attached))

end Flag

/-- Has an option a name with a single hyphen? -/
def Mention.isShort {σ : Type} (m : Mention σ) : Bool := !startsWith ['-', '-'] m.name.toList

/-- The option that needs the next word for its value. -/
def Bundle.waiting? {σ : Type} (b : Bundle σ) : Option (Flag σ) :=
  if b.value.isSome then none else b.flags.getLast?.filter (·.takesValue)

/-- A negative number, which is no option. -/
def isNegativeNumber (s : List Char) : Bool :=
  match s with
  | '-' :: rest =>
    let rest := if rest.getLast? = some '\n' then rest.dropLast else rest
    match rest.dropWhile isDigit with
    | [] => !rest.isEmpty
    | '.' :: fraction => !fraction.isEmpty && fraction.all isDigit
    | _ => false
  | _ => false

namespace Progress

variable {σ : Type}

/-- A word that is no operand ends a run of operands. -/
def closed (p : Progress σ) : Progress σ :=
  { p with slot := if p.slot = .free then .free else .full }

def skip (p : Progress σ) (word : String) : Progress σ := { p with unknown := p.unknown ++ [word] }

end Progress

namespace Grammar

variable {σ α : Type}

def misuse (g : Grammar σ) (message : String) : Except Stop α := .error (.misuse g.program message)

/-- All names of options with their options. -/
def names (g : Grammar σ) : List (String × Flag σ) :=
  g.flags.flatMap fun f => f.names.map fun name => (name, f)

def flag? (g : Grammar σ) (name : String) : Option (Flag σ) :=
  (g.names.find? (·.1 == name)).map (·.2)

/-- A full name with a text after an equals sign. -/
def assignment? (g : Grammar σ) (s : List Char) : Option (Mention σ) := do
  let (name, attached) ← cutAt? ['='] s
  let flag ← g.flag? (String.ofList name)
  return ⟨flag, String.ofList name, some ⟨true, attached⟩⟩

/-- The options whose long name a word begins, or whose short name begins the word. -/
def completions (g : Grammar σ) (s : List Char) : List (Mention σ) :=
  match s with
  | '-' :: '-' :: _ =>
    let (start, attached) : List Char × Option Attachment := match cutAt? ['='] s with
      | some (start, attached) => (start, some ⟨true, attached⟩)
      | none => (s, none)
    g.names.filterMap fun (name, f) =>
      if startsWith start name.toList then some ⟨f, name, attached⟩ else none
  | '-' :: c :: attached =>
    g.names.filterMap fun (name, f) =>
      if name.toList = ['-', c] then some ⟨f, name, some ⟨false, attached⟩⟩ else none
  | _ => []

/-- What a word before `--` is. -/
def roleOf (g : Grammar σ) (word : String) : Except Stop (Role σ) :=
  let s := word.toList
  if s.head? ≠ some '-' then .ok .operand
  else
    match g.flag? word with
    | some f => .ok (.mention ⟨f, word, none⟩)
    | none =>
      if s.length = 1 then .ok .operand
      else
        match g.assignment? s, g.completions s with
        | some m, _ | none, [m] => .ok (.mention m)
        | none, [] => .ok (if isNegativeNumber s || s.contains ' ' then .operand else .unknown)
        | none, several => g.misuse ("ambiguous option: " ++ word ++ " could match " ++
            ", ".intercalate (several.map (·.name)))

/-- What the words of a line are. -/
def rolesOf (g : Grammar σ) : List String → Except Stop (List (String × Role σ))
  | [] => .ok []
  | word :: rest =>
    if word = "--" then .ok ((word, .divider) :: rest.map fun w => (w, .operand))
    else do
      let role ← g.roleOf word
      return (word, role) :: (← g.rolesOf rest)

/-- The options in a word, from one of them and the text attached to it on. Short options without
values may share a word. -/
def unbundle (g : Grammar σ) (f : Flag σ) (isShort afterEquals : Bool) :
    List Char → Except Stop (Bundle σ)
  | [] => if f.takesValue then .ok { flags := [f], value := some "" } else g.misuse (f.ignores [])
  | c :: rest =>
    if f.takesValue then .ok { flags := [f], value := some (String.ofList (c :: rest)) }
    else if !isShort || afterEquals || c = '-' then g.misuse (f.ignores (c :: rest))
    else
      let adding (b : Bundle σ) : Bundle σ := { b with flags := f :: b.flags }
      match g.flag? (String.ofList ['-', c]), rest with
      | none, _ => .ok { flags := [f], unknown := [String.ofList ('-' :: c :: rest)] }
      | some next, [] => .ok { flags := [f, next] }
      | some next, '=' :: text => return adding (← g.unbundle next true true text)
      | some next, text => return adding (← g.unbundle next true false text)

/-- The options that are mentioned. -/
def bundle (g : Grammar σ) (m : Mention σ) : Except Stop (Bundle σ) :=
  match m.attached with
  | none => .ok { flags := [m.flag] }
  | some a => g.unbundle m.flag m.isShort a.afterEquals a.text

def applyFlag (g : Grammar σ) (value : String) (s : σ) (f : Flag σ) : Except Stop σ :=
  match f.effect with
  | .help => .error (.help g.program)
  | .switch set => .ok (set s)
  | .value set =>
    match set value s with
    | .ok s => .ok s
    | .error reason => g.misuse (f.wrong reason)

/-- Apply options, the last one with its value. -/
def applyBundle (g : Grammar σ) (p : Progress σ) (b : Bundle σ) (value : String) :
    Except Stop (Progress σ) := do
  let state ← b.flags.foldlM (g.applyFlag value) p.state
  return { p.closed with state, unknown := p.unknown ++ b.unknown }

/-- Read words from left to right. -/
def readWords (g : Grammar σ) : List (String × Role σ) → Progress σ → Except Stop (Progress σ)
  | [], p => .ok p
  | (word, .unknown) :: rest, p => g.readWords rest (p.closed.skip word)
  | (_, .mention m) :: rest, p => do
    let b ← g.bundle m
    match b.waiting?, rest with
    | none, rest => g.readWords rest (← g.applyBundle p b (b.value.getD ""))
    | some _, (next, .operand) :: rest => g.readWords rest (← g.applyBundle p b next)
    | some f, _ => g.misuse (f.wrong "expected one argument")
  | (word, .divider) :: rest, p =>
    match g.operands, p.slot, rest with
    | .many _, .free, rest | .many _, .filling, rest =>
      g.readWords rest { p with slot := .filling }
    | .one _ set, .free, (next, .operand) :: rest =>
      g.readWords rest { p with state := set next p.state, slot := .full }
    | .command _ read, .free, next :: rest => do
      let (state, unknown) ← read (word :: next.1 :: rest.map (·.1)) p.state
      return { state, slot := .full, unknown := p.unknown ++ unknown }
    | _, _, rest => g.readWords rest (p.skip word)
  | (word, .operand) :: rest, p =>
    match g.operands, p.slot, rest with
    | .many add, .free, rest | .many add, .filling, rest =>
      g.readWords rest { p with state := add word p.state, slot := .filling }
    | .one _ set, .free, (_, .divider) :: rest | .one _ set, .free, rest =>
      g.readWords rest { p with state := set word p.state, slot := .full }
    | .command _ read, .free, rest => do
      let (state, unknown) ← read (word :: rest.map (·.1)) p.state
      return { state, slot := .full, unknown := p.unknown ++ unknown }
    | _, _, rest => g.readWords rest (p.skip word)

/-- Read a line; the words that nobody knows are left over. -/
def read (g : Grammar σ) (words : List String) (start : σ) : Except Stop (σ × List String) := do
  let p ← g.readWords (← g.rolesOf words) { state := start }
  match g.operands, p.slot with
  | .one name _, .free | .command name _, .free =>
    g.misuse s!"the following arguments are required: {name}"
  | _, _ => return (p.state, p.unknown)

/-- Read a line of known words only. -/
def readAll (g : Grammar σ) (words : List String) (start : σ) : Except Stop σ := do
  let (s, unknown) ← g.read words start
  if unknown.isEmpty then return s
  else g.misuse ("unrecognized arguments: " ++ " ".intercalate unknown)

end Grammar
end TrackerSearch.Command
