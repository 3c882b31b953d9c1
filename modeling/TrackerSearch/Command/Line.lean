import TrackerSearch.Command.Grammar
import TrackerSearch.Config.Basic
import TrackerSearch.Number.Integer

/-!
# The command line of the program

Options of the program come first, then a command with options of its own.
-/
namespace TrackerSearch.Command

open Text

/-- What a search is asked for. -/
structure SearchOptions where
  keywords : String := ""
  minSeeders : Int := 0
  category : Option String := none
  indexers : List String := []
  resolveDownload : Bool := false
  viaRelay : Bool := false
  deriving Repr, DecidableEq

/-- What a probe is asked for; without identifiers, all definitions are probed. -/
structure ProbeOptions where
  ids : List String := []
  viaRelay : Bool := false
  deriving Repr, DecidableEq

inductive Order where
  | list
  | probe (options : ProbeOptions)
  | search (options : SearchOptions)
  deriving Repr, DecidableEq

/-- Does a command ask for the relay? -/
def Order.viaRelay : Order → Bool
  | list => false
  | probe options => options.viaRelay
  | search options => options.viaRelay

/-- A command line that has been read. -/
structure Invocation where
  configFile : Option String := none
  variablesFile : Option String := none
  definitionsDir : Option String := none
  logLevel : Option LogLevel := none
  logFormat : Option LogFormat := none
  /-- The command; reading a line always sets it. -/
  order : Order := .list
  deriving Repr, DecidableEq

/-- The name of the program. -/
def programName : String := "indexarr"

def helpFlag (σ : Type) : Flag σ := ⟨["-h", "--help"], .help⟩

/-- A refused choice between words. -/
def invalidChoice (word : String) (choices : List String) : String :=
  "invalid choice: " ++ quoted word ++ " (choose from " ++ ", ".intercalate (choices.map quoted) ++ ")"

/-- The value of a word out of several. -/
def choiceOf {α : Type} (choices : List (String × α)) (word : String) : Except String α :=
  match choices.find? (·.1 == word) with
  | some (_, a) => .ok a
  | none => .error (invalidChoice word (choices.map (·.1)))

/-- The value of a numeral. -/
def integerOf (word : String) : Except String Int :=
  match Number.readInt? word.toList with
  | some n => .ok n
  | none => .error ("invalid int value: " ++ quoted word)

def listGrammar : Grammar Unit where
  program := programName ++ " list"
  flags := [helpFlag Unit]
  operands := .none

def probeGrammar : Grammar ProbeOptions where
  program := programName ++ " probe"
  flags := [helpFlag _, ⟨["--relay"], .switch fun o => { o with viaRelay := true }⟩]
  operands := .many fun id o => { o with ids := o.ids ++ [id] }

def searchGrammar : Grammar SearchOptions where
  program := programName ++ " search"
  flags := [helpFlag _,
    ⟨["--min-seeders"], .value fun v o => do return { o with minSeeders := ← integerOf v }⟩,
    ⟨["--category"], .value fun v o => .ok { o with category := some v }⟩,
    ⟨["--indexer"], .value fun v o => .ok { o with indexers := o.indexers ++ [v] }⟩,
    ⟨["--resolve-download"], .switch fun o => { o with resolveDownload := true }⟩,
    ⟨["--relay"], .switch fun o => { o with viaRelay := true }⟩]
  operands := .one "keywords" fun v o => { o with keywords := v }

/-- Read the words after the name of a command. -/
def orderOf {α : Type} (g : Grammar α) (start : α) (make : α → Order) (words : List String) :
    Except Stop (Order × List String) := do
  let (options, unknown) ← g.read words start
  return (make options, unknown)

/-- The commands by name. -/
def orders : List (String × (List String → Except Stop (Order × List String))) :=
  [("list", orderOf listGrammar () fun _ => .list),
    ("probe", orderOf probeGrammar {} .probe),
    ("search", orderOf searchGrammar {} .search)]

/-- Read a command and its words. -/
def readOrder (words : List String) (i : Invocation) : Except Stop (Invocation × List String) :=
  match choiceOf orders (words.headD "") with
  | .error reason => .error (.misuse programName ("argument command: " ++ reason))
  | .ok read => do
    let (order, unknown) ← read words.tail
    return ({ i with order }, unknown)

def grammar : Grammar Invocation where
  program := programName
  flags := [helpFlag _,
    ⟨["--config"], .value fun v i => .ok { i with configFile := some v }⟩,
    ⟨["--dotenv"], .value fun v i => .ok { i with variablesFile := some v }⟩,
    ⟨["--definitions-dir"], .value fun v i => .ok { i with definitionsDir := some v }⟩,
    ⟨["--log-level"], .value fun v i => do
      return { i with logLevel := some (← choiceOf LogLevel.names v) }⟩,
    ⟨["--log-format"], .value fun v i => do
      return { i with logFormat := some (← choiceOf LogFormat.names v) }⟩]
  operands := .command "command" readOrder

/-- Read the words of a command line. -/
def Invocation.ofWords (words : List String) : Except Stop Invocation := grammar.readAll words {}

end TrackerSearch.Command
