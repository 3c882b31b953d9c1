import TrackerSearch.Config.Dotenv
import TrackerSearch.Yaml.Wording

/-!
# Loading the configuration

The layers are, from the lowest up: the defaults, a file in YAML, the environment together with a
file of variables, and what the command line gives.
-/
namespace TrackerSearch.Config

open Text

/-- Where settings come from. -/
structure Sources where
  files : FileTree
  environment : Variables
  configFile : Option Location := none
  variablesFile : Option Location := none
  overrides : Entries := []
  /-- The homes of the accounts on the system. -/
  accounts : Homes := {}

/-- The homes that are known in an environment, which may say itself where the user's is. -/
def Sources.homes (s : Sources) (vars : Variables) : Homes :=
  { s.accounts with own := (vars.lookup? "HOME").or s.accounts.own }

/-- The text of a file that has to be there. -/
def readFile (files : FileTree) (l : Location) : Except ConfigError (List Char) := do
  let some path := files.locate? l | .error (.notFound l.text)
  match files.read path with
  | .error _ => .error .isDirectory
  | .ok bytes =>
    match utf8Defect? bytes with
    | some defect => .error (.badEncoding defect)
    | none => .ok (FileTree.unixLines (utf8Lossy bytes))

/-- The environment with the variables of a file; a directory has none. -/
def environmentOf (s : Sources) : Except ConfigError Variables :=
  match s.variablesFile with
  | none => .ok s.environment
  | some l =>
    if (s.files.locate? l).any s.files.isDirectory then .ok s.environment
    else do (Dotenv.loaded s.environment (← readFile s.files l)).mapError .badValue

/-- The layer of a text in YAML; an empty one gives nothing. -/
def layerOf (text : List Char) : Except ConfigError Entries :=
  match Yaml.read text with
  | .error .malformed | .error .circular => .error .badYaml
  | .error (.badValue .badValue) => .error (.badValue (Yaml.wording text))
  | .error (.badValue fault) => .error (.fault fault)
  | .ok .null => .ok []
  | .ok (.map entries) => .ok entries
  | .ok d => .error (.notAMapping d.kindName)

/-- The layer of the configuration file. -/
def fileLayer (s : Sources) : Except ConfigError Entries :=
  match s.configFile with
  | none => .ok []
  | some l => do layerOf (← readFile s.files l)

/-- The configuration from all sources. -/
def load (s : Sources) : Except ConfigError Config := do
  let vars ← environmentOf s
  let file ← fileLayer s
  let homes := s.homes vars
  let given ← ofVariables homes vars
  ofEntries homes (stack [defaults, file, given, s.overrides])

end TrackerSearch.Config
