import TrackerSearch.Config.Layer
import TrackerSearch.Document.Check
import TrackerSearch.Definition.Basic

/-!
# Checking settings

`Config.ofEntries` reads a merged layer into a configuration and lists everything that does not fit.
Variables of the environment are checked on their own before they are merged.
-/
namespace TrackerSearch

open Text Number

/-- Variables of the environment by name. -/
abbrev Variables := Table String

/-- Which of the two checks refuses something. -/
inductive ConfigSchema where
  | merged
  | environment
  deriving Repr, DecidableEq

def ConfigSchema.title : ConfigSchema → String
  | merged => "AppConfig"
  | environment => "EnvOverrides"

/-- Why there is no configuration. -/
inductive ConfigError where
  | notFound (path : String)
  /-- A file that is there cannot be read: it is a directory, or the system does not let it be
  read. -/
  | isDirectory
  | badEncoding (defect : Utf8Defect)
  | badYaml
  | notAMapping (kind : String)
  | mismatches (schema : ConfigSchema) (problems : List Mismatch)
  /-- A path is not given as text. -/
  | notAPath (kind : String)
  /-- A path starts at the home directory of somebody unknown. -/
  | noHome
  /-- A value in one of the files is not acceptable. -/
  | badValue (message : String)
  | fault (cause : Fault)
  deriving Repr, DecidableEq

/-- How the kind of a value is called. -/
def Document.kindName : Document → String
  | null => "NoneType"
  | bool _ => "bool"
  | int _ => "int"
  | float _ => "float"
  | str _ => "str"
  | bytes _ => "bytes"
  | date .. => "datetime.date"
  | moment .. => "datetime.datetime"
  | list _ => "list"
  | set _ => "set"
  | map _ => "dict"

/-- The wording of a failure, as far as it is the program's own. -/
def ConfigError.message? : ConfigError → Option String
  | notFound path => some path
  | notAMapping kind => some s!"Config YAML must be a mapping, got: <class '{kind}'>"
  | notAPath kind => some s!"Expected path-like value, got: <class '{kind}'>"
  | _ => none

/-- The first line of the wording of a failure that is one of the settings; the others are failures
of the files that they are read from. -/
def ConfigError.headline? : ConfigError → Option String
  | notFound path => some path
  | notAMapping kind => (notAMapping kind).message?
  | badEncoding defect => some defect.message
  | mismatches schema problems => some (Mismatch.headline schema.title problems)
  | badValue message => some message
  | _ => none

namespace Config

/-- What is put before the names of settings in the environment. -/
def variableLead : String := "INDEXARR_"

/-- A refused value. -/
def refused {α : Type} (message : String) : Checked α :=
  .mismatch "value_error" ("Value error, " ++ message)

/-- A value for which a condition holds. -/
def checkThat {α : Type} (fits : α → Bool) (message : String) (x : Checked α) : Checked α :=
  x.andThen fun a => if fits a then .ok a else refused message

/-- A number that is not zero or less; what is no number counts as fitting. -/
def isPositive (x : Binary64) : Bool :=
  match Binary64.compare? x (Binary64.ofInt 0) with
  | some .lt | some .eq => false
  | _ => true

/-- A path as text, with the home directory in the place of a tilde. What is no text ends the reading
of all settings, and so does a home that is not known, unless its account cannot even be looked up. -/
def pathOf (homes : Homes) : Document → Except ConfigError (Checked Location)
  | .str s =>
    let l := Location.ofString s
    match l.expandHome? homes with
    | some l => .ok (.ok l)
    | none =>
      if l.account?.any isNoAccount then .ok (refused "embedded null byte") else .error .noHome
  | d => .error (.notAPath d.kindName)

/-- An address without the blanks around it, if anything is left. -/
def addressOf (s : Option String) : Option String :=
  s.bind fun s => if (stripped s).isEmpty then none else some (stripped s)

/-- The steps to the place of a setting. -/
def underPlace {α : Type} (s : Setting) (x : Checked α) : Checked α :=
  match s.place with
  | (none, key) => x.under (.key key)
  | (some name, key) => (x.under (.key key)).under (.key name)

/-- Check the value of a setting. -/
def reading {α : Type} (entries : Entries) (s : Setting) (check : Document → Checked α) :
    Checked α :=
  underPlace s (check ((get? entries s).getD s.default))

/-- All settings, given how the directory of definitions is read. -/
def checkAll (entries : Entries) (dir : Checked Location) : Checked Config :=
  let name := reading entries .appName Document.asString
  let deployment := reading entries .deployment (Document.oneOf Deployment.names)
  let timeout := reading entries .httpTimeout fun d =>
    checkThat isPositive "http_timeout_seconds must be > 0" d.asNumber
  let redirects := reading entries .followRedirects Document.asBool
  let agent := reading entries .userAgent Document.asString
  let relay := reading entries .relayUrl fun d => (d.nullable Document.asString).map addressOf
  let relayTimeout := reading entries .relayTimeout fun d =>
    checkThat (0 < ·) "relay_max_timeout_ms must be > 0" d.asInt
  let limit (s : Setting) := reading entries s fun d =>
    checkThat (1 ≤ ·) "concurrency limits must be >= 1" d.asInt
  let deadline := reading entries .deadline fun d =>
    checkThat (fun x => (x.map isPositive).getD true) "search_deadline_seconds must be > 0"
      (d.nullable Document.asNumber)
  let fallback := reading entries .configFallback Document.asString
  let level := reading entries .logLevel (Document.oneOf LogLevel.names)
  let format := reading entries .logFormat (Document.nullable (Document.oneOf LogFormat.names))
  (fun name deployment dir timeout redirects agent relay relayTimeout concurrent deadline fallback
      probes level format =>
    ({ appName := name, deployment, definitionsDir := dir, httpTimeout := timeout,
       followRedirects := redirects, userAgent := agent, relayUrl := relay, relayTimeout,
       maxConcurrent := concurrent, deadline, configFallback := fallback,
       probeConcurrency := probes, logLevel := level,
       logFormat := format.getD deployment.logFormat } : Config)) <$>
    name <*> deployment <*> underPlace .definitionsDir dir <*> timeout <*> redirects <*> agent <*>
    relay <*> relayTimeout <*> limit .maxConcurrent <*> deadline <*> fallback <*>
    limit .probeConcurrency <*> level <*> format

/-- The configuration that a merged layer stands for. -/
def ofEntries (homes : Homes) (entries : Entries) : Except ConfigError Config := do
  let dir ← pathOf homes ((get? entries .definitionsDir).getD Setting.definitionsDir.default)
  (checkAll entries dir).toExcept.mapError (.mismatches .merged)

/-! ## Variables of the environment -/

/-- The value of a variable whose name is the given one up to case; of several the last counts. -/
def variableText (vars : Variables) (name : String) : Option String :=
  (vars.reverse.find? fun (k, _) => lowered k == lowered name).map (·.2)

/-- The text of a variable as the value of a setting. -/
def checkVariable (s : Setting) (text : String) : Checked Document :=
  let word {α : Type} (words : List (String × α)) : Checked Document :=
    (Document.oneOf words (.str text)).map fun _ => .str text
  match s with
  | .deployment => word Deployment.names
  | .logLevel => word LogLevel.names
  | .logFormat => word LogFormat.names
  | .httpTimeout | .deadline => (Document.asNumber (.str text)).map .float
  | .followRedirects => (Document.asBool (.str text)).map .bool
  | .relayTimeout | .maxConcurrent | .probeConcurrency => (Document.asInt (.str text)).map .int
  | .appName | .definitionsDir | .userAgent | .relayUrl | .configFallback => .ok (.str text)

/-- What the text of a variable stands for as the value of a setting. -/
def readVariable (homes : Homes) (s : Setting) (text : String) :
    Except ConfigError (Checked Document) :=
  if s = .definitionsDir then do return (← pathOf homes (.str text)).map fun l => .str l.text
  else .ok (checkVariable s text)

/-- The layer of the environment. -/
def ofVariables (homes : Homes) (vars : Variables) : Except ConfigError Entries := do
  let given := Setting.all.filterMap fun s =>
    (variableText vars (variableLead ++ s.flatKey)).map fun text => (s, text)
  let values ← given.mapM fun (s, text) => do return (s, ← readVariable homes s text)
  let checked := values.map fun (s, value) =>
    (value.under (.key s.flatKey)).map fun d => (Document.str s.flatKey, d)
  (Checked.all checked).toExcept.mapError (.mismatches .environment)

end Config
end TrackerSearch
