import TrackerSearch.Command.Line
import TrackerSearch.Config.Load
import TrackerSearch.Config.Logging
import TrackerSearch.Definition.Registry
import TrackerSearch.Json.Write
import TrackerSearch.Report
import TrackerSearch.Search.Site

/-!
# Running the program

A command line is read, the configuration is loaded, and the command is carried out on the files and
the network. A refused command line or configuration and the expected failures are told in one line;
any other failure aborts the program.
-/
namespace TrackerSearch.Command

open Http

/-- What a command puts out. -/
inductive Output where
  | usage (program : String)
  | definitions (ds : List Definition)
  | findings (fs : List ProbeFinding)
  | selection (s : Search.Selection)

/-- The line that shows how a program is called. -/
def usageLine (program : String) : String :=
  let globals := "[--config FILE] [--dotenv FILE] [--definitions-dir DIR] [--log-level LEVEL] " ++
    "[--log-format FORMAT]"
  let rest := if program = listGrammar.program then ""
    else if program = probeGrammar.program then "[--relay] [ids ...]"
    else if program = searchGrammar.program then
      "[--min-seeders N] [--category NAME] [--indexer ID] [--resolve-download] [--relay] keywords"
    else globals ++ " list|probe|search ..."
  "usage: " ++ program ++ " [-h] " ++ rest

/-- The text of an output, without the times of probes. -/
def Output.text : Output → String
  | usage program => usageLine program ++ "\n"
  | definitions ds => Json.indented 0 (.arr (ds.map (·.summary))) ++ "\n"
  | findings fs => Json.indented 0 (.arr (fs.map (·.toJson))) ++ "\n"
  | selection s => Json.indented 0 s.toJson ++ "\n"

/-- What a run works on, apart from the network. -/
structure Surroundings where
  files : FileTree
  environment : Variables
  /-- The homes of the accounts on the system. -/
  accounts : Homes := {}
  /-- The kind of error with which the library of the client refuses an environment; it looks at the
  proxies and certificates there before the first request, and is itself no part of the program. -/
  refusal? : Variables → Option String := fun _ => none
  /-- Whether the encoding of the output has a character. Those of ASCII are in every encoding. -/
  encodes : Char → Bool := fun _ => true
  /-- The wordings that an output takes over from a library, such as what a parser says of a file.
  They are no part of the program, and the text of an output leaves them out. -/
  wordings : Output → List Char := fun _ => []

inductive Status where
  | success
  /-- Nothing has been found, or a site is not healthy. -/
  | notFound
  | misuse
  deriving Repr, DecidableEq

def Status.code : Status → Nat
  | success => 0
  | notFound => 1
  | misuse => 2

/-- A run at its end. -/
structure Finish where
  status : Status
  output : Option Output := none
  /-- The line that tells what went wrong. -/
  complaint : Option String := none
  /-- How the run is logged, if it got as far as that. -/
  log : Option LogSetup := none

/-- Why a run is aborted. -/
inductive Abort where
  | config (e : ConfigError)
  /-- There is no client in the environment. -/
  | client (kind : String)
  | failure (e : Failure)
  deriving Repr

/-- What is wrong, as a program tells it. -/
def complaintOf (program message : String) : String := program ++ ": error: " ++ message

/-- The end of a run whose command line is not carried out. -/
def Stop.finish : Stop → Finish
  | .help program => { status := .success, output := some (.usage program) }
  | .misuse program message => { status := .misuse, complaint := some (complaintOf program message) }

namespace Invocation

/-- A text that is given and not empty. -/
def given (s : Option String) : Option String := s.filter fun s => !s.isEmpty

/-- The settings that are given on the command line. -/
def overrides (i : Invocation) : Entries :=
  let entry (s : Setting) (v : Option String) : Entries :=
    (v.map fun v => (Document.str s.flatKey, Document.str v)).toList
  entry .definitionsDir (given i.definitionsDir) ++ entry .logLevel (i.logLevel.map (·.text)) ++
    entry .logFormat (i.logFormat.map (·.text))

/-- Where the settings of a run come from. -/
def sources (i : Invocation) (s : Surroundings) : Config.Sources where
  files := s.files
  environment := s.environment
  configFile := (given i.configFile).map Location.ofString
  variablesFile := (given i.variablesFile).map Location.ofString
  overrides := i.overrides
  accounts := s.accounts

end Invocation

/-- The means that a configuration gives: sites and relay are asked by the same client. -/
def meansOf (c : Config) : Fetch.Means :=
  let client : Client := { userAgent := some c.userAgent, followRedirects := c.followRedirects }
  { client, relay := c.relayUrl.map fun url =>
      { endpoint := Fetch.relayEndpoint url.toList, maxTimeout := c.relayTimeout, client } }

/-- The relay if it is asked for; otherwise every definition says itself what it wants. -/
def relayWish (o : Order) : Option Bool := if o.viaRelay then some true else none

/-- A command and its configuration in their surroundings. -/
structure Job extends Surroundings where
  config : Config
  order : Order

namespace Job

def registry (j : Job) : Registry where
  directory := j.files.resolve j.config.definitionsDir

/-- All definitions that can be loaded. -/
def allDefinitions (j : Job) : Traced Failure (List Definition) := do
  return (← (j.registry.loadAll j.files false false).1).map (·.definition)

/-- The definitions of identifiers, one after the other. -/
def definitionsOf (files : FileTree) : List String → Registry → Traced Failure (List Definition)
  | [], _ => pure []
  | id :: rest, r => do
    let (t, r) := r.get files id
    let l ← t
    return l.definition :: (← definitionsOf files rest r)

def engine (j : Job) : Search.Engine where
  means := meansOf j.config
  config := []
  fallback := j.config.configFallback
  useRelay := relayWish j.order

def prober (j : Job) : Prober where
  means := meansOf j.config
  fallback := j.config.configFallback

/-- The query that a search asks for. -/
def query (j : Job) (o : SearchOptions) : Search.Query where
  keywords := o.keywords
  minSeeders := o.minSeeders
  category := o.category
  only := o.indexers
  resolveDownload := o.resolveDownload
  maxConcurrent := j.config.maxConcurrent
  deadline := j.config.deadline

def list (j : Job) : Online Failure Finish := do
  let ds ← Dialogue.ofTraced j.allDefinitions
  return { status := .success, output := some (.definitions ds) }

def probe (j : Job) (o : ProbeOptions) : Online Failure Finish := do
  let ds ← Dialogue.ofTraced
    (if o.ids.isEmpty then j.allDefinitions else definitionsOf j.files o.ids j.registry)
  let found ← j.prober.probeAll ds j.config.probeConcurrency (relayWish j.order)
  let findings := found.map (·.2)
  let healthy := !findings.isEmpty && findings.all (·.isHealthy)
  return { status := if healthy then .success else .notFound, output := some (.findings findings) }

def search (j : Job) (o : SearchOptions) : Online Failure Finish := do
  let ds ← Dialogue.ofTraced j.allDefinitions
  match ← (j.engine.searcher.aggregate (j.query o) ds).attempt with
  | .done s =>
    return { status := if s.isFound then .success else .notFound, output := some (.selection s) }
  | .waiting => Dialogue.waitForever
  | .failed (.badRequest reason) =>
    return { status := .misuse, complaint := some (complaintOf programName reason.message) }
  | .failed (.crashed e) => Dialogue.fail e

def perform (j : Job) : Online Failure Finish :=
  match j.order with
  | .list => j.list
  | .probe o => j.probe o
  | .search o => j.search o

/-- Whether a character can be put out. -/
def canWrite (j : Job) (c : Char) : Bool := c.toNat < 128 || j.encodes c

/-- The characters of an output, without those of the times of probes, which are in ASCII. -/
def written (j : Job) (o : Output) : List Char := o.text.toList ++ j.wordings o

/-- Put out what a command yields. Nothing is put out if a character of it cannot be. -/
def put (j : Job) (finish : Finish) : Online Failure Finish :=
  if finish.output.all fun o => (j.written o).all j.canWrite then return finish
  else Dialogue.fail (.fault .unencodable)

/-- Tell an expected failure in one line. -/
def told (e : Failure) : Online Failure Finish :=
  if e.isExpected then do
    Dialogue.report .commandFailed
    return { status := .misuse, complaint := some (complaintOf programName e.headline) }
  else Dialogue.fail e

/-- Carry out a command. -/
def run (j : Job) : Online Failure Finish := do
  Dialogue.report .logConfigured
  if !(meansOf j.config).client.isUsable then Dialogue.fail (.fault .unencodable)
  Dialogue.report .clientInitialized
  if !(meansOf j.config).relay.all (·.isTimed) then Dialogue.fail (.fault .tooLarge)
  Dialogue.report .runtimeReady
  let finish ← (j.perform >>= j.put).orElse told
  Dialogue.report .clientClosed
  return { finish with log := some (LogSetup.ofConfig j.config) }

end Job

/-- The error with which the library of the client refuses the environment, if it gets as far as
that. -/
def Invocation.clientRefusal? (i : Invocation) (s : Surroundings) (c : Config) : Option String :=
  if (meansOf c).client.isUsable then (Config.environmentOf (i.sources s)).toOption.bind s.refusal?
  else none

/-- Run the program on the words of its command line. -/
def run (s : Surroundings) (words : List String) : Online Abort Finish :=
  match Invocation.ofWords words with
  | .error stop => return stop.finish
  | .ok i =>
    match Config.load (i.sources s) with
    | .ok config =>
      match i.clientRefusal? s config with
      | some kind => Dialogue.fail (.client kind)
      | none => (Job.run { s with config, order := i.order }).mapError .failure
    | .error e =>
      match e.headline? with
      | some text =>
        return (Stop.misuse programName ("invalid configuration: " ++ text)).finish
      | none => Dialogue.fail (.config e)

end TrackerSearch.Command
