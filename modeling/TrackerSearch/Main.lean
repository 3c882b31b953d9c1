import Std.Time
import TrackerSearch.Command.Run

/-!
# The program

A run takes its files and its environment from the system, and puts its output and its log out. It
has no access to the network: every site is one that cannot be reached.
-/
namespace TrackerSearch.Command

open Http

/-- What a file of the system holds, if it can be read. -/
def contentOf (bytes : IO ByteArray) : IO FileContent := do
  try return .file (← bytes).toList
  catch _ => return .closedFile

/-- Put what is at a path, if anything is, into a tree of files. A directory comes with the files in
it. -/
def withPath (t : FileTree) (l : Location) : IO FileTree := do
  let path := (← IO.currentDir) / l.text
  let place := if l.slashes = 0 then l.names else "/" :: l.names
  if ← path.isDir then
    let mut t := t.write place .directory
    for entry in ← path.readDir do
      if !(← entry.path.isDir) then
        t := t.write (place ++ [entry.fileName]) (← contentOf (IO.FS.readBinFile entry.path))
    return t
  else if ← path.pathExists then return t.write place (← contentOf (IO.FS.readBinFile path))
  else return t

/-- The variables that settings are read from. -/
def systemVariables : IO Variables := do
  let names := "HOME" :: Setting.all.map fun s => Config.variableLead ++ s.flatKey.toUpper
  names.filterMapM fun name => return (← IO.getEnv name).map fun value => (name, value)

/-- The text of a file of the system, if it has one. -/
def systemText (path : String) : IO String := do
  try IO.FS.readFile path
  catch _ => return ""

/-- The accounts in a password file: their names, the numbers of their users and their homes. -/
def accountsOf (text : String) : List (String × String × String) :=
  (text.splitOn "\n").filterMap fun line =>
    match line.splitOn ":" with
    | [name, _, user, _, _, home, _] => some (name, user, home)
    | _ => none

/-- The homes of the accounts on the system; the user is the one that runs this process. -/
def systemHomes : IO Homes := do
  let accounts := accountsOf (← systemText "/etc/passwd")
  let user := ((← systemText "/proc/self/status").splitOn "\n").findSome? fun line =>
    match line.splitOn "\t" with
    | "Uid:" :: user :: _ => some user
    | _ => none
  return {
    own := (accounts.find? fun (_, number, _) => some number = user).map (·.2.2)
    accounts := accounts.map fun (name, _, home) => (name, home) }

/-- What a run on the words of a command line needs from the system. -/
def surroundingsOf (words : List String) : IO Surroundings := do
  let environment ← systemVariables
  let accounts ← systemHomes
  match Invocation.ofWords words with
  | .error _ => return { files := {}, environment }
  | .ok i =>
    let s : Surroundings := { files := {}, environment, accounts }
    let needed := [i.configFile, i.variablesFile].filterMap Invocation.given
    let files ← (needed.map Location.ofString).foldlM withPath s.files
    let s := { s with files }
    match Config.load (i.sources s) with
    | .error _ => return s
    | .ok config => return { s with files := ← withPath s.files config.definitionsDir }

/-- A network on which nothing can be reached. -/
def noNetwork : Network := fun _ _ => some (.error (.broken "no network access"))

/-- The present time. -/
def now : IO Time.Timestamp := do
  let elapsed := (← Std.Time.Timestamp.now).toNanosecondsSinceUnixEpoch.val
  return Time.Timestamp.ofUnix (elapsed.toNat / 1000)

/-- The text of an output; probes are shown with the time and the duration of the run. -/
def shown (start : Time.Timestamp) (milliseconds : Nat) : Output → String
  | .findings fs =>
    let result (f : ProbeFinding) : ProbeResult := ⟨f, start, Number.Binary64.ofInt milliseconds⟩
    Json.indented 0 (.arr (fs.map fun f => (result f).toJson)) ++ "\n"
  | output => output.text

/-- A line of the log. -/
def logLine (format : LogFormat) (time : Time.Timestamp) (e : Event) : String :=
  match format with
  | .json => Json.compact true (.obj [("event", .str e.name), ("logger", .str e.logger),
      ("level", .str e.level.name), ("timestamp", .str time.text)])
  | .console => s!"{time.text} [{e.level.name}] {e.name} [{e.logger}]"

/-- Run the program, put out what it yields, and give its exit status. -/
def runProgram (words : List String) : IO UInt32 := do
  let started ← IO.monoMsNow
  let start ← now
  let talk := (run (← surroundingsOf words) words).run noNetwork
  match talk.ending with
  | .waiting => return 1
  | .failed _ =>
    IO.eprintln (complaintOf programName "internal failure")
    return 1
  | .done finish =>
    if let some output := finish.output then
      IO.print (shown start ((← IO.monoMsNow) - started) output)
    if let some log := finish.log then
      for e in talk.events.filter log.admits do
        IO.eprintln (logLine log.format start e)
    if let some complaint := finish.complaint then IO.eprintln complaint
    return UInt32.ofNat finish.status.code

end TrackerSearch.Command

def main (words : List String) : IO UInt32 := TrackerSearch.Command.runProgram words
