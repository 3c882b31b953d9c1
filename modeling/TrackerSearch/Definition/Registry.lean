import TrackerSearch.Definition.Load

/-!
# The registry of definitions

A registry finds the definition files of a directory once, and loads them on demand. The first
definition that is loaded under an identifier stays the one of that identifier, whatever happens to
the files later.
-/
namespace TrackerSearch

open Text

/-- A definition in memory; the serial number tells it apart from every other one, equal or not. -/
structure LoadedDefinition where
  serial : Nat
  definition : Definition
  deriving Repr, DecidableEq

structure Registry where
  directory : FilePath
  discovered : Bool := false
  /-- The definition files, in the order of their names. -/
  paths : List FilePath := []
  /-- The definitions in memory, under their identifiers, the last one first. -/
  cache : List (String × LoadedDefinition) := []

namespace Registry

/-- The endings of definition files. -/
def suffixes : List String := [".yaml", ".yml"]

/-- The definition files of a directory. -/
def definitionFiles (files : FileTree) (directory : FilePath) : List FilePath :=
  (((files.names directory).mergeSort (· ≤ ·)).map fun name => directory ++ [name]).filter fun p =>
    files.isFile p && suffixes.contains (lowered (FilePath.suffix (p.getLastD "")))

/-- Find the definition files, the first time that they are asked for. -/
def discover (files : FileTree) (r : Registry) : Registry × List Event :=
  if r.discovered then (r, [])
  else
    let r := { r with discovered := true, paths := [] }
    if !files.isDirectory r.directory then (r, [.definitionDirectoryNotFound])
    else
      let paths := definitionFiles files r.directory
      ({ r with paths },
        .definitionsDiscovered :: if paths.isEmpty then [.noDefinitionsFound] else [])

/-- The definition in memory with an identifier. -/
def cached? (r : Registry) (id : String) : Option LoadedDefinition :=
  (r.cache.find? (·.1 == id)).map (·.2)

/-- Keep a definition, unless there is one with its identifier; that one counts. -/
def keep (r : Registry) (d : Definition) : LoadedDefinition × Registry :=
  match r.cached? d.id with
  | some l => (l, r)
  | none =>
    let l : LoadedDefinition := ⟨r.cache.length, d⟩
    (l, { r with cache := (d.id, l) :: r.cache })

/-- Load a file. -/
def load (files : FileTree) (r : Registry) (path : FilePath) :
    Traced Failure LoadedDefinition × Registry :=
  let t := Definition.load (files.readText path)
  match t.outcome with
  | .ok d =>
    let news : List Event := if (r.cached? d.id).isSome then [] else [.definitionLoaded]
    (⟨.ok (r.keep d).1, t.events ++ news⟩, (r.keep d).2)
  | .error e => (⟨.error e, t.events⟩, r)

/-- The identifiers in the files, each once. -/
def peekIds (files : FileTree) (paths : List FilePath) : Except Failure (List String) := do
  let ids ← paths.mapM fun p => Definition.peekId (files.readText p)
  return (ids.filterMap fun id => id).eraseDups

/-- The identifiers of the definition files, in order. -/
def listIds (files : FileTree) (r : Registry) : Traced Failure (List String) × Registry :=
  let (r, events) := r.discover files
  (⟨(peekIds files r.paths).map (·.mergeSort (· ≤ ·)), events⟩, r)

/-- The first file with an identifier. -/
def findPath (files : FileTree) (id : String) : List FilePath → Except Failure (Option FilePath)
  | [] => .ok none
  | p :: rest => do
    if (← Definition.peekId (files.readText p)) = some id then return some p
    else findPath files id rest

/-- The definition of an identifier. -/
def get (files : FileTree) (r : Registry) (id : String) :
    Traced Failure LoadedDefinition × Registry :=
  let (r, events) := r.discover files
  match r.cached? id with
  | some l => (⟨.ok l, events⟩, r)
  | none =>
    match findPath files id r.paths with
    | .error e => (⟨.error e, events⟩, r)
    | .ok none => (⟨.error (.notFound id), events⟩, r)
    | .ok (some path) =>
      let (t, r) := r.load files path
      (⟨t.outcome, events ++ t.events⟩, r)

/-- Load files in order. Files that cannot be loaded are skipped unless `strict`; no two files may
have the same identifier. -/
def loadPaths (files : FileTree) (strict : Bool) :
    List FilePath → List LoadedDefinition → Registry → Traced Failure (List LoadedDefinition) × Registry
  | [], loaded, r => (⟨.ok loaded, []⟩, r)
  | path :: rest, loaded, r =>
    let (t, r) := r.load files path
    let goOn (more : List Event) (loaded : List LoadedDefinition) :=
      let (u, r) := loadPaths files strict rest loaded r
      ((⟨u.outcome, t.events ++ more ++ u.events⟩ : Traced Failure (List LoadedDefinition)), r)
    match t.outcome with
    | .error (.load cause) =>
      if strict then (⟨.error (.load cause), t.events⟩, r) else goOn [.definitionSkipped] loaded
    | .error e => (⟨.error e, t.events⟩, r)
    | .ok l =>
      if loaded.any (·.definition.id == l.definition.id) then
        (⟨.error (.duplicate l.definition.id), t.events⟩, r)
      else goOn [] (loaded ++ [l])

/-- All definitions, in the order of their identifiers. -/
def loadAll (files : FileTree) (strict onlyPublic : Bool) (r : Registry) :
    Traced Failure (List LoadedDefinition) × Registry :=
  let (r, events) := r.discover files
  let (t, r) := loadPaths files strict r.paths [] r
  let sorted (l : List LoadedDefinition) : List LoadedDefinition :=
    l.mergeSort fun a b => a.definition.id ≤ b.definition.id
  let shown (l : List LoadedDefinition) : List LoadedDefinition :=
    if onlyPublic then l.filter (·.definition.access = .isPublic) else l
  (⟨t.outcome.map fun l => shown (sorted l), events ++ t.events⟩, r)

end Registry
end TrackerSearch
