import TrackerSearch.Text.Blank
import TrackerSearch.Text.Pieces
import TrackerSearch.Text.Utf8

/-!
# Trees of files

A snapshot of the files below a directory. Paths are relative to it; a path that leads above it, or
through a file, leads nowhere. What is at a path and in a directory can always be seen, but a file
may be closed to its readers.
-/
namespace TrackerSearch

open Text

/-- A path as the names along it. -/
abbrev FilePath := List String

namespace FilePath

/-- The names along a path as it is written: empty names and `.` stay where they are. -/
def ofString (s : String) : FilePath :=
  ((splitBy (· == '/') s.toList).filter fun n => n ≠ [] && n ≠ ['.']).map String.ofList

/-- The ending of a file name from its last point on. A point at the start or at the end of the name
does not count. -/
def suffix (name : String) : String :=
  let s := name.toList
  let tail := (s.reverse.takeWhile (· ≠ '.')).reverse
  if tail.isEmpty || s.length ≤ tail.length + 1 then "" else String.ofList ('.' :: tail)

end FilePath

/-- The home directories that a system knows: that of the user who runs the program, and those of
the accounts by name. -/
structure Homes where
  own : Option String := none
  accounts : List (String × String) := []
  deriving Repr, DecidableEq

/-- A home directory of the user where no account is known. -/
instance : Coe String Homes := ⟨fun home => { own := some home }⟩

/-- A text that the system does not look up as the name of an account. -/
def isNoAccount (name : String) : Bool := name.toList.contains '\x00'

/-- The home directory of an account, of the user if it has no name. One that starts with a tilde
itself is none. -/
def Homes.directory? (homes : Homes) (account : String) : Option String :=
  (if account.isEmpty then homes.own
    else if isNoAccount account then none
    else homes.accounts.lookup account).filter fun dir => dir.toList.head? ≠ some '~'

/-- A path as it is written: the number of slashes before it, and the names along it. Two slashes at
the start are apart from one; three and more count as one. -/
structure Location where
  slashes : Nat
  names : FilePath
  deriving Repr, DecidableEq

namespace Location

def ofString (s : String) : Location where
  slashes := match (s.toList.takeWhile (· = '/')).length with
    | 0 => 0
    | 2 => 2
    | _ => 1
  names := FilePath.ofString s

/-- The text of a path, `.` for the directory itself. -/
def text (l : Location) : String :=
  if l.slashes = 0 ∧ l.names = [] then "."
  else String.ofList (List.replicate l.slashes '/') ++ "/".intercalate l.names

/-- The account whose home a path starts in, as the name behind a tilde at the start; without a name
it is that of the user. -/
def account? (l : Location) : Option String :=
  match l.slashes, l.names with
  | 0, first :: _ =>
    match first.toList with
    | '~' :: name => some (String.ofList name)
    | _ => none
  | _, _ => none

/-- A directory without the slashes at its end. -/
def ofDirectory (dir : String) : Location :=
  let top := String.ofList (trimEndBy (· = '/') dir.toList)
  ofString (if top.isEmpty then "/" else top)

/-- The home directory of an account in the place of a tilde at the start, if it is known. -/
def expandHome? (homes : Homes) (l : Location) : Option Location :=
  match l.account? with
  | none => some l
  | some account => do
    let base := ofDirectory (← homes.directory? account)
    return { base with names := base.names ++ l.names.drop 1 }

end Location

inductive FileContent where
  | file (bytes : List UInt8)
  /-- A file that the system does not let be read. -/
  | closedFile
  | directory
  deriving Repr, DecidableEq

/-- Why a file cannot be read as text. -/
inductive FileFault where
  | notFound
  | isDirectory
  | denied
  | badEncoding
  deriving Repr, DecidableEq

/-- The files and directories of a snapshot, each with its path. -/
structure FileTree where
  entries : List (FilePath × FileContent) := []

namespace FileTree

/-- What is at a path; the top is a directory. -/
def get? (t : FileTree) (p : FilePath) : Option FileContent :=
  match t.entries.find? (·.1 == p) with
  | some (_, c) => some c
  | none => if p.isEmpty then some .directory else none

/-- Put something at a path, without the directories above it. -/
def set (t : FileTree) (p : FilePath) (c : FileContent) : FileTree :=
  { entries := t.entries.filter (·.1 != p) ++ [(p, c)] }

/-- Write a file or make a directory, together with the directories above it. -/
def write (t : FileTree) (p : FilePath) (c : FileContent) : FileTree :=
  let above := ((List.range p.length).map p.take).filter (!·.isEmpty)
  (above.foldl (fun t q => if (t.get? q).isSome then t else t.set q .directory) t).set p c

/-- Remove a file. -/
def delete (t : FileTree) (p : FilePath) : FileTree :=
  { entries := t.entries.filter (·.1 != p) }

def isDirectory (t : FileTree) (p : FilePath) : Bool := t.get? p = some .directory

def isFile (t : FileTree) (p : FilePath) : Bool :=
  match t.get? p with
  | some (.file _) | some .closedFile => true
  | some .directory | none => false

/-- Follow the names of a path from a directory on; `..` leads back up. -/
def follow? (t : FileTree) (here : FilePath) : FilePath → Option FilePath
  | [] => if (t.get? here).isSome then some here else none
  | name :: rest =>
    if !t.isDirectory here then none
    else if name = ".." then
      if here.isEmpty then none else t.follow? here.dropLast rest
    else t.follow? (here ++ [name]) rest

/-- Where a written path leads, if it leads somewhere. What is outside of the tree is found under
the full path as it is written. -/
def locate? (t : FileTree) (l : Location) : Option FilePath :=
  if l.slashes = 0 then t.follow? [] l.names
  else if (t.get? ("/" :: l.names)).isSome then some ("/" :: l.names)
  else none

/-- Where a written path leads, or a place without a file. -/
def resolve (t : FileTree) (l : Location) : FilePath := (t.locate? l).getD ("/" :: l.names)

/-- The names in a directory. -/
def names (t : FileTree) (p : FilePath) : List String :=
  t.entries.filterMap fun (q, _) =>
    match q.reverse with
    | name :: above => if above.reverse == p then some name else none
    | [] => none

/-- The bytes of a file. -/
def read (t : FileTree) (p : FilePath) : Except FileFault (List UInt8) :=
  match t.get? p with
  | some (.file bytes) => .ok bytes
  | some .closedFile => .error .denied
  | some .directory => .error .isDirectory
  | none => .error .notFound

/-- Line ends as line feeds. -/
def unixLines : List Char → List Char
  | [] => []
  | '\r' :: '\n' :: s => '\n' :: unixLines s
  | '\r' :: s => '\n' :: unixLines s
  | c :: s => c :: unixLines s

/-- The text of bytes in UTF-8, with line feeds as its only line ends. -/
def textOf (bytes : List UInt8) : Except FileFault (List Char) :=
  match utf8Decode? bytes with
  | some s => .ok (unixLines s)
  | none => .error .badEncoding

/-- The text of a file. -/
def readText (t : FileTree) (p : FilePath) : Except FileFault (List Char) := do
  textOf (← t.read p)

end FileTree
end TrackerSearch
