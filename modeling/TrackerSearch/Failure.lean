import TrackerSearch.Regex.Basic
import TrackerSearch.Text.Quoted

/-!
# Failures

Every way in which an operation can fail, as its cause. The wording is in `Failure.message?`; causes
without a wording of their own come from values that no operation is defined on.
-/
namespace TrackerSearch

/-- A value on which an operation is not defined. -/
inductive Fault where
  /-- A value is missing, or of the wrong kind. -/
  | wrongType
  /-- A value is of the right kind but not acceptable. -/
  | badValue
  /-- Something is looked up that is not there. -/
  | outOfRange
  /-- A number is too large to work with. -/
  | tooLarge
  /-- A word is not one of those that are known. -/
  | unknownKey
  /-- A text that cannot be written in the encoding at hand. -/
  | unencodable
  /-- A pattern cannot be compiled. -/
  | badPattern
  deriving Repr, DecidableEq

/-- The fault that a refused pattern is. -/
def Fault.ofPattern : Regex.PatternError → Fault
  | .malformed => .badPattern
  | .countTooLarge => .tooLarge
  | .flagsConflict | .countTooLong => .badValue
  | .unknownGroupName => .outOfRange

/-- What makes a definition unusable. -/
inductive DefinitionProblem where
  | missingLinks
  | missingRowSelector
  | malformedField
  deriving Repr, DecidableEq

def DefinitionProblem.name : DefinitionProblem → String
  | missingLinks => "missing_links"
  | missingRowSelector => "missing_row_selector"
  | malformedField => "malformed_field"

/-- A step on the way to a value inside a document: a key or a position. -/
inductive Step where
  | key (name : String)
  | index (n : Int)
  deriving Repr, DecidableEq

/-- A place in a document that does not fit its schema. -/
structure Mismatch where
  path : List Step
  kind : String
  message : String
  deriving Repr, DecidableEq

/-- The line above a list of what does not fit. -/
def Mismatch.headline (schema : String) (problems : List Mismatch) : String :=
  toString problems.length ++ " validation error" ++ (if problems.length = 1 then "" else "s") ++
    " for " ++ schema

/-- Why a definition could not be loaded. -/
inductive LoadCause where
  | emptyDocument
  | notAMapping
  | badYaml
  | mismatches (problems : List Mismatch)
  | fileNotFound
  | isDirectory
  | fileDenied
  | badEncoding
  deriving Repr, DecidableEq

/-- Why a page or a part of it could not be read. -/
inductive PageFault where
  /-- A selector of a field cannot be evaluated. -/
  | badSelector (selector : String)
  /-- A selector that locates the rows cannot be evaluated. -/
  | badRowSelector (selector : String)
  /-- There is no fragment to read from; `found` names what there is instead. -/
  | noFragment (found : String)
  deriving Repr, DecidableEq

inductive Failure where
  | definition (indexer : String) (problem : DefinitionProblem) (detail : String)
  | load (cause : LoadCause)
  | notFound (id : String)
  | duplicate (id : String)
  | unresolved (template fragment : String)
  | network (url message : String) (status : Option Int)
  | relay (message : String) (status : Option String)
  | unreadableDocument
  | unreadableFragment (cause : PageFault)
  | linkNotFound
  | fault (cause : Fault)
  deriving Repr, DecidableEq

open Text

def PageFault.message : PageFault → String
  | .badSelector selector => s!"cannot query fragment with selector {quoted selector}"
  | .badRowSelector selector => s!"cannot locate rows with selector {quoted selector}"
  | .noFragment found => s!"expected a parsed HTML fragment, got {found}"

/-- The wording of a failure; where a message goes on with details of a parser, these are left
out. -/
def Failure.message? : Failure → Option String
  | .definition indexer problem detail =>
    some (s!"indexer '{indexer}': {problem.name}" ++
      if detail.isEmpty then "" else s!" ({detail})")
  | .load .emptyDocument => some "YAML document is empty"
  | .load .notAMapping => some "YAML root must be a mapping/object"
  | .load _ => none
  | .notFound id => some s!"Indexer definition '{id}' not found"
  | .duplicate id => some s!"Indexer definition id '{id}' already exists"
  | .unresolved template fragment =>
    some s!"unresolved template action {quoted fragment} in {quoted template}"
  | .network _ message _ | .relay message _ => some message
  | .unreadableDocument => some "document could not be parsed"
  | .unreadableFragment cause => some cause.message
  | .linkNotFound => some "magnet link not found"
  | .fault _ => none

/-- The first line of the wording of a failure, details included. -/
def Failure.headline (e : Failure) : String :=
  match e with
  | .load (.mismatches problems) => Mismatch.headline "IndexerDefinitionPydantic" problems
  | e => e.message?.getD ""

end TrackerSearch
