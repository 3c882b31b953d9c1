import TrackerSearch.Definition.Reading
import TrackerSearch.FileTree
import TrackerSearch.Trace
import TrackerSearch.Yaml.Read

/-!
# Definition files

A definition is loaded from a text in YAML. What is wrong with a file is reported, as a failure to
read it or as a failure to make sense of it.
-/
namespace TrackerSearch

open Text

/-- The cause that a fault of a file is for a definition. -/
def LoadCause.ofFile : FileFault → LoadCause
  | .notFound => .fileNotFound
  | .isDirectory => .isDirectory
  | .denied => .fileDenied
  | .badEncoding => .badEncoding

namespace Definition

/-- Report a cause and fail with it. -/
def refuse {α : Type} (event : Event) (cause : LoadCause) : Traced Failure α := do
  Traced.report event
  throw (.load cause)

/-- The definition in a text. -/
def ofText (text : List Char) : Traced Failure Definition :=
  match Yaml.read text with
  | .error .malformed | .error .circular => refuse .definitionValidationFailed .badYaml
  | .error (.badValue fault) => throw (.fault fault)
  | .ok document =>
    match ofDocument document with
    | .error cause => refuse .definitionValidationFailed cause
    | .ok d => pure d

/-- The definition in a file. -/
def load (content : Except FileFault (List Char)) : Traced Failure Definition :=
  match content with
  | .error fault => refuse .definitionLoadFailed (.ofFile fault)
  | .ok text => ofText text

/-- An identifier without the blanks around it, if anything is left. -/
def identifier? : Document → Option String
  | .str s => if (stripped s).isEmpty then none else some (stripped s)
  | _ => none

/-- The identifier in a document, whether or not the rest of it fits. -/
def idOfDocument? : Document → Option String
  | .map entries =>
    match (unwrap entries).toExcept with
    | .ok entries => (Document.find? entries "id").bind identifier?
    | .error _ => none
  | _ => none

/-- The identifier in a file, without a check of the rest. -/
def peekId (content : Except FileFault (List Char)) : Except Failure (Option String) :=
  match content with
  | .error _ => .ok none
  | .ok text =>
    match Yaml.read text with
    | .error .malformed | .error .circular => .ok none
    | .error (.badValue fault) => .error (.fault fault)
    | .ok document => .ok (idOfDocument? document)

end Definition
end TrackerSearch
