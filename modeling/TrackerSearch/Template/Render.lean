import TrackerSearch.Failure
import TrackerSearch.Regex.Replacement
import TrackerSearch.Template.Basic
import TrackerSearch.Trace
import TrackerSearch.Web.Percent

/-!
# Rendering templates

Actions refer to the keywords and to configuration values and pass them through text
substitutions. An action that uses anything else stays as it is; a rendering in which opening
braces remain is refused. Where there are no keywords, an action fails only once it needs their
text.
-/
namespace TrackerSearch.Template

open TrackerSearch.Text

/-- Configuration values by name; a name may be known without a value. -/
abbrev Bindings := List (String × Option String)

/-- What a term stands for: a text, or the keywords where there are none. -/
abbrev Value := Option (List Char)

/-- What actions can refer to. -/
structure Context where
  /-- Filters may leave none. -/
  keywords : Value := some []
  config : Bindings := []
  /-- Stands in for a configuration value that nobody provides. -/
  fallback : String := ""
  /-- Percent-encode the keywords. -/
  encode : Bool := true

/-- Keywords as actions see them. -/
def Context.encoded (ctx : Context) (keywords : List Char) : List Char :=
  if ctx.encode then Web.percentEncode keywords else keywords

/-- The value of the keywords; only a text can be percent-encoded. -/
def Context.keywordValue (ctx : Context) : Except Fault Value :=
  match ctx.keywords with
  | some keywords => .ok (some (ctx.encoded keywords))
  | none => if ctx.encode then .error .wrongType else .ok none

def Context.configValue (ctx : Context) (name : List Char) : List Char :=
  match ctx.config.find? fun (k, _) => k.toList == name with
  | some (_, some v) => v.toList
  | _ => ctx.fallback.toList

inductive Function where
  | reReplace
  | replace
  deriving Repr, DecidableEq

def Function.ofName? (t : List Char) : Option Function :=
  if t = "re_replace".toList then some .reReplace
  else if t = "replace".toList then some .replace
  else none

/-- Apply a function. A pattern that does not compile is reported and changes nothing; this is found
out before the value is looked at, and for every text alike. -/
def Function.apply (f : Function) (value x y : Value) : Traced Fault Value :=
  match x, y with
  | some x, some y =>
    match f with
    | .replace =>
      match value with
      | some v => pure (some (replaceAll x y v))
      | none => throw .wrongType
    | .reReplace =>
      match Regex.replace x y (value.getD []) with
      | .ok v => if value.isSome then pure (some v) else throw .wrongType
      | .error .malformed => ⟨.ok value, [.templateBadPattern]⟩
      | .error e => throw (Fault.ofPattern e)
  | _, _ => throw .wrongType

/-- The value of a term; `none` if it is not one that templates can use. -/
def term? (ctx : Context) (t : List Char) : Option (Except Fault Value) :=
  if isLiteral t then some (.ok (some (unquote t)))
  else if t = ".Keywords".toList ∨ t = ".Query.Keywords".toList then some ctx.keywordValue
  else
    match dropLead? ".Config.".toList t with
    | some name =>
      if name.isEmpty ∨ name.contains '.' then none else some (.ok (some (ctx.configValue name)))
    | none => none

/-- The values of some terms, from left to right; `none` at the first that templates cannot use. -/
def termsOf (ctx : Context) : List (List Char) → Except Fault (Option (List Value))
  | [] => .ok (some [])
  | t :: rest =>
    match term? ctx t with
    | none => .ok none
    | some value => do
      let value ← value
      return (← termsOf ctx rest).map (value :: ·)

/-- Run a command on the value so far, if there is one; `none` if it is not supported. -/
def runCommand (ctx : Context) (value : Value) : List (List Char) → Traced Fault (Option Value)
  | [] => pure none
  | head :: args =>
    match Function.ofName? head with
    | some f => do
      match ← Traced.ofExcept (termsOf ctx args) with
      | some terms =>
        match value.toList.map some ++ terms with
        | [v, x, y] => return some (← f.apply v x y)
        | _ => return none
      | none => return none
    | none =>
      if value.isNone ∧ args = [] then
        match term? ctx head with
        | some v => do return some (← Traced.ofExcept v)
        | none => pure none
      else pure none

/-- Run the commands of a pipeline, each on the value of the one before; `none` if one of them is
not supported. In the end there has to be a value. -/
def runCommands (ctx : Context) : Value → List (List (List Char)) →
    Traced Fault (Option (List Char))
  | some value, [] => pure (some value)
  | none, [] => throw .wrongType
  | value, command :: rest => do
    match ← runCommand ctx value command with
    | some value => runCommands ctx value rest
    | none => return none

/-- The value of an action's body; `none` if it is not supported. -/
def evaluate (ctx : Context) (body : List Char) : Traced Fault (Option (List Char)) :=
  let commands := pipeline (tokens body)
  if commands.any (·.isEmpty) then pure none else runCommands ctx none commands

/-- The rendering of some segments, given whether the literal in front is trimmed on the left. -/
def renderSegments (ctx : Context) : Bool → List Segment → List Char → Traced Fault (List Char)
  | trimNext, [], tail => pure (if trimNext then trimStart tail else tail)
  | trimNext, (literal, action) :: rest, tail => do
    let literal := if trimNext then trimStart literal else literal
    let literal := if action.trimLeft then trimEnd literal else literal
    let value ← evaluate ctx action.body
    let more ← renderSegments ctx action.trimRight rest tail
    return literal ++ value.getD action.source ++ more

/-- The first stretch of a text that looks like an action. -/
def leftover? (s : List Char) : Option (List Char) :=
  match cutAt? openBraces s with
  | none => none
  | some (pre, _) =>
    let rest := s.drop pre.length
    match cutAt? closeBraces rest with
    | some (inside, _) => some (inside ++ closeBraces)
    | none => some rest

/-- Render a template. -/
def render (ctx : Context) (template : List Char) : Traced Failure (List Char) := do
  let (parts, tail) := segments template
  let rendered ← (renderSegments ctx false parts tail).mapError .fault
  match leftover? rendered with
  | none => return rendered
  | some fragment => throw (.unresolved (String.ofList template) (String.ofList fragment))

/-- Render templates by name, keywords as they are; the first that cannot be rendered ends it. -/
def renderAll (ctx : Context) (inputs : List (String × String)) :
    Traced Failure (List (String × String)) :=
  inputs.mapM fun (name, template) => do
    return (name, String.ofList (← render { ctx with encode := false } template.toList))

end TrackerSearch.Template
