import TrackerSearch.Template.Render

/-!
# The language of templates

Templates as they are meant, apart from how they are written: what an action refers to, the
functions that a value goes through, and the trim marks. A template is written down in one way
(`source`) and stands for a text (`value`), given that there are keywords.
-/
namespace TrackerSearch.Template

open TrackerSearch.Text

namespace Context

def HasKeywords (ctx : Context) : Prop := ctx.keywords.isSome = true

instance (ctx : Context) : Decidable ctx.HasKeywords := inferInstanceAs (Decidable (_ = true))

/-- The keywords as actions see them; nothing where there are none. -/
def keywordText (ctx : Context) : List Char := ctx.encoded (ctx.keywords.getD [])

theorem keywordValue_eq {ctx : Context} (hk : ctx.HasKeywords) :
    ctx.keywordValue = .ok (some ctx.keywordText) := by
  obtain ⟨k, hkeywords⟩ := Option.isSome_iff_exists.mp hk
  simp only [keywordValue, keywordText, hkeywords, Option.getD_some]

end Context

/-- What a function of a template is called. -/
def Function.name : Function → List Char
  | .reReplace => "re_replace".toList
  | .replace => "replace".toList

/-- The value of a function; a pattern that cannot be used changes nothing. -/
def Function.value (f : Function) (v x y : List Char) : List Char :=
  match f with
  | .replace => replaceAll x y v
  | .reReplace =>
    match Regex.replace x y v with
    | .ok v' => v'
    | .error _ => v

/-- A use of a pattern. -/
structure Substitution where
  text : List Char
  pattern : List Char
  replacement : List Char
  deriving Repr, DecidableEq

namespace Substitution

def result (s : Substitution) : Except Regex.PatternError (List Char) :=
  Regex.replace s.pattern s.replacement s.text

/-- It succeeds, or the pattern or the replacement is malformed. -/
def IsTame (s : Substitution) : Prop := ∀ e, s.result = .error e → e = .malformed

instance (s : Substitution) : Decidable s.IsTame :=
  match h : s.result with
  | .ok _ => isTrue fun _ he => by
    rw [h] at he
    cases he
  | .error e => decidable_of_iff (e = .malformed)
    ⟨fun he _ he' => by rwa [h, Except.error.injEq, he, eq_comm] at he', fun ht => ht e h⟩

/-- What is reported of it. -/
def events (s : Substitution) : List Event :=
  match s.result with
  | .ok _ => []
  | .error _ => [.templateBadPattern]

end Substitution

/-- What is reported of some uses of patterns. -/
def eventsOf (ss : List Substitution) : List Event := ss.flatMap Substitution.events

/-- The uses of patterns in a function call. -/
def Function.substitutions (f : Function) (v x y : List Char) : List Substitution :=
  match f with
  | .replace => []
  | .reReplace => [⟨v, x, y⟩]

/-- What a command is applied to. -/
inductive Term where
  | keywords
  | queryKeywords
  | config (name : List Char)
  | constant (text : List Char)
  deriving Repr, DecidableEq

namespace Term

/-- A quote or a backslash has a backslash before it. -/
def escaped (c : Char) : List Char := if c = '"' ∨ c = '\\' then ['\\', c] else [c]

/-- A constant in double quotes. -/
def quoted (text : List Char) : List Char := '"' :: text.flatMap escaped ++ ['"']

def token : Term → List Char
  | keywords => ".Keywords".toList
  | queryKeywords => ".Query.Keywords".toList
  | config name => ".Config.".toList ++ name
  | constant text => quoted text

def value (ctx : Context) : Term → List Char
  | keywords | queryKeywords => ctx.keywordText
  | config name => ctx.configValue name
  | constant text => text

/-- Names hold no blanks, bars and points; names of letters, digits and underscores are such. -/
def IsWritable : Term → Prop
  | config name => name ≠ [] ∧ ∀ c ∈ name, isPlain c = true ∧ c ≠ '.'
  | _ => True

instance (term : Term) : Decidable term.IsWritable :=
  match term with
  | config name =>
    have : Decidable (∀ c ∈ name, isPlain c = true ∧ c ≠ '.') := List.decidableBAll _ name
    inferInstanceAs (Decidable (name ≠ [] ∧ ∀ c ∈ name, isPlain c = true ∧ c ≠ '.'))
  | keywords | queryKeywords | constant _ => isTrue trivial

end Term

/-- The first command of a pipeline. -/
inductive Start where
  | term (t : Term)
  | call (f : Function) (v x y : Term)
  deriving Repr, DecidableEq

namespace Start

def terms : Start → List Term
  | term t => [t]
  | call _ v x y => [v, x, y]

def tokens : Start → List (List Char)
  | term t => [t.token]
  | call f v x y => [f.name, v.token, x.token, y.token]

def value (ctx : Context) : Start → List Char
  | term t => t.value ctx
  | call f v x y => f.value (v.value ctx) (x.value ctx) (y.value ctx)

def substitutions (ctx : Context) : Start → List Substitution
  | term _ => []
  | call f v x y => f.substitutions (v.value ctx) (x.value ctx) (y.value ctx)

end Start

/-- A later command: a function of the value before it. -/
structure Stage where
  function : Function
  first : Term
  second : Term
  deriving Repr, DecidableEq

namespace Stage

def tokens (s : Stage) : List (List Char) := [s.function.name, s.first.token, s.second.token]

def value (ctx : Context) (v : List Char) (s : Stage) : List Char :=
  s.function.value v (s.first.value ctx) (s.second.value ctx)

def substitutions (ctx : Context) (v : List Char) (s : Stage) : List Substitution :=
  s.function.substitutions v (s.first.value ctx) (s.second.value ctx)

/-- The uses of patterns in some stages, on the values that they come to. -/
def substitutionsOf (ctx : Context) : List Char → List Stage → List Substitution
  | _, [] => []
  | v, s :: stages => s.substitutions ctx v ++ substitutionsOf ctx (s.value ctx v) stages

end Stage

structure Pipeline where
  start : Start
  stages : List Stage
  deriving Repr, DecidableEq

namespace Pipeline

def terms (p : Pipeline) : List Term :=
  p.start.terms ++ p.stages.flatMap fun s => [s.first, s.second]

/-- The commands, each as its tokens. -/
def commands (p : Pipeline) : List (List (List Char)) :=
  p.start.tokens :: p.stages.map Stage.tokens

/-- Tokens are a space apart, and a bar stands between commands. -/
def source (p : Pipeline) : List Char :=
  joinWith " | ".toList (p.commands.map (joinWith [' ']))

/-- The value goes through the stages from left to right. -/
def value (ctx : Context) (p : Pipeline) : List Char :=
  p.stages.foldl (Stage.value ctx) (p.start.value ctx)

def substitutions (ctx : Context) (p : Pipeline) : List Substitution :=
  p.start.substitutions ctx ++ Stage.substitutionsOf ctx (p.start.value ctx) p.stages

end Pipeline

/-- A pipeline between braces, with a mark on each side that is trimmed. -/
structure Hole where
  trimLeft : Bool
  pipeline : Pipeline
  trimRight : Bool
  deriving Repr, DecidableEq

namespace Hole

def mark (trims : Bool) : List Char := if trims then ['-'] else []

/-- The pipeline with a space on each side. -/
def body (h : Hole) : List Char := ' ' :: h.pipeline.source ++ [' ']

/-- What stands between the braces. -/
def inner (h : Hole) : List Char := mark h.trimLeft ++ h.body ++ mark h.trimRight

def source (h : Hole) : List Char := openBraces ++ h.inner ++ closeBraces

end Hole

/-- Literals with a hole behind each of them, and a last literal. -/
structure Abstract where
  parts : List (List Char × Hole)
  tail : List Char
  deriving Repr, DecidableEq

namespace Abstract

/-- How a template is written. -/
def source (t : Abstract) : List Char :=
  t.parts.flatMap (fun (literal, hole) => literal ++ hole.source) ++ t.tail

/-- A literal without the blanks at the sides that are trimmed. -/
def trimmed (left right : Bool) (literal : List Char) : List Char :=
  let literal := if left then trimStart literal else literal
  if right then trimEnd literal else literal

/-- The text of some parts and a last literal, given whether the first literal is trimmed on the
left. -/
def valueFrom (ctx : Context) : Bool → List (List Char × Hole) → List Char → List Char
  | left, [], tail => trimmed left false tail
  | left, (literal, hole) :: parts, tail =>
    trimmed left hole.trimLeft literal ++ hole.pipeline.value ctx ++
      valueFrom ctx hole.trimRight parts tail

/-- What a template stands for. -/
def value (ctx : Context) (t : Abstract) : List Char := valueFrom ctx false t.parts t.tail

def substitutions (ctx : Context) (t : Abstract) : List Substitution :=
  t.parts.flatMap fun (_, hole) => hole.pipeline.substitutions ctx

/-- The template can be told from the way it is written. -/
structure IsWritable (t : Abstract) : Prop where
  /-- No opening braces in a literal, and none that a literal and the hole behind it form. -/
  literals : ∀ part ∈ t.parts, ¬openBraces <:+: part.1 ∧ part.1.getLast? ≠ some '\x7b'
  tail : ¬openBraces <:+: t.tail
  /-- Closing braces only at the end of a hole. -/
  holes : ∀ part ∈ t.parts, ¬closeBraces <:+: part.2.source.dropLast
  terms : ∀ part ∈ t.parts, ∀ term ∈ part.2.pipeline.terms, term.IsWritable

end Abstract

end TrackerSearch.Template
