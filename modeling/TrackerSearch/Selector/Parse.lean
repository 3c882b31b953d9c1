import TrackerSearch.Selector.Token

/-!
# Reading selectors

A selector is a list of alternatives, each a chain of compounds with combinators between them. In
the argument of `:has` a chain starts with a combinator, in those of `:is` and `:where` alternatives
may be left out. Some pseudo-classes abbreviate selectors; `Selector.parse` knows the standard ones.
-/
namespace TrackerSearch.Selector

/-- The rules that hold for a list of alternatives. -/
structure Mode where
  /-- The list is the argument of a call. -/
  nested : Bool := true
  /-- The chains start with a combinator. -/
  relative : Bool := false
  /-- Alternatives may be missing. -/
  forgiving : Bool := false

/-- A list of which the first tokens have been read. -/
structure Partial where
  /-- The alternatives that are complete, the last one first. -/
  done : List Selector := []
  /-- What the chain so far demands of the compound. -/
  left : Option Selector := none
  /-- The steps of a relative chain, the last one first. -/
  steps : List (Combinator × Selector) := []
  /-- The combinator in front of the compound of a relative chain. -/
  lead : Combinator := .descendant
  compound : Selector := .anything
  /-- Has the compound begun? -/
  begun : Bool := false

namespace Partial

/-- Add a condition to the compound. -/
def add (p : Partial) (s : Selector) : Partial :=
  { p with compound := .both p.compound s, begun := true }

/-- The compound together with what the chain demands of it. -/
def whole (p : Partial) : Selector :=
  match p.left with
  | none => p.compound
  | some s => .both p.compound s

/-- A relative chain as a condition on the element that it starts from. -/
def chain : List (Combinator × Selector) → Selector → Selector
  | [], inner => inner
  | (c, s) :: rest, inner => chain rest (.reaches c (.both s inner))

/-- Complete a relative chain. -/
def completeRelative (p : Partial) : Partial :=
  { done := chain ((p.lead, p.compound) :: p.steps) .anything :: p.done }

/-- Go on behind a combinator in a list of the usual kind. -/
def combine (forgiving : Bool) (p : Partial) (c : Option Combinator) : Except Refusal Partial :=
  match p.begun, c with
  | true, none => .ok { done := p.whole :: p.done }
  | true, some c => .ok { done := p.done, left := some (.reachedBy c p.whole) }
  | false, none => if forgiving then .ok { done := .nothing :: p.done } else .error .malformed
  | false, some _ => .error .malformed

/-- Go on behind a combinator in a list of relative chains. -/
def combineRelative (p : Partial) (c : Option Combinator) : Except Refusal Partial :=
  match p.begun, c with
  | true, none => .ok p.completeRelative
  | true, some c => .ok { done := p.done, steps := (p.lead, p.compound) :: p.steps, lead := c }
  | false, none => .error .malformed
  | false, some c =>
    if p.lead = .descendant then .ok { p with lead := c } else .error .malformed

/-- The list as a condition: one of its alternatives holds. -/
def finish (mode : Mode) (p : Partial) : Except Refusal Selector :=
  let alternatives : Except Refusal (List Selector) :=
    if p.begun then
      .ok (if mode.relative then p.completeRelative.done else p.whole :: p.done)
    else if mode.forgiving && (p.done.isEmpty || p.left.isNone) then .ok p.done
    else .error .malformed
  alternatives.map fun
    | [] => .nothing
    | s :: rest => rest.foldl (fun acc s => .either s acc) s

end Partial

/-- Calls whose argument is a list of selectors, and what they make of it. -/
def call? (name : String) : Option (Mode × (Selector → Selector)) :=
  match name with
  | "is" | "where" => some ({ forgiving := true }, fun s => s)
  | "matches" | "contains" | "-soup-contains" | "-soup-contains-own" => some ({}, fun s => s)
  | "not" => some ({}, .not)
  | "has" => some ({ relative := true }, fun s => s)
  | "current" | "host" | "host-context" => some ({}, fun _ => .nothing)
  | _ => none

/-- Pseudo-classes of what a reader does with a page; on a page at rest no element has them. -/
def isInteractive (name : String) : Bool :=
  ["active", "autofill", "buffering", "current", "focus", "focus-visible", "focus-within",
    "fullscreen", "future", "host", "hover", "local-link", "past", "paused", "picture-in-picture",
    "playing", "popover-open", "seeking", "stalled", "target", "target-within", "user-invalid",
    "visited", "volume-locked"].contains name

/-- The pseudo-classes of structure. -/
def structural? (name : String) : Option Selector :=
  match name with
  | "root" => some .root
  | "scope" => some .scope
  | "empty" => some .empty
  | "defined" => some .defined
  | "first-child" => some (.nth false 0 1 .anything)
  | "last-child" => some (.nth true 0 1 .anything)
  | "only-child" => some (.both (.nth false 0 1 .anything) (.nth true 0 1 .anything))
  | "first-of-type" => some (.nthOfTag false 0 1)
  | "last-of-type" => some (.nthOfTag true 0 1)
  | "only-of-type" => some (.both (.nthOfTag false 0 1) (.nthOfTag true 0 1))
  | name => if isInteractive name then some .nothing else none

/-- Read a list of alternatives up to its end; `fuel` bounds the number of tokens. -/
def alternatives (known : List (String × Selector)) :
    Nat → Mode → Partial → List Token → Except Refusal (Selector × List Token)
  | 0, _, _, _ => .error .malformed
  | _ + 1, mode, p, [] => do
    if mode.nested then throw .malformed
    return (← p.finish mode, [])
  | fuel + 1, mode, p, t :: ts =>
    let go (s : Selector) := alternatives known fuel mode (p.add s) ts
    let inside (inner : Mode) (f : Selector → Selector) : Except Refusal (Selector × List Token) := do
      let (s, rest) ← alternatives known fuel inner {} ts
      alternatives known fuel mode (p.add (f s)) rest
    match t with
    | .close =>
      if !p.begun && !mode.forgiving || !mode.nested then .error .malformed
      else do return (← p.finish mode, ts)
    | .combinator c => do
      let p ← if mode.relative then p.combineRelative c else p.combine mode.forgiving c
      alternatives known fuel mode p ts
    | .tag name foreign =>
      if p.begun then .error .malformed
      else if foreign then go .nothing
      else go ((name.map Selector.tag).getD .anything)
    | .nth fromEnd step offset false => go (.nth fromEnd step offset .anything)
    | .nth fromEnd step offset true => inside {} (.nth fromEnd step offset)
    | .nthOfTag fromEnd step offset => go (.nthOfTag fromEnd step offset)
    | .containsText own texts => go (.containsText own texts)
    | .lang ranges => go (.lang ranges)
    | .direction rtl => go (.direction rtl)
    | .scope => go .scope
    | .id value => go (.id value)
    | .hasClass name => go (.hasClass name)
    | .attr name demand negated =>
      let s := Selector.attr name demand
      go (if negated then .not s else s)
    | .pseudoClass name true =>
      match call? name with
      | some (inner, f) => inside inner f
      | none => .error .malformed
    | .pseudoClass name false =>
      match (structural? name).orElse fun _ => (known.find? (·.1 == name)).map (·.2) with
      | some s => go s
      | none => .error .malformed
    | .refused why => .error why

/-- Read a selector, with abbreviations. -/
def parseWith (known : List (String × Selector)) (text : String) : Except Refusal Selector :=
  let ts := tokens text
  (alternatives known (ts.length + 1) { nested := false } {} ts).map (·.1)

/-! ## Abbreviations -/

/-- Inputs that text is typed into, without the ones for dates and numbers. -/
def textInputs : String :=
  ":not([type]), [type=''], [type=text], [type=search], [type=url], [type=tel], [type=email],
  [type=password], [type=number]"

def controls : String := "input:not([type=hidden]), button, select, textarea, fieldset"

def boundedInputs : String :=
  "input:is([type=date], [type=month], [type=week], [type=time], [type=datetime-local],
  [type=number], [type=range]):is([min], [max])"

/-- Pseudo-classes that abbreviate selectors: every alternative with a condition in addition. An
abbreviation can use the ones before it. -/
def abbreviations : List (String × List (String × Selector)) := [
  ("link", [(":is(a, area)[href]", .anything)]),
  ("any-link", [(":is(a, area)[href]", .anything)]),
  ("checked",
    [(":is(input[type=checkbox], input[type=radio])[checked], option[selected]", .anything)]),
  ("default",
    [(":checked", .anything), ("form :is(button, input)[type='submit']", .firstSubmit)]),
  ("indeterminate",
    [("input[type=checkbox][indeterminate], progress:not([value]),
      input[type=radio]:is(:not([name]), [name='']):not([checked])", .anything),
      ("input[type=radio][name]:not([name='']):not([checked])", .groupUnset)]),
  ("disabled",
    [(":is(" ++ controls ++ ", optgroup, option)[disabled]", .anything),
      ("optgroup[disabled] > option", .anything),
      ("fieldset[disabled] > :is(" ++ controls ++ ")", .anything),
      ("fieldset[disabled] > :not(legend:nth-of-type(1)) :is(" ++ controls ++ ")", .anything)]),
  ("enabled", [(":is(" ++ controls ++ ", optgroup, option):not(:disabled)", .anything)]),
  ("required", [(":is(input, select, textarea)[required]", .anything)]),
  ("optional", [(":is(input, select, textarea):not([required])", .anything)]),
  ("placeholder-shown",
    [("input:is(" ++ textInputs ++ ")[placeholder]:not([placeholder='']):is(:not([value]),
      [value=''])", .anything),
      ("textarea[placeholder]:not([placeholder=''])", .withoutText)]),
  ("read-write",
    [(":is(textarea, input:is(" ++ textInputs ++ ", [type=date], [type=datetime-local],
      [type=month], [type=time], [type=week])):not([readonly], :disabled),
      :is([contenteditable=''], [contenteditable='true' i])", .anything)]),
  ("read-only", [(":not(:read-write)", .anything)]),
  ("in-range", [(boundedInputs, .ranged true)]),
  ("out-of-range", [(boundedInputs, .ranged false)]),
  ("open", [(":is(details, dialog)[open]", .anything)]),
  ("muted", [(":is(video, audio)[muted]", .anything)])]

/-- The selectors that the standard pseudo-classes abbreviate. -/
def standard : List (String × Selector) :=
  abbreviations.foldl (fun known (name, alternatives) =>
    let read (x : String × Selector) : Selector :=
      match parseWith known x.1 with
      | .ok s => .both s x.2
      | .error _ => .nothing
    known ++ [(name, alternatives.foldr (fun x acc => .either (read x) acc) .nothing)]) []

/-- Read a selector. -/
def parse (text : String) : Except Refusal Selector := parseWith standard text

end TrackerSearch.Selector
