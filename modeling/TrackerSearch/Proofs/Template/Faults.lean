import TrackerSearch.Proofs.Template.Language
import TrackerSearch.Proofs.Template.Refusal
import TrackerSearch.Proofs.Template.Tokens

/-!
# Templates that cannot be rendered

The actions of a template use patterns on the way to their values, one after the other. A use whose
pattern is malformed changes nothing, but one that is refused for any other reason ends the
rendering, and with it the address of a search. Only the uses that the commands come to count: those
behind a command that is not supported do not.
-/
namespace TrackerSearch.Template

open TrackerSearch.Text

variable {ctx : Context}

/-! ## One use of a pattern -/

namespace Substitution

/-- The fault that a use of a pattern ends a rendering with, if it does. -/
def fatal? (s : Substitution) : Option Fault :=
  match s.result with
  | .ok _ | .error .malformed => none
  | .error e => some (Fault.ofPattern e)

end Substitution

/-- The fault of the first use that ends a rendering. -/
def firstFatal? (ss : List Substitution) : Option Fault := ss.findSome? Substitution.fatal?

theorem firstFatal?_append (ss ss' : List Substitution) :
    firstFatal? (ss ++ ss') = (firstFatal? ss).or (firstFatal? ss') := List.findSome?_append

/-- A value, unless there is a fault. -/
def orFault {α : Type} (fault : Option Fault) (value : α) : Except Fault α :=
  match fault with
  | some f => .error f
  | none => .ok value

theorem outcome_apply (f : Function) (v x y : List Char) :
    (f.apply (some v) (some x) (some y)).outcome =
      orFault (firstFatal? (f.substitutions v x y)) (some (f.value v x y)) := by
  cases f with
  | replace => rfl
  | reReplace =>
    have hone : firstFatal? (Function.substitutions .reReplace v x y) =
        Substitution.fatal? ⟨v, x, y⟩ := by
      simp [firstFatal?, Function.substitutions]
    rw [hone]
    unfold Function.apply Function.value Substitution.fatal? Substitution.result
    cases hr : Regex.replace x y v with
    | ok v' => simp [hr, orFault]
    | error e => cases e <;> simp [hr, orFault]

/-! ## The commands of an action -/

/-- The text of a term, where it has one. -/
def text? (ctx : Context) (t : List Char) : Option (List Char) :=
  (term? ctx t).bind fun value => value.toOption.join

/-- Where there are keywords, every term that templates can use has a text. -/
theorem term?_eq (hk : ctx.HasKeywords) (t : List Char) :
    term? ctx t = (text? ctx t).map fun v => .ok (some v) := by
  unfold text? term?
  rw [ctx.keywordValue_eq hk]
  split
  · rfl
  · split
    · rfl
    · split
      · split <;> rfl
      · rfl

theorem termsOf_eq (hk : ctx.HasKeywords) (ts : List (List Char)) :
    termsOf ctx ts = .ok ((ts.mapM (text? ctx)).map (·.map some)) := by
  induction ts with
  | nil => rfl
  | cons t ts ih =>
    rw [termsOf, term?_eq hk, List.mapM_cons]
    cases text? ctx t with
    | none => rfl
    | some v =>
      simp only [Option.map_some, ih]
      cases ts.mapM (text? ctx) <;> rfl

/-- The uses of patterns in a command and the text that it gives, where it is supported. -/
def commandUses? (ctx : Context) (value : Option (List Char)) :
    List (List Char) → Option (List Substitution × List Char)
  | [] => none
  | head :: args =>
    match Function.ofName? head with
    | some f =>
      match (args.mapM (text? ctx)).map (value.toList ++ ·) with
      | some [v, x, y] => some (f.substitutions v x y, f.value v x y)
      | _ => none
    | none => if value.isNone ∧ args = [] then (text? ctx head).map fun v => ([], v) else none

/-- The uses of patterns that some commands come to, given the value so far. -/
def usesFrom (ctx : Context) : Option (List Char) → List (List (List Char)) → List Substitution
  | _, [] => []
  | value, command :: rest =>
    match commandUses? ctx value command with
    | some (uses, v) => uses ++ usesFrom ctx (some v) rest
    | none => []

/-- The uses of patterns in the body of an action. -/
def usesOfBody (ctx : Context) (body : List Char) : List Substitution :=
  let commands := pipeline (tokens body)
  if commands.any (·.isEmpty) then [] else usesFrom ctx none commands

/-- The uses of patterns in a template, first one first. -/
def usesOf (ctx : Context) (template : List Char) : List Substitution :=
  (segments template).1.flatMap fun (_, action) => usesOfBody ctx action.body

/-- Two steps have the fault of the first one, or else that of the second. -/
theorem outcome_bind_orFault {α β : Type} {x : Traced Fault α} {f : α → Traced Fault β}
    {first second : Option Fault} {a : α} {b : β} (hx : x.outcome = orFault first a)
    (hf : (f a).outcome = orFault second b) :
    (x >>= f).outcome = orFault (first.or second) b := by
  rw [Traced.outcome_bind, hx]
  cases first with
  | some fault => rfl
  | none => exact hf

theorem outcome_runCommand (hk : ctx.HasKeywords) (value : Option (List Char))
    (command : List (List Char)) :
    (runCommand ctx value command).outcome = match commandUses? ctx value command with
      | some (uses, v) => orFault (firstFatal? uses) (some (some v))
      | none => .ok none := by
  cases command with
  | nil => rfl
  | cons head args =>
    rw [runCommand, commandUses?]
    cases Function.ofName? head with
    | some f =>
      dsimp only
      rw [termsOf_eq hk, Traced.ofExcept_ok, Traced.pure_bind]
      cases args.mapM (text? ctx) with
      | none => rfl
      | some terms =>
        simp only [Option.map_some, ← List.map_append]
        rcases value.toList ++ terms with _ | ⟨v, _ | ⟨x, _ | ⟨y, _ | ⟨z, more⟩⟩⟩⟩
        case cons.cons.cons.nil =>
          simp only [List.map_cons, List.map_nil, Traced.outcome_bind, outcome_apply]
          cases firstFatal? (f.substitutions v x y) <;> rfl
        all_goals rfl
    | none =>
      dsimp only
      rw [term?_eq hk]
      split
      · cases text? ctx head <;> rfl
      · rfl

theorem outcome_runCommands_cons (hk : ctx.HasKeywords) {rest : List (List (List Char))}
    (hrest : ∀ v, ∃ w, (runCommands ctx (some v) rest).outcome =
      orFault (firstFatal? (usesFrom ctx (some v) rest)) w)
    (value : Option (List Char)) (command : List (List Char)) :
    ∃ w, (runCommands ctx value (command :: rest)).outcome =
      orFault (firstFatal? (usesFrom ctx value (command :: rest))) w := by
  have hstep := outcome_runCommand hk value command
  rw [runCommands, usesFrom]
  cases hcommand : commandUses? ctx value command with
  | none =>
    rw [hcommand] at hstep
    exact ⟨none, by rw [Traced.outcome_bind, hstep]; rfl⟩
  | some found =>
    obtain ⟨uses, v⟩ := found
    rw [hcommand] at hstep
    obtain ⟨w, hw⟩ := hrest v
    dsimp only
    rw [firstFatal?_append]
    exact ⟨w, outcome_bind_orFault hstep hw⟩

/-- Behind a command there is a value. -/
theorem outcome_runCommands (hk : ctx.HasKeywords) (commands : List (List (List Char)))
    (v : List Char) :
    ∃ w, (runCommands ctx (some v) commands).outcome =
      orFault (firstFatal? (usesFrom ctx (some v) commands)) w := by
  induction commands generalizing v with
  | nil => exact ⟨some v, rfl⟩
  | cons command rest ih => exact outcome_runCommands_cons hk ih (some v) command

theorem outcome_evaluate (hk : ctx.HasKeywords) (body : List Char) :
    ∃ w, (evaluate ctx body).outcome = orFault (firstFatal? (usesOfBody ctx body)) w := by
  unfold evaluate usesOfBody
  dsimp only
  split
  · exact ⟨none, rfl⟩
  · obtain ⟨command, rest, hcommands⟩ := List.exists_cons_of_ne_nil (pipeline_ne_nil (tokens body))
    rw [hcommands]
    exact outcome_runCommands_cons hk (outcome_runCommands hk rest) none command

/-! ## Templates and addresses -/

theorem outcome_renderSegments (hk : ctx.HasKeywords) (trimNext : Bool) (segs : List Segment)
    (tail : List Char) :
    ∃ w, (renderSegments ctx trimNext segs tail).outcome =
      orFault (firstFatal? (segs.flatMap fun (_, action) => usesOfBody ctx action.body)) w := by
  induction segs generalizing trimNext with
  | nil => exact ⟨_, rfl⟩
  | cons segment segs ih =>
    obtain ⟨literal, action⟩ := segment
    obtain ⟨value, hvalue⟩ := outcome_evaluate hk action.body
    obtain ⟨more, hmore⟩ := ih action.trimRight
    rw [renderSegments, List.flatMap_cons, firstFatal?_append]
    have hlast : ∀ lead : List Char,
        (renderSegments ctx action.trimRight segs tail >>= fun more =>
          (pure (lead ++ value.getD action.source ++ more) : Traced Fault (List Char))).outcome =
        orFault (firstFatal? (segs.flatMap fun (_, action) => usesOfBody ctx action.body))
          (lead ++ value.getD action.source ++ more) := by
      intro lead
      rw [Traced.outcome_bind, hmore]
      cases firstFatal? (segs.flatMap fun (_, action) => usesOfBody ctx action.body) <;> rfl
    exact ⟨_, outcome_bind_orFault hvalue (hlast _)⟩

theorem exists_rendering (hk : ctx.HasKeywords) (template : List Char) :
    ∃ w, rendering ctx template = orFault (firstFatal? (usesOf ctx template)) w :=
  outcome_renderSegments hk false (segments template).1 (segments template).2

/-- Where there are keywords, a rendering ends in a fault exactly if a use of a pattern does. -/
theorem rendering_eq_error_iff (hk : ctx.HasKeywords) (template : List Char) (f : Fault) :
    rendering ctx template = .error f ↔ firstFatal? (usesOf ctx template) = some f := by
  obtain ⟨w, hw⟩ := exists_rendering hk template
  rw [hw]
  cases firstFatal? (usesOf ctx template) <;> simp [orFault]

/-- The uses of patterns in the path of a search. -/
def pathUses (d : Definition) (keywords : List Char) (config : Bindings) (fallback : String)
    (category : Option String) : List Substitution :=
  match d.firstPath? category with
  | none => []
  | some path => usesOf (pathContext d keywords config fallback) path.path.toList

/-- There is an address to fetch unless a use of a pattern in the path ends in a fault. -/
theorem targetUrl_eq_error_iff (d : Definition) (keywords : List Char) (config : Bindings)
    (fallback : String) (category : Option String) (e : Failure) :
    (targetUrl d keywords config fallback category).outcome = .error e ↔
      ∃ f, firstFatal? (pathUses d keywords config fallback category) = some f ∧ e = .fault f := by
  have hk : (pathContext d keywords config fallback).HasKeywords := rfl
  cases hp : d.firstPath? category with
  | none =>
    rw [targetUrl_of_no_path hp]
    simp [pathUses, hp, firstFatal?]
  | some path =>
    have hfault : ∀ f, rendering (pathContext d keywords config fallback) path.path.toList =
        .error f ↔ firstFatal? (pathUses d keywords config fallback category) = some f := by
      intro f
      rw [rendering_eq_error_iff hk, pathUses, hp]
    simp only [← hfault]
    rcases render_cases (pathContext d keywords config fallback) path.path.toList with
      ⟨v, hr, -, hv⟩ | ⟨v, fragment, hr, -, hv⟩ | ⟨f, hr, hv⟩
    · rw [targetUrl_of_whole hp hv]
      simp [hr]
    · rw [targetUrl_of_leftover hp hv]
      simp [hr]
    · rw [targetUrl_of_fault hp hv]
      simp [hr, eq_comm]

end TrackerSearch.Template
