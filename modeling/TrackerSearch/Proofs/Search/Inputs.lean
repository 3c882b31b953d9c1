import Mathlib.Data.List.Infix
import TrackerSearch.Proofs.Template.Plain
import TrackerSearch.Search.Engine

/-!
# Which inputs are sent

Inputs are rendered one by one, and those that are refused are left out. Where templates use the
keywords in actions of their own only, keywords can still decide which inputs are sent: what counts
is whether there are opening braces once they are filled in, and these may be the keywords' own
(`queryInputs_of_plainUse`).
-/
namespace TrackerSearch.Search.Engine

open Template Text

variable {e : Engine} {d : Definition} {search : SearchBlock} {path : SearchPath} {ctx : Context}

/-- The inputs that are sent once keywords are filled in: those without opening braces. -/
def filledInputs (ctx : Context) (templates : Table String) (k : List Char) : Table String :=
  templates.filterMap fun (name, template) =>
    let value := fillIn k (pieces ctx template.toList)
    if openBraces <:+: value then none else some (name, String.ofList value)

/-- The first fault of some templates. -/
def inputFault? (ctx : Context) (templates : Table String) : Option Fault :=
  templates.findSome? fun (_, template) => firstFatal? (usesOf ctx template.toList)

theorem inputFault?_cons (ctx : Context) (name template : String) (rest : Table String) :
    inputFault? ctx ((name, template) :: rest) =
      (firstFatal? (usesOf ctx template.toList)).or (inputFault? ctx rest) := by
  simp only [inputFault?, List.findSome?_cons]
  cases firstFatal? (usesOf ctx template.toList) <;> rfl

theorem filledInputs_cons (ctx : Context) (name template : String) (rest : Table String)
    (k : List Char) :
    filledInputs ctx ((name, template) :: rest) k =
      if openBraces <:+: fillIn k (pieces ctx template.toList) then filledInputs ctx rest k
      else (name, String.ofList (fillIn k (pieces ctx template.toList))) ::
        filledInputs ctx rest k := by
  unfold filledInputs
  rw [List.filterMap_cons]
  by_cases h : openBraces <:+: fillIn k (pieces ctx template.toList)
  · simp only [if_pos h]
  · simp only [if_neg h]

theorem outcome_renderInputs_of_plainUse (hk : ctx.HasKeywords) (hencode : ctx.encode = false)
    {templates : Table String} (h : ∀ entry ∈ templates, PlainUse entry.2.toList) (k : List Char) :
    (renderInputs (ctx.searchingFor k) templates).outcome =
      match inputFault? ctx templates with
      | some f => .error (.fault f)
      | none => .ok (filledInputs ctx templates k) := by
  induction templates with
  | nil => rfl
  | cons entry rest ih =>
    obtain ⟨name, template⟩ := entry
    obtain ⟨hentry, hrest⟩ := List.forall_mem_cons.mp h
    have hrender := outcome_render_of_plainUse hk hencode hentry k
    rw [renderInputs, inputFault?_cons, filledInputs_cons, Traced.outcome_bind, Traced.attempt,
      hrender]
    cases firstFatal? (usesOf ctx template.toList) with
    | some f => rfl
    | none =>
      rw [Option.none_or]
      by_cases hopen : openBraces <:+: fillIn k (pieces ctx template.toList)
      · obtain ⟨fragment, hleft, -⟩ := leftover?_spec hopen
        simp only [hleft, if_pos hopen]
        exact ih hrest
      · simp only [leftover?_of_none hopen, if_neg hopen]
        rw [Except.bind, Traced.outcome_bind, ih hrest]
        cases inputFault? ctx rest <;> rfl

theorem names_filledInputs {k k' : List Char} (hk : Neutral k) (hk' : Neutral k')
    (ctx : Context) (templates : Table String) :
    (filledInputs ctx templates k).map (·.1) = (filledInputs ctx templates k').map (·.1) := by
  induction templates with
  | nil => rfl
  | cons entry rest ih =>
    obtain ⟨name, template⟩ := entry
    have hopen := openBraces_fillIn_iff hk hk' (pieces ctx template.toList)
    rw [filledInputs_cons, filledInputs_cons]
    by_cases h : openBraces <:+: fillIn k (pieces ctx template.toList)
    · rw [if_pos h, if_pos (hopen.mp h), ih]
    · rw [if_neg h, if_neg fun h' => h (hopen.mpr h'), List.map_cons, List.map_cons, ih]

/-- An action for the keywords and nothing else. -/
def keywordsTemplate : String := "\x7b\x7b .Keywords \x7d\x7d"

theorem pieces_keywordsTemplate (ctx : Context) :
    pieces ctx keywordsTemplate.toList = [.text [], .keywords, .text []] := by
  have hkeywords : Action.IsKeywords ⟨false, " .Keywords ".toList, false⟩ := by decide +kernel
  have hsegs : segments keywordsTemplate.toList =
      ([([], ⟨false, " .Keywords ".toList, false⟩)], []) := by decide +kernel
  rw [pieces, hsegs, piecesFrom, piecesFrom, Action.piece, if_pos hkeywords]
  rfl

/-- Keywords do not matter to the fault of a search's inputs and to the pieces that its inputs are
made of, and the inputs without opening braces are sent. So neutral keywords do not decide which
these are, and an action for the keywords alone is sent as they are; but where the keywords hold
opening braces, no input that uses them is sent. -/
theorem queryInputs_of_plainUse
    (hplain : ∀ entry ∈ inputTemplates search path, PlainUse entry.2.toList) :
    (∀ k : List Char, (e.queryInputs d search path k).outcome =
      match inputFault? (e.context d (some [])) (inputTemplates search path) with
      | some f => .error (.fault f)
      | none => .ok (filledInputs (e.context d (some [])) (inputTemplates search path) k)) ∧
    (∀ k k' : List Char, Neutral k → Neutral k' →
      (e.queryInputs d search path k).outcome.map (·.map (·.1)) =
        (e.queryInputs d search path k').outcome.map (·.map (·.1))) ∧
    (∀ k, fillIn k (pieces (e.context d (some [])) keywordsTemplate.toList) = k) ∧
    ∀ k template, openBraces <:+: k → UsesKeywords template →
      openBraces <:+: fillIn k (pieces (e.context d (some [])) template) := by
  have hk : (e.context d (some [])).HasKeywords := rfl
  have hencode : (e.context d (some [])).encode = false := rfl
  have houtcome (k : List Char) : (e.queryInputs d search path k).outcome = _ :=
    outcome_renderInputs_of_plainUse hk hencode hplain k
  refine ⟨houtcome, fun k k' hk hk' => ?_, fun k => ?_, fun k template hopen huses =>
    openBraces_fillIn_of_usesKeywords huses hopen _⟩
  · rw [houtcome, houtcome]
    cases inputFault? (e.context d (some [])) (inputTemplates search path) with
    | some f => rfl
    | none => exact congrArg Except.ok (names_filledInputs hk hk' ..)
  · rw [pieces_keywordsTemplate]
    exact List.append_nil k

/-- A site with one input, which is the keywords. -/
def wordSearch : SearchBlock where
  paths := [{ path := "search" }]
  inputs := [("q", keywordsTemplate)]

def wordPath : SearchPath where
  path := "search"

def wordSite : Definition where
  id := "w"
  name := "W"
  links := ["https://w.example/"]
  search := some wordSearch

def wordEngine : Engine where
  means := { client := { userAgent := none, followRedirects := true }, relay := none }

theorem queryInputs_of_wordSite :
    (∀ entry ∈ inputTemplates wordSearch wordPath, PlainUse entry.2.toList) ∧
      Neutral "ubuntu".toList ∧ Neutral "a \x7b b".toList ∧
      (wordEngine.queryInputs wordSite wordSearch wordPath "ubuntu".toList).outcome.map
          (·.map (·.1)) =
        (wordEngine.queryInputs wordSite wordSearch wordPath "a \x7b b".toList).outcome.map
          (·.map (·.1)) := by
  have hplain : ∀ entry ∈ inputTemplates wordSearch wordPath, PlainUse entry.2.toList := by
    decide +kernel
  have h₁ : Neutral "ubuntu".toList := ⟨by decide, by decide, by decide, by decide⟩
  have h₂ : Neutral "a \x7b b".toList := ⟨by decide, by decide, by decide, by decide⟩
  exact ⟨hplain, h₁, h₂, (queryInputs_of_plainUse hplain).2.1 _ _ h₁ h₂⟩

/-- Opening braces that were typed are taken for an action that was not filled in, and the input is
not sent. -/
theorem queryInputs_of_typed_braces :
    (∀ entry ∈ inputTemplates wordSearch wordPath, PlainUse entry.2.toList) ∧
      (wordEngine.queryInputs wordSite wordSearch wordPath "ubuntu".toList).outcome =
        .ok [("q", "ubuntu")] ∧
      (wordEngine.queryInputs wordSite wordSearch wordPath "\x7b\x7b".toList).outcome = .ok [] := by
  decide +kernel

end TrackerSearch.Search.Engine
