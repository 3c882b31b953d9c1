import TrackerSearch.Proofs.Template.Cutting
import TrackerSearch.Proofs.Template.Tokens

/-!
# Templates mean what they say

A template that is written down and rendered gives the text that it stands for, unless opening
braces remain in that text; then it is refused with the first place where they do.
-/
namespace TrackerSearch.Template

open TrackerSearch.Text

variable {text : List Char} {ctx : Context}

/-! ## Terms -/

/-- A backslash twice, and any other character once. -/
def doubled (c : Char) : List Char := if c = '\\' then ['\\', '\\'] else [c]

theorem head?_escaped_ne (text : List Char) : (text.flatMap Term.escaped).head? ≠ some '"' := by
  cases text with
  | nil => simp
  | cons c text =>
    by_cases hc : c = '"' ∨ c = '\\'
    · simp [Term.escaped, hc]
    · simp only [not_or] at hc
      simp [Term.escaped, hc]

/-- The quotes come first; backslashes stay doubled. -/
theorem replaceAll_quotes (text : List Char) :
    replaceAll ['\\', '"'] ['"'] (text.flatMap Term.escaped) =
      text.flatMap doubled := by
  induction text with
  | nil => exact replaceAll_nil (by simp)
  | cons c text ih =>
    by_cases hquote : c = '"'
    · subst hquote
      have hlead : replaceAll ['\\', '"'] ['"'] (['\\', '"'] ++ text.flatMap Term.escaped) = _ :=
        replaceAll_lead (by simp) ['"'] _
      simpa [Term.escaped, doubled, ih] using hlead
    · by_cases hslash : c = '\\'
      · subst hslash
        have hfirst : dropLead? ['\\', '"'] ('\\' :: '\\' :: text.flatMap Term.escaped) = none :=
          dropLead?_pair_eq_none.mpr (.inr (by simp))
        have hsecond : dropLead? ['\\', '"'] ('\\' :: text.flatMap Term.escaped) = none :=
          dropLead?_pair_eq_none.mpr (.inr (head?_escaped_ne text))
        simp [Term.escaped, doubled, replaceAll_cons _ _ hfirst, replaceAll_cons _ _ hsecond, ih]
      · have hother : dropLead? ['\\', '"'] (c :: text.flatMap Term.escaped) = none :=
          dropLead?_pair_eq_none.mpr (.inl hslash)
        simp [Term.escaped, doubled, hquote, hslash, replaceAll_cons _ _ hother, ih]

theorem replaceAll_slashes (text : List Char) :
    replaceAll ['\\', '\\'] ['\\'] (text.flatMap doubled) = text := by
  induction text with
  | nil => exact replaceAll_nil (by simp)
  | cons c text ih =>
    by_cases hslash : c = '\\'
    · subst hslash
      have hlead : replaceAll ['\\', '\\'] ['\\'] (['\\', '\\'] ++ text.flatMap doubled) = _ :=
        replaceAll_lead (by simp) ['\\'] _
      simpa [doubled, ih] using hlead
    · have hother : dropLead? ['\\', '\\'] (c :: text.flatMap doubled) = none :=
        dropLead?_pair_eq_none.mpr (.inl hslash)
      simp [doubled, hslash, replaceAll_cons _ _ hother, ih]

theorem unquote_quoted (text : List Char) : unquote (Term.quoted text) = text := by
  have hbody : ((Term.quoted text).drop 1).dropLast = text.flatMap Term.escaped := by
    simp [Term.quoted]
  rw [unquote, hbody, replaceAll_quotes, replaceAll_slashes]
  simp [Term.quoted]

theorem isLiteral_quoted (text : List Char) : isLiteral (Term.quoted text) = true := by
  simp [isLiteral, Term.quoted, List.getLast?_cons]

theorem term?_keywords {token : List Char} (hliteral : isLiteral token = false)
    (h : token = ".Keywords".toList ∨ token = ".Query.Keywords".toList) :
    term? ctx token = some ctx.keywordValue := by
  rw [term?, hliteral, if_neg Bool.false_ne_true, if_pos h]

theorem term?_config {name : List Char} (hne : name ≠ []) (hpoint : '.' ∉ name) :
    term? ctx (".Config.".toList ++ name) = some (.ok (some (ctx.configValue name))) := by
  have hliteral : isLiteral (".Config.".toList ++ name) = false := by simp [isLiteral]
  have hkeywords : ¬(".Config.".toList ++ name = ".Keywords".toList ∨
      ".Config.".toList ++ name = ".Query.Keywords".toList) := by simp
  have hdrop : dropLead? ".Config.".toList (".Config.".toList ++ name) = some name :=
    dropLead?_eq_some_iff.mpr rfl
  rw [term?, hliteral, if_neg Bool.false_ne_true, if_neg hkeywords, hdrop]
  simp [hne, hpoint]

theorem term?_token (hk : ctx.HasKeywords) {term : Term} (h : term.IsWritable) :
    term? ctx term.token = some (.ok (some (term.value ctx))) := by
  cases term with
  | keywords =>
    exact (term?_keywords (by decide) (.inl rfl)).trans (congrArg some (ctx.keywordValue_eq hk))
  | queryKeywords =>
    exact (term?_keywords (by decide) (.inr rfl)).trans (congrArg some (ctx.keywordValue_eq hk))
  | config name => exact term?_config h.1 fun hm => (h.2 '.' hm).2 rfl
  | constant text =>
    change term? ctx (Term.quoted text) = some (.ok (some text))
    rw [term?, if_pos (isLiteral_quoted text), unquote_quoted]

/-! ## Function names -/

theorem ofName?_name (f : Function) : Function.ofName? f.name = some f := by cases f <;> decide

theorem ofName?_of_head {t : List Char} (h : t.head? ≠ some 'r') : Function.ofName? t = none := by
  have hre : t ≠ "re_replace".toList := by
    rintro rfl
    exact h (by decide)
  have hreplace : t ≠ "replace".toList := by
    rintro rfl
    exact h (by decide)
  rw [Function.ofName?, if_neg hre, if_neg hreplace]

theorem ofName?_token (term : Term) : Function.ofName? term.token = none := by
  refine ofName?_of_head ?_
  cases term with
  | keywords => decide
  | queryKeywords => decide
  | config name =>
    change some '.' ≠ some 'r'
    decide
  | constant text =>
    change some '"' ≠ some 'r'
    decide

/-! ## Pipelines -/

theorem eventsOf_append (ss ss' : List Substitution) :
    eventsOf (ss ++ ss') = eventsOf ss ++ eventsOf ss' := List.flatMap_append

theorem apply_eq {f : Function} {v x y : List Char}
    (h : ∀ s ∈ f.substitutions v x y, s.IsTame) :
    f.apply (some v) (some x) (some y) =
      ⟨.ok (some (f.value v x y)), eventsOf (f.substitutions v x y)⟩ := by
  cases f with
  | replace => rfl
  | reReplace =>
    have htame : Substitution.IsTame ⟨v, x, y⟩ := h _ (by simp [Function.substitutions])
    cases hr : Regex.replace x y v with
    | ok v' =>
      simp [Function.apply, Function.value, Function.substitutions, eventsOf,
        Substitution.events, Substitution.result, hr]
      rfl
    | error e =>
      obtain rfl : e = .malformed := htame e hr
      simp [Function.apply, Function.value, Function.substitutions, eventsOf,
        Substitution.events, Substitution.result, hr]

theorem termsOf_tokens (hk : ctx.HasKeywords) {terms : List Term}
    (h : ∀ term ∈ terms, term.IsWritable) :
    termsOf ctx (terms.map Term.token) = .ok (some ((terms.map (Term.value ctx)).map some)) := by
  induction terms with
  | nil => rfl
  | cons term terms ih =>
    obtain ⟨hterm, hterms⟩ := List.forall_mem_cons.mp h
    rw [List.map_cons, termsOf, term?_token hk hterm, ih hterms]
    rfl

/-- A function works on the value so far and on the terms behind its name. -/
theorem runCommand_call (hk : ctx.HasKeywords) {f : Function} {value : Value} {terms : List Term}
    {v x y : List Char} (h : ∀ term ∈ terms, term.IsWritable)
    (hargs : value.toList ++ terms.map (Term.value ctx) = [v, x, y])
    (htame : ∀ s ∈ f.substitutions v x y, s.IsTame) :
    runCommand ctx value (f.name :: terms.map Term.token) =
      ⟨.ok (some (some (f.value v x y))), eventsOf (f.substitutions v x y)⟩ := by
  have hvalues : value.toList.map some ++ (terms.map (Term.value ctx)).map some =
      [some v, some x, some y] := by
    rw [← List.map_append, hargs]
    rfl
  simp only [runCommand, ofName?_name, termsOf_tokens hk h, Traced.ofExcept_ok, Traced.pure_bind,
    hvalues, apply_eq htame]
  simp only [bind, pure, List.append_nil]

theorem runCommand_term (hk : ctx.HasKeywords) {term : Term} (h : term.IsWritable) :
    runCommand ctx none [term.token] = pure (some (some (term.value ctx))) := by
  simp only [runCommand, ofName?_token, term?_token hk h, Traced.ofExcept_ok, Traced.pure_bind]
  rfl

/-- What a command reports comes before what the commands behind it report. -/
theorem runCommands_cons {value : Value} {command : List (List Char)}
    {rest : List (List (List Char))} {v w : List Char} {events more : List Event}
    (h : runCommand ctx value command = ⟨.ok (some (some v)), events⟩)
    (hrest : runCommands ctx (some v) rest = ⟨.ok (some w), more⟩) :
    runCommands ctx value (command :: rest) = ⟨.ok (some w), events ++ more⟩ := by
  simp only [runCommands, h, bind, hrest]

theorem runCommands_stages (hk : ctx.HasKeywords) {stages : List Stage} {v : List Char}
    (h : ∀ s ∈ stages, ∀ term ∈ [s.first, s.second], term.IsWritable)
    (htame : ∀ s ∈ Stage.substitutionsOf ctx v stages, s.IsTame) :
    runCommands ctx (some v) (stages.map Stage.tokens) =
      ⟨.ok (some (stages.foldl (Stage.value ctx) v)),
        eventsOf (Stage.substitutionsOf ctx v stages)⟩ := by
  induction stages generalizing v with
  | nil => rfl
  | cons s stages ih =>
    obtain ⟨hs, hstages⟩ := List.forall_mem_cons.mp h
    obtain ⟨htame, htames⟩ := List.forall_mem_append.mp htame
    rw [Stage.substitutionsOf, eventsOf_append]
    exact runCommands_cons (runCommand_call hk hs rfl htame) (ih hstages htames)

/-- The first command gives a value, and the others work on it. -/
theorem runCommands_pipeline (hk : ctx.HasKeywords) {p : Pipeline}
    (h : ∀ term ∈ p.terms, term.IsWritable) (htame : ∀ s ∈ p.substitutions ctx, s.IsTame) :
    runCommands ctx none p.commands =
      ⟨.ok (some (p.value ctx)), eventsOf (p.substitutions ctx)⟩ := by
  have hstages : ∀ s ∈ p.stages, ∀ term ∈ [s.first, s.second], term.IsWritable :=
    fun s hs => mem_stages_isWritable h hs
  obtain ⟨start, stages⟩ := p
  obtain ⟨hstart, -⟩ := List.forall_mem_append.mp h
  obtain ⟨htame, htames⟩ := List.forall_mem_append.mp htame
  have hrest := runCommands_stages hk hstages htames
  cases start with
  | term t =>
    have ht : t.IsWritable := hstart t (by simp [Start.terms])
    exact runCommands_cons (runCommand_term hk ht) hrest
  | call f v x y =>
    rw [Pipeline.substitutions, eventsOf_append]
    exact runCommands_cons (runCommand_call hk hstart rfl htame) hrest

theorem evaluate_source (hk : ctx.HasKeywords) {p : Pipeline}
    (h : ∀ term ∈ p.terms, term.IsWritable) (htame : ∀ s ∈ p.substitutions ctx, s.IsTame) :
    evaluate ctx (' ' :: p.source ++ [' ']) =
      ⟨.ok (some (p.value ctx)), eventsOf (p.substitutions ctx)⟩ := by
  have hfull : p.commands.any (·.isEmpty) = false := by
    simpa using fun command hm => (isCommand_commands h command hm).ne_nil
  rw [evaluate, pipeline_source h, hfull]
  exact runCommands_pipeline hk h htame

/-! ## Holes -/

/-- The action that is read where a hole was written. -/
def Hole.toAction (h : Hole) : Action := ⟨h.trimLeft, h.body, h.trimRight⟩

theorem getLast?_body (h : Hole) : h.body.getLast? = some ' ' := List.getLast?_concat ..

theorem ofInner_inner (h : Hole) : Action.ofInner h.inner = h.toAction := by
  have hhead : h.body.head? = some ' ' := rfl
  have hlast := getLast?_body h
  obtain ⟨trimLeft, p, trimRight⟩ := h
  cases trimLeft <;> cases trimRight <;>
    simp [Action.ofInner, Hole.inner, Hole.mark, Hole.toAction, hhead, hlast]

theorem getLast?_inner (h : Hole) : h.inner.getLast? ≠ some '\x7d' := by
  have hlast := getLast?_body h
  obtain ⟨trimLeft, p, trimRight⟩ := h
  cases trimRight <;> simp [Hole.inner, Hole.mark, hlast]

theorem not_closeBraces_inner {h : Hole} (hclose : ¬closeBraces <:+: h.source.dropLast) :
    ¬closeBraces <:+: h.inner := by
  refine fun hin => hclose (hin.trans ?_)
  rw [Hole.source, List.dropLast_append_of_ne_nil (by decide)]
  exact ⟨openBraces, ['\x7d'], rfl⟩

/-- A template that is written down is cut where its holes are. -/
theorem segments_source {t : Abstract} (h : t.IsWritable) :
    segments t.source = (t.parts.map fun (literal, hole) => (literal, hole.toAction), t.tail) := by
  obtain ⟨parts, tail⟩ := t
  induction parts with
  | nil => exact segments_of_literal h.tail
  | cons part parts ih =>
    obtain ⟨literal, hole⟩ := part
    obtain ⟨⟨hno, hlast⟩, hliterals⟩ := List.forall_mem_cons.mp h.literals
    obtain ⟨hhole, hholes⟩ := List.forall_mem_cons.mp h.holes
    have hrest := ih ⟨hliterals, h.tail, hholes, (List.forall_mem_cons.mp h.terms).2⟩
    have hsource : Abstract.source ⟨(literal, hole) :: parts, tail⟩ =
        literal ++ openBraces ++ hole.inner ++ closeBraces ++ Abstract.source ⟨parts, tail⟩ := by
      simp [Abstract.source, Hole.source]
    rw [hsource, segments_of_action hno hlast (not_closeBraces_inner hhole) (getLast?_inner hole),
      hrest, ofInner_inner]
    rfl

/-! ## Rendering -/

theorem renderSegments_parts (hk : ctx.HasKeywords) {parts : List (List Char × Hole)}
    {tail : List Char}
    (h : ∀ part ∈ parts, ∀ term ∈ part.2.pipeline.terms, term.IsWritable)
    (htame : ∀ part ∈ parts, ∀ s ∈ part.2.pipeline.substitutions ctx, s.IsTame) (left : Bool) :
    renderSegments ctx left (parts.map fun (literal, hole) => (literal, hole.toAction)) tail =
      ⟨.ok (Abstract.valueFrom ctx left parts tail),
        eventsOf (parts.flatMap fun (_, hole) => hole.pipeline.substitutions ctx)⟩ := by
  induction parts generalizing left with
  | nil => rfl
  | cons part parts ih =>
    obtain ⟨literal, hole⟩ := part
    obtain ⟨hterms, hrest⟩ := List.forall_mem_cons.mp h
    obtain ⟨htame, htames⟩ := List.forall_mem_cons.mp htame
    have hvalue : evaluate ctx hole.toAction.body = _ := evaluate_source hk hterms htame
    have hmore : renderSegments ctx hole.toAction.trimRight _ tail = _ :=
      ih hrest htames hole.trimRight
    rw [List.map_cons, renderSegments, hvalue, hmore, List.flatMap_cons, eventsOf_append]
    simp only [bind, pure, List.append_nil]
    rfl

/-- Where opening braces remain, a rendering is refused. -/
theorem render_eq {template : List Char} {segs : List Segment} {tail v : List Char}
    {events : List Event} (hsegs : segments template = (segs, tail))
    (hv : renderSegments ctx false segs tail = ⟨.ok v, events⟩) :
    render ctx template = ⟨match leftover? v with
      | none => .ok v
      | some fragment => .error (.unresolved (String.ofList template) (String.ofList fragment)),
      events⟩ := by
  simp only [render, hsegs, hv, bind, Traced.mapError, mapError_ok]
  cases leftover? v <;> simp [throw, throwThe, MonadExceptOf.throw]

/-- What a template that was written down is rendered as. -/
theorem render_source_eq (hk : ctx.HasKeywords) {t : Abstract} (h : t.IsWritable)
    (htame : ∀ s ∈ t.substitutions ctx, s.IsTame) :
    render ctx t.source = ⟨match leftover? (t.value ctx) with
      | none => .ok (t.value ctx)
      | some fragment => .error (.unresolved (String.ofList t.source) (String.ofList fragment)),
      eventsOf (t.substitutions ctx)⟩ := by
  have htames : ∀ part ∈ t.parts, ∀ s ∈ part.2.pipeline.substitutions ctx, s.IsTame :=
    fun part hm s hs => htame s (List.mem_flatMap.mpr ⟨part, hm, hs⟩)
  exact render_eq (segments_source h) (renderSegments_parts hk h.terms htames false)

/-- Rendering gives the text that a template stands for, with one report for every pattern that
cannot be used. It fails exactly if opening braces remain in that text. -/
theorem render_of_writable {t : Abstract} (h : t.IsWritable) (ctx : Context) (hk : ctx.HasKeywords)
    (htame : ∀ s ∈ t.substitutions ctx, s.IsTame) :
    (render ctx t.source).events = eventsOf (t.substitutions ctx) ∧
      (¬openBraces <:+: t.value ctx → (render ctx t.source).outcome = .ok (t.value ctx)) ∧
      (openBraces <:+: t.value ctx → ∃ fragment, FirstLeftover (t.value ctx) fragment ∧
        (render ctx t.source).outcome =
          .error (.unresolved (String.ofList t.source) (String.ofList fragment))) := by
  rw [render_source_eq hk h htame]
  refine ⟨rfl, fun hno => ?_, fun hopen => ?_⟩
  · simp only [leftover?_of_none hno]
  · obtain ⟨fragment, hleft, hfirst⟩ := leftover?_spec hopen
    exact ⟨fragment, hfirst, by simp only [hleft]⟩

/-- Marks on both sides, escapes in the constants, and a pattern that cannot be used. -/
def sample : Abstract where
  parts :=
    [("find ".toList,
      { trimLeft := true
        pipeline :=
          { start := .call .reReplace .keywords (.constant "%(.).".toList)
              (.constant "-$1".toList)
            stages := [⟨.replace, .constant "-2".toList, .constant "\"\\".toList⟩,
              ⟨.reReplace, .constant "(".toList, .queryKeywords⟩] }
        trimRight := true }),
      (" / ".toList, ⟨false, ⟨.term (.config "user_1".toList), []⟩, false⟩)]
  tail := " \x7b".toList

def sampleContext : Context where
  keywords := "a b".toList
  config := [("user_1", some "me")]

theorem render_of_sample :
    sample.IsWritable ∧ sampleContext.HasKeywords ∧
    (∀ s ∈ sample.substitutions sampleContext, s.IsTame) ∧
    (render sampleContext sample.source).events =
      eventsOf (sample.substitutions sampleContext) ∧
    (¬openBraces <:+: sample.value sampleContext →
      (render sampleContext sample.source).outcome = .ok (sample.value sampleContext)) ∧
    (openBraces <:+: sample.value sampleContext →
      ∃ fragment, FirstLeftover (sample.value sampleContext) fragment ∧
        (render sampleContext sample.source).outcome =
          .error (.unresolved (String.ofList sample.source) (String.ofList fragment))) :=
  have hsample : sample.IsWritable :=
    { literals := by
        intro part hm
        rw [← cutAt?_openBraces_iff]
        revert part
        decide
      tail := cutAt?_openBraces_iff.mp (by decide)
      holes := by
        intro part hm
        rw [← cutAt?_closeBraces_iff]
        revert part
        decide +kernel
      terms := by decide }
  have htame : ∀ s ∈ sample.substitutions sampleContext, s.IsTame := by decide +kernel
  ⟨hsample, rfl, htame, render_of_writable hsample sampleContext rfl htame⟩

example : sample.source =
    ("find \x7b\x7b- re_replace .Keywords \"%(.).\" \"-$1\" | replace \"-2\" \"\\\"\\\\\" | " ++
      "re_replace \"(\" .Query.Keywords -\x7d\x7d / \x7b\x7b .Config.user_1 \x7d\x7d \x7b").toList := by
  decide +kernel

example : sample.value sampleContext = "finda\"\\b/ me \x7b".toList := by decide +kernel

end TrackerSearch.Template
