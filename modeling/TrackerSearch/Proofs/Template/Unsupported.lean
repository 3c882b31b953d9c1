import TrackerSearch.Proofs.Template.Plain
import TrackerSearch.Proofs.Template.Refusal

/-!
# Actions that are not supported

One token that is neither a function nor a term is enough: the action has no value, and it stays in
its place as it was written (`refused_of_unsupported`).
-/
namespace TrackerSearch.Template

open TrackerSearch.Text

variable {ctx : Context} {t template body v w tail : List Char} {value : Value}

/-! ## Tokens of an action that has a value -/

/-- A token that an action with a value can have. -/
def IsSupported (ctx : Context) (t : List Char) : Prop :=
  t = ['|'] ∨ (Function.ofName? t).isSome ∨ (term? ctx t).isSome

theorem isSome_of_termsOf {ts : List (List Char)} {values : List Value}
    (h : termsOf ctx ts = .ok (some values)) : ∀ t ∈ ts, (term? ctx t).isSome := by
  induction ts generalizing values with
  | nil => simp
  | cons t ts ih =>
    rw [termsOf] at h
    cases ht : term? ctx t with
    | none =>
      rw [ht] at h
      cases h
    | some value =>
      simp only [ht, except_bind_eq_ok] at h
      obtain ⟨v, -, found, hfound, h⟩ := h
      cases found with
      | none => cases h
      | some values => exact List.forall_mem_cons.mpr ⟨by rw [ht]; rfl, ih hfound⟩

theorem isSupported_of_runCommand {command : List (List Char)} {result : Value}
    (h : (runCommand ctx value command).outcome = .ok (some result)) :
    ∀ t ∈ command, IsSupported ctx t := by
  cases command with
  | nil => cases h
  | cons head args =>
    rw [runCommand] at h
    cases hf : Function.ofName? head with
    | some f =>
      simp only [hf] at h
      obtain ⟨found, hfound, h⟩ := Traced.outcome_bind_eq_ok.mp h
      cases found with
      | none => cases h
      | some terms =>
        refine List.forall_mem_cons.mpr ⟨.inr (.inl (by rw [hf]; rfl)), fun t hm => ?_⟩
        exact .inr (.inr (isSome_of_termsOf hfound t hm))
    | none =>
      -- Only the first command can be a term, and it is a term and nothing else.
      simp only [hf] at h
      split at h
      · rename_i hfirst
        cases hterm : term? ctx head with
        | none =>
          rw [hterm] at h
          cases h
        | some v =>
          rw [hfirst.2]
          exact List.forall_mem_singleton.mpr (.inr (.inr (by rw [hterm]; rfl)))
      · cases h

theorem isSupported_of_runCommands {commands : List (List (List Char))}
    (h : (runCommands ctx value commands).outcome = .ok (some w)) :
    ∀ command ∈ commands, ∀ t ∈ command, IsSupported ctx t := by
  induction commands generalizing value with
  | nil => simp
  | cons command rest ih =>
    rw [runCommands] at h
    obtain ⟨found, hcommand, h⟩ := Traced.outcome_bind_eq_ok.mp h
    cases found with
    | none => cases h
    | some result => exact List.forall_mem_cons.mpr ⟨isSupported_of_runCommand hcommand, ih h⟩

/-- The commands hold all the tokens but the bars. -/
theorem flatten_pipeline (ts : List (List Char)) :
    (pipeline ts).flatten = ts.filter (· ≠ ['|']) := by
  induction ts with
  | nil => rfl
  | cons t ts ih =>
    rw [pipeline, List.foldr_cons, ← pipeline]
    by_cases hbar : t = ['|']
    · rw [if_pos hbar, List.filter_cons_of_neg (by simpa using hbar)]
      exact ih
    · rw [if_neg hbar, List.filter_cons_of_pos (by simpa using hbar), ← ih]
      cases pipeline ts <;> rfl

/-- An action has a value only if all its tokens can be used. -/
theorem isSupported_of_evaluate (h : (evaluate ctx body).outcome = .ok (some w)) :
    ∀ t ∈ tokens body, IsSupported ctx t := by
  intro t hm
  by_cases hbar : t = ['|']
  · exact .inl hbar
  · obtain ⟨command, hcommand, ht⟩ : ∃ command ∈ pipeline (tokens body), t ∈ command := by
      rw [← List.mem_flatten, flatten_pipeline]
      exact List.mem_filter.mpr ⟨hm, by simpa using hbar⟩
    unfold evaluate at h
    dsimp only at h
    split at h
    · cases h
    · exact isSupported_of_runCommands h command hcommand t ht

/-! ## Places of actions -/

/-- Segments as they were written. -/
def written (segs : List Segment) : List Char := segs.flatMap fun segment =>
  segment.1 ++ segment.2.source

theorem source_ofInner (inner : List Char) :
    (Action.ofInner inner).source = openBraces ++ inner ++ closeBraces := by
  have hright : ∀ s : List Char, (if s.getLast? = some '-' then s.dropLast else s) ++
      (if s.getLast? = some '-' then ['-'] else []) = s := by
    intro s
    by_cases hlast : s.getLast? = some '-'
    · obtain ⟨s, rfl⟩ := List.getLast?_eq_some_iff.mp hlast
      simp
    · simp [hlast]
  by_cases hhead : inner.head? = some '-'
  · obtain ⟨inner, rfl⟩ := List.head?_eq_some_iff.mp hhead
    simpa [Action.ofInner, Action.source] using congrArg (· ++ closeBraces) (hright inner)
  · simpa [Action.ofInner, Action.source, hhead] using congrArg (· ++ closeBraces) (hright inner)

/-- Nothing of a template is lost when it is cut. -/
theorem written_segments (s : List Char) : written (segments s).1 ++ (segments s).2 = s := by
  induction s using segments.induct with
  | case1 s h =>
    rw [segments_of_literal (cutAt?_openBraces_iff.mp h)]
    rfl
  | case2 s literal rest h h' =>
    rw [segments_of_unclosed h h']
    rfl
  | case3 s literal rest h inner rest' h' _ _ _ _ ih =>
    obtain ⟨hs, -⟩ := cutAt?_eq_some (by decide) h
    obtain ⟨hrest, -⟩ := cutAt?_eq_some (by decide) h'
    rw [segments_of_closed h h', hs, hrest]
    unfold written at ih ⊢
    rw [List.flatMap_cons, source_ofInner, List.append_assoc, ih]
    simp only [List.append_assoc]

/-- Whether the literal behind some segments is trimmed on the left. -/
def trimsBehind (trimNext : Bool) (segs : List Segment) : Bool :=
  segs.foldl (fun _ segment => segment.2.trimRight) trimNext

theorem exists_parts_of_renderSegments {trimNext : Bool} {before after : List Segment}
    (h : (renderSegments ctx trimNext (before ++ after) tail).outcome = .ok v) :
    ∃ front back, v = front ++ back ∧
      (renderSegments ctx trimNext before []).outcome = .ok front ∧
      (renderSegments ctx (trimsBehind trimNext before) after tail).outcome = .ok back := by
  induction before generalizing trimNext v with
  | nil => exact ⟨[], v, rfl, by cases trimNext <;> rfl, h⟩
  | cons segment before ih =>
    obtain ⟨literal, action⟩ := segment
    rw [List.cons_append, renderSegments] at h
    obtain ⟨value, hvalue, h⟩ := Traced.outcome_bind_eq_ok.mp h
    obtain ⟨more, hmore, h⟩ := Traced.outcome_bind_eq_ok.mp h
    obtain ⟨front, back, rfl, hfront, hback⟩ := ih hmore
    obtain rfl := Except.ok.inj h
    refine ⟨_, back, (List.append_assoc ..).symm, ?_, hback⟩
    rw [renderSegments]
    exact Traced.outcome_bind_eq_ok.mpr ⟨value, hvalue,
      Traced.outcome_bind_eq_ok.mpr ⟨front, hfront, rfl⟩⟩

variable {before after : List Segment} {literal : List Char} {a : Action}

/-- A text with an action as it was written, between the renderings of what is before it and of what
is behind it. -/
def LeftInPlace (ctx : Context) (before : List Segment) (literal : List Char) (a : Action)
    (after : List Segment) (tail v : List Char) : Prop :=
  ∃ front back,
    (renderSegments ctx false before []).outcome = .ok front ∧
    (renderSegments ctx a.trimRight after tail).outcome = .ok back ∧
    v = front ++ Abstract.trimmed (trimsBehind false before) a.trimLeft literal ++ a.source ++ back

theorem leftInPlace_of_rendering (h : rendering ctx template = .ok v)
    (hsegs : (segments template).1 = before ++ (literal, a) :: after)
    (hnone : ∀ w, (evaluate ctx a.body).outcome ≠ .ok (some w)) :
    LeftInPlace ctx before literal a after (segments template).2 v := by
  rw [rendering, hsegs] at h
  obtain ⟨front, rest, rfl, hfront, hrest⟩ := exists_parts_of_renderSegments h
  rw [renderSegments] at hrest
  obtain ⟨value, hvalue, hrest⟩ := Traced.outcome_bind_eq_ok.mp hrest
  obtain ⟨back, hback, hrest⟩ := Traced.outcome_bind_eq_ok.mp hrest
  obtain rfl : value = none := by
    cases value with
    | none => rfl
    | some w => exact absurd hvalue (hnone w)
  obtain rfl := Except.ok.inj hrest
  exact ⟨front, back, hfront, hback, by simp [Abstract.trimmed]⟩

theorem rendering_of_none_fatal (hk : ctx.HasKeywords)
    (h : firstFatal? (usesOf ctx template) = none) : ∃ v, rendering ctx template = .ok v := by
  obtain ⟨v, hv⟩ := exists_rendering hk template
  rw [h] at hv
  exact ⟨v, hv⟩

/-- An action without a value stays in its place, and the rendering is refused. -/
theorem refused_of_unsupported (hk : ctx.HasKeywords)
    (hsegs : (segments template).1 = before ++ (literal, a) :: after)
    (hnone : ∀ w, (evaluate ctx a.body).outcome ≠ .ok (some w))
    (htame : firstFatal? (usesOf ctx template) = none) :
    ∃ v fragment, LeftInPlace ctx before literal a after (segments template).2 v ∧
      FirstLeftover v fragment ∧ (render ctx template).outcome =
        .error (.unresolved (String.ofList template) (String.ofList fragment)) := by
  obtain ⟨v, hv⟩ := rendering_of_none_fatal hk htame
  have hplace := leftInPlace_of_rendering hv hsegs hnone
  have hopen : openBraces <:+: v := by
    have hsource : openBraces <+: a.source := by
      simp only [Action.source, List.append_assoc, List.prefix_append]
    obtain ⟨front, back, -, -, rfl⟩ := hplace
    exact hsource.isInfix.trans ⟨_, back, rfl⟩
  obtain ⟨fragment, hfirst, hrefused⟩ := render_of_leftover hv hopen
  exact ⟨v, fragment, hplace, hfirst, hrefused⟩

end TrackerSearch.Template
