import TrackerSearch.Proofs.Definition.Overlay
import TrackerSearch.Proofs.Template.Faults
import TrackerSearch.Search.Engine

/-!
# Inputs that are left out

A search renders its inputs one by one and leaves out those that are refused; `Template.renderAll`
renders all of them or none. Both give the same on the inputs that are not refused, in the order of
the templates (`queryInputs_eq_renderAll`). Nothing is said about templates with a pattern that ends
the rendering.
-/
namespace TrackerSearch.Search.Engine

open Template Text

variable {e : Engine} {d : Definition} {search : SearchBlock} {path : SearchPath} {ctx : Context}
  {templates inputs : Table String}

/-! ## One input -/

/-- What an input is sent as, if its template is not refused. -/
def sent? (ctx : Context) (entry : String × String) : Option (String × String) :=
  (render ctx entry.2.toList).outcome.toOption.map fun value => (entry.1, String.ofList value)

/-- The template of an input, rendered alone, is not refused. -/
def IsAccepted (ctx : Context) (entry : String × String) : Prop :=
  (renderAll ctx [entry]).outcome.isOk = true

instance (ctx : Context) (entry : String × String) : Decidable (IsAccepted ctx entry) :=
  inferInstanceAs (Decidable (_ = true))

theorem lawfulMonad_traced (ε : Type) : LawfulMonad (Traced ε) := by
  refine LawfulMonad.mk' (Traced ε) (fun x => ?_) (fun _ _ => rfl) fun x f g => ?_
  · obtain ⟨r, events⟩ := x
    cases r <;> simp [Functor.map]
  · obtain ⟨r, events⟩ := x
    cases r with
    | error e => rfl
    | ok a =>
      simp only [bind]
      cases (f a).outcome <;> simp

theorem outcome_renderAll_cons (ctx : Context) (entry : String × String)
    (rest : List (String × String)) :
    (renderAll ctx (entry :: rest)).outcome =
      (render { ctx with encode := false } entry.2.toList).outcome.bind fun value =>
        (renderAll ctx rest).outcome.map ((entry.1, String.ofList value) :: ·) := by
  have := lawfulMonad_traced Failure
  rw [renderAll, List.mapM_cons, Traced.outcome_bind, Traced.outcome_bind]
  cases (render { ctx with encode := false } entry.2.toList).outcome with
  | error failure => rfl
  | ok value =>
    change (_ >>= _ : Traced Failure _).outcome = (renderAll ctx rest).outcome.map _
    rw [Traced.outcome_bind, renderAll]
    cases (rest.mapM _ : Traced Failure _).outcome <;> rfl

/-- All inputs are rendered if each of them is, and then they are sent in this order. -/
theorem renderAll_eq_ok :
    (renderAll ctx templates).outcome = .ok inputs ↔
      templates.map (sent? { ctx with encode := false }) = inputs.map some := by
  induction templates generalizing inputs with
  | nil =>
    change Except.ok [] = Except.ok inputs ↔ _
    simp
  | cons entry rest ih =>
    rw [outcome_renderAll_cons, List.map_cons, sent?]
    cases (render { ctx with encode := false } entry.2.toList).outcome with
    | error failure =>
      refine iff_of_false (fun h => by cases h) fun h => ?_
      obtain ⟨first, others, rfl, hfirst, -⟩ := List.map_eq_cons_iff.mp h.symm
      cases hfirst
    | ok value =>
      change (renderAll ctx rest).outcome.map _ = .ok inputs ↔ some _ :: _ = _
      rw [except_map_eq_ok]
      constructor
      · rintro ⟨more, hmore, rfl⟩
        rw [ih.mp hmore, List.map_cons]
      · intro h
        obtain ⟨first, others, rfl, hfirst, hothers⟩ := List.map_eq_cons_iff.mp h.symm
        exact ⟨others, ih.mpr hothers.symm, by rw [Option.some.inj hfirst]⟩

theorem isAccepted_iff {entry : String × String} :
    IsAccepted ctx entry ↔ (sent? { ctx with encode := false } entry).isSome = true := by
  have hok : IsAccepted ctx entry ↔ ∃ inputs, (renderAll ctx [entry]).outcome = .ok inputs := by
    unfold IsAccepted
    cases (renderAll ctx [entry]).outcome <;> simp [Except.isOk, Except.toBool]
  rw [hok, Option.isSome_iff_exists]
  simp only [renderAll_eq_ok, List.map_cons, List.map_nil]
  constructor
  · rintro ⟨inputs, h⟩
    obtain ⟨first, -, -, hfirst, -⟩ := List.map_eq_cons_iff.mp h.symm
    exact ⟨first, hfirst.symm⟩
  · rintro ⟨first, hfirst⟩
    exact ⟨[first], by rw [hfirst]; rfl⟩

/-! ## All inputs -/

/-- Where no pattern ends the rendering, every input is sent or left out by itself. -/
theorem outcome_renderInputs
    (h : ∀ entry ∈ templates, ∀ f, (render ctx entry.2.toList).outcome ≠ .error (.fault f)) :
    (renderInputs ctx templates).outcome = .ok (templates.filterMap (sent? ctx)) := by
  induction templates with
  | nil => rfl
  | cons entry rest ih =>
    obtain ⟨name, template⟩ := entry
    obtain ⟨hentry, hrest⟩ := List.forall_mem_cons.mp h
    rw [renderInputs, Traced.outcome_bind, Traced.attempt, List.filterMap_cons, sent?]
    rcases render_cases ctx template.toList with ⟨v, -, -, hv⟩ | ⟨-, fragment, -, -, hv⟩ |
      ⟨f, -, hv⟩
    · rw [hv, Except.bind, Traced.outcome_bind, ih hrest]
      rfl
    · rw [hv, Except.bind]
      exact ih hrest
    · exact absurd hv (hentry f)

/-- What is sent of some inputs is what all of the accepted ones are rendered to. -/
theorem renderAll_filter_isAccepted (ctx : Context) (templates : Table String) :
    (renderAll ctx (templates.filter fun entry => IsAccepted ctx entry)).outcome =
      .ok (templates.filterMap (sent? { ctx with encode := false })) := by
  rw [renderAll_eq_ok]
  induction templates with
  | nil => rfl
  | cons entry rest ih =>
    by_cases h : IsAccepted ctx entry
    · obtain ⟨value, hvalue⟩ := Option.isSome_iff_exists.mp (isAccepted_iff.mp h)
      rw [List.filter_cons_of_pos (by simpa using h), List.map_cons, ih, hvalue,
        List.filterMap_cons_some hvalue, List.map_cons]
    · have hnone : sent? { ctx with encode := false } entry = none := by
        simpa [isAccepted_iff] using h
      rw [List.filter_cons_of_neg (by simpa using h), ih, List.filterMap_cons_none hnone]

/-- What the templates of a definition can refer to, as a caller of `Template.renderAll` says it. -/
def callerContext (e : Engine) (d : Definition) (keywords : Value) : Context where
  keywords := keywords
  config := bindingsFor d e.config
  fallback := e.fallback

theorem lookup?_bindingsFor {config : Bindings} (h : Table.Distinct config) (d : Definition)
    (name : String) :
    Table.lookup? (bindingsFor d config) name =
      (Table.lookup? config name).or ((d.settingDefaults.lookup? name).map some) := by
  rw [bindingsFor, Table.lookup?_overlay h]
  congr 1
  exact Table.lookup?_map (fun entry => some entry.2) d.settingDefaults name

/-- **Leaving out agrees with rendering all.** The templates of a search are those of its block with
those of its path laid over them, or the latter alone. What is sent is what all templates that are
accepted alone are rendered to, so it is what all templates are rendered to if none is refused, and
a template that is refused does not matter to the others. A configuration value comes from the
engine, or else it is the default of a setting. -/
theorem queryInputs_eq_renderAll (e : Engine) (d : Definition) (search : SearchBlock)
    (path : SearchPath) (keywords : Value) (hinputs : path.inputs.Distinct)
    (hconfig : Table.Distinct e.config)
    (hfaultless : ∀ entry ∈ inputTemplates search path, ∀ f,
      (render (e.context d keywords) entry.2.toList).outcome ≠ .error (.fault f)) :
    (inputTemplates search path =
      if path.inheritInputs then search.inputs.laidOver path.inputs else path.inputs) ∧
    (∀ name, Table.lookup? (bindingsFor d e.config) name =
      (Table.lookup? e.config name).or ((d.settingDefaults.lookup? name).map some)) ∧
    ∃ inputs, (e.queryInputs d search path keywords).outcome = .ok inputs ∧
      (renderAll (e.callerContext d keywords) ((inputTemplates search path).filter fun entry =>
        IsAccepted (e.callerContext d keywords) entry)).outcome = .ok inputs ∧
      (∀ all,
        (renderAll (e.callerContext d keywords) (inputTemplates search path)).outcome = .ok all →
          inputs = all) ∧
      ∀ before entry after, inputTemplates search path = before ++ entry :: after →
        ¬IsAccepted (e.callerContext d keywords) entry → ∀ search' path',
          inputTemplates search' path' = before ++ after →
            (e.queryInputs d search' path' keywords).outcome = .ok inputs := by
  have hsent : (e.queryInputs d search path keywords).outcome = _ :=
    outcome_renderInputs hfaultless
  refine ⟨by rw [inputTemplates, Table.overlay_eq_laidOver hinputs], lookup?_bindingsFor hconfig d,
    _, hsent, renderAll_filter_isAccepted (e.callerContext d keywords) _, fun all hall => ?_, ?_⟩
  · have hmap : (inputTemplates search path).map (sent? (e.context d keywords)) = all.map some :=
      renderAll_eq_ok.mp hall
    calc (inputTemplates search path).filterMap (sent? (e.context d keywords))
        = ((inputTemplates search path).map (sent? (e.context d keywords))).filterMap id := by
          rw [List.filterMap_map, Function.id_comp]
      _ = all := by rw [hmap, List.filterMap_map, Function.id_comp, List.filterMap_some]
  · intro before entry after hsplit hrefused search' path' hrest
    have hnone : sent? (e.context d keywords) entry = none :=
      Option.not_isSome_iff_eq_none.mp fun h => hrefused (isAccepted_iff.mpr h)
    have hfaultless' : ∀ entry ∈ inputTemplates search' path', ∀ f,
        (render (e.context d keywords) entry.2.toList).outcome ≠ .error (.fault f) := by
      rw [hrest]
      intro entry' hm
      refine hfaultless entry' ?_
      rw [hsplit]
      exact (List.sublist_cons_self entry after).append_left before |>.subset hm
    have hsent' : (e.queryInputs d search' path' keywords).outcome = _ :=
      outcome_renderInputs hfaultless'
    rw [hsent', hrest, hsplit, List.filterMap_append, List.filterMap_append,
      List.filterMap_cons_none hnone]

/-! ## A search with a template that is refused -/

def askingSearch : SearchBlock where
  inputs := [("q", "\x7b\x7b .Keywords \x7d\x7d"), ("user", "\x7b\x7b .Config.user \x7d\x7d"),
    ("cat", "1")]

/-- The category is another one here, and one template is not supported. -/
def askingPath : SearchPath where
  path := "search"
  inputs := [("cat", "\x7b\x7b .Config.cat \x7d\x7d"), ("page", "\x7b\x7b .Page \x7d\x7d"),
    ("sort", "asc")]

def askingSite : Definition where
  id := "asking"
  name := "Asking"
  settings := [{ name := "user", type := "text", default := some "guest" },
    { name := "cat", type := "text", default := some "all" }]

def askingEngine : Engine where
  means := { client := { userAgent := none, followRedirects := true }, relay := none }
  config := [("cat", some "tv")]

theorem queryInputs_of_askingSite :
    askingPath.inputs.Distinct ∧ Table.Distinct askingEngine.config ∧
    (∀ entry ∈ inputTemplates askingSearch askingPath, ∀ f,
      (render (askingEngine.context askingSite "a b".toList) entry.2.toList).outcome ≠
        .error (.fault f)) ∧
    (askingEngine.queryInputs askingSite askingSearch askingPath "a b".toList).outcome =
      .ok [("q", "a b"), ("user", "guest"), ("cat", "tv"), ("sort", "asc")] ∧
    (renderAll (askingEngine.callerContext askingSite "a b".toList)
      ((inputTemplates askingSearch askingPath).filter fun entry =>
        IsAccepted (askingEngine.callerContext askingSite "a b".toList) entry)).outcome =
      .ok [("q", "a b"), ("user", "guest"), ("cat", "tv"), ("sort", "asc")] := by
  have hinputs : askingPath.inputs.Distinct := by decide
  have hconfig : Table.Distinct askingEngine.config := by decide
  have hfaultless : ∀ entry ∈ inputTemplates askingSearch askingPath, ∀ f,
      (render (askingEngine.context askingSite "a b".toList) entry.2.toList).outcome ≠
        .error (.fault f) := by
    intro entry hm f hf
    have hk : (askingEngine.context askingSite "a b".toList).HasKeywords := rfl
    rw [render_eq_fault_iff, rendering_eq_error_iff hk] at hf
    have hnone : ∀ entry ∈ inputTemplates askingSearch askingPath,
        firstFatal? (usesOf (askingEngine.context askingSite "a b".toList) entry.2.toList) =
          none := by
      decide +kernel
    rw [hnone entry hm] at hf
    cases hf
  have hsent : (askingEngine.queryInputs askingSite askingSearch askingPath "a b".toList).outcome =
      .ok [("q", "a b"), ("user", "guest"), ("cat", "tv"), ("sort", "asc")] := by
    decide +kernel
  obtain ⟨-, -, inputs, hinputs', haccepted, -⟩ := queryInputs_eq_renderAll askingEngine askingSite
    askingSearch askingPath "a b".toList hinputs hconfig hfaultless
  rw [hsent] at hinputs'
  obtain rfl := Except.ok.inj hinputs'
  exact ⟨hinputs, hconfig, hfaultless, hsent, haccepted⟩

end TrackerSearch.Search.Engine
