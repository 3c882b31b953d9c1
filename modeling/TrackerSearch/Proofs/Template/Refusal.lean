import TrackerSearch.Proofs.Template.Cutting
import TrackerSearch.Template.Target

/-!
# Renderings that are refused

A rendering in which opening braces remain is refused, whether an action left them or they arose
where a literal meets a value. So what is not refused holds no action, and rendering it once more
changes nothing; and an address is the base link, or it ends in a path that was rendered as a whole
(`targetUrl_or_baseLink`). Nothing is said about templates with a pattern that ends the rendering.
-/
namespace TrackerSearch.Template

open TrackerSearch.Text TrackerSearch.Web

variable {ctx : Context} {template v base path url : List Char} {f : Fault}

/-- The text of a template before it is seen whether opening braces remain. -/
def rendering (ctx : Context) (template : List Char) : Except Fault (List Char) :=
  (renderSegments ctx false (segments template).1 (segments template).2).outcome

theorem render_of_whole (h : rendering ctx template = .ok v) (hwhole : ¬openBraces <:+: v) :
    (render ctx template).outcome = .ok v := by
  have hleft : leftover? v = none := leftover?_of_none hwhole
  unfold rendering at h
  rw [render, Traced.outcome_bind, Traced.mapError, h, mapError_ok, Except.bind, hleft]
  rfl

theorem render_of_leftover (h : rendering ctx template = .ok v) (hopen : openBraces <:+: v) :
    ∃ fragment, FirstLeftover v fragment ∧ (render ctx template).outcome =
      .error (.unresolved (String.ofList template) (String.ofList fragment)) := by
  obtain ⟨fragment, hleft, hfirst⟩ := leftover?_spec hopen
  refine ⟨fragment, hfirst, ?_⟩
  unfold rendering at h
  rw [render, Traced.outcome_bind, Traced.mapError, h, mapError_ok, Except.bind, hleft]
  rfl

theorem render_of_fault (h : rendering ctx template = .error f) :
    (render ctx template).outcome = .error (.fault f) := by
  unfold rendering at h
  rw [render, Traced.outcome_bind, Traced.mapError, h]
  rfl

/-- A rendering gives a text, or is refused for what remains unresolved, or ends in a fault. -/
theorem render_cases (ctx : Context) (template : List Char) :
    (∃ v, rendering ctx template = .ok v ∧ ¬openBraces <:+: v ∧
      (render ctx template).outcome = .ok v) ∨
    (∃ v fragment, rendering ctx template = .ok v ∧ openBraces <:+: v ∧
      (render ctx template).outcome =
        .error (.unresolved (String.ofList template) fragment)) ∨
    ∃ f, rendering ctx template = .error f ∧
      (render ctx template).outcome = .error (.fault f) := by
  cases hr : rendering ctx template with
  | error f => exact .inr (.inr ⟨f, rfl, render_of_fault hr⟩)
  | ok v =>
    by_cases hopen : openBraces <:+: v
    · obtain ⟨fragment, -, hrefused⟩ := render_of_leftover hr hopen
      exact .inr (.inl ⟨v, _, rfl, hopen, hrefused⟩)
    · exact .inl ⟨v, rfl, hopen, render_of_whole hr hopen⟩

theorem render_eq_ok_iff :
    (render ctx template).outcome = .ok v ↔
      rendering ctx template = .ok v ∧ ¬openBraces <:+: v := by
  rcases render_cases ctx template with ⟨w, hr, hwhole, hw⟩ | ⟨w, fragment, hr, hopen, hw⟩ |
    ⟨f, hr, hw⟩
  · rw [hr, hw]
    constructor
    · intro h
      obtain rfl := Except.ok.inj h
      exact ⟨rfl, hwhole⟩
    · rintro ⟨h, -⟩
      obtain rfl := Except.ok.inj h
      rfl
  · rw [hr, hw]
    refine iff_of_false (fun h => by cases h) ?_
    rintro ⟨h, hwhole⟩
    obtain rfl := Except.ok.inj h
    exact hwhole hopen
  · rw [hr, hw]
    exact iff_of_false (fun h => by cases h) fun h => by cases h.1

theorem render_eq_fault_iff :
    (render ctx template).outcome = .error (.fault f) ↔ rendering ctx template = .error f := by
  refine ⟨fun h => ?_, render_of_fault⟩
  rcases render_cases ctx template with ⟨w, -, -, hw⟩ | ⟨-, fragment, -, -, hw⟩ | ⟨f', hr, hw⟩
  · cases hw.symm.trans h
  · cases hw.symm.trans h
  · obtain rfl := Failure.fault.inj (Except.error.inj (hw.symm.trans h))
    exact hr

/-- A text without opening braces is rendered as it is. -/
theorem render_of_literal (hno : ¬openBraces <:+: v) (ctx : Context) : render ctx v = pure v := by
  have hleft : leftover? v = none := leftover?_of_none hno
  rw [render, segments_of_literal hno]
  simp only [renderSegments, Traced.mapError, bind, pure, mapError_ok, hleft, Bool.false_eq_true,
    if_false, List.append_nil]

/-! ## Addresses -/

/-- A path behind a base with one slash between them, which may be the path's own. One slash at the
end of the base does not count. -/
def JoinedBy (base path url : List Char) : Prop :=
  ∃ front rest, url = front ++ '/' :: rest ∧
    (base = front ++ ['/'] ∨ base = front ∧ front.getLast? ≠ some '/') ∧
    (path = '/' :: rest ∨ path = rest ∧ rest.head? ≠ some '/')

theorem joinedBy_joinUrl (base path : List Char) : JoinedBy base path (joinUrl base path) := by
  have hfront : base = dropFinalSlash base ++ ['/'] ∨
      base = dropFinalSlash base ∧ (dropFinalSlash base).getLast? ≠ some '/' := by
    unfold dropFinalSlash
    split
    · rename_i hlast
      obtain ⟨front, rfl⟩ := List.getLast?_eq_some_iff.mp hlast
      exact .inl (by simp)
    · rename_i hlast
      exact .inr ⟨rfl, hlast⟩
  unfold joinUrl
  by_cases hhead : path.head? = some '/'
  · obtain ⟨rest, rfl⟩ := List.head?_eq_some_iff.mp hhead
    exact ⟨_, rest, if_pos hhead, hfront, .inl rfl⟩
  · exact ⟨_, path, if_neg hhead, hfront, .inr ⟨rfl, hhead⟩⟩

/-- The slash keeps braces apart. -/
theorem JoinedBy.not_openBraces (h : JoinedBy base path url) (hbase : ¬openBraces <:+: base)
    (hpath : ¬openBraces <:+: path) : ¬openBraces <:+: url := by
  obtain ⟨front, rest, rfl, hfront, hrest⟩ := h
  have hfront' : ¬openBraces <:+: front := by
    rcases hfront with rfl | ⟨rfl, -⟩
    · exact fun hin => hbase (hin.trans (List.prefix_append _ _).isInfix)
    · exact hbase
  have hrest' : ¬openBraces <:+: rest := by
    rcases hrest with rfl | ⟨rfl, -⟩
    · exact fun hin => hpath (hin.trans (List.suffix_cons _ _).isInfix)
    · exact hpath
  unfold openBraces at hfront' hrest' ⊢
  rw [pair_infix_append_iff, List.infix_cons_iff]
  simp [hfront', hrest']

variable {d : Definition} {keywords : Value} {config : Bindings} {fallback : String}
  {category : Option String}

/-- What the path of a search can refer to. -/
def pathContext (d : Definition) (keywords : Value) (config : Bindings) (fallback : String) :
    Context where
  keywords := keywords
  config := bindingsFor d config
  fallback := fallback

theorem targetUrl_of_no_path (h : d.firstPath? category = none) :
    (targetUrl d keywords config fallback category).outcome = .ok d.baseLink.toList := by
  rw [targetUrl, h]
  rfl

theorem targetUrl_of_whole {p : SearchPath} (h : d.firstPath? category = some p)
    (hv : (render (pathContext d keywords config fallback) p.path.toList).outcome = .ok v) :
    (targetUrl d keywords config fallback category).outcome =
      .ok (joinUrl d.baseLink.toList v) := by
  unfold pathContext at hv
  simp only [targetUrl, h, Traced.outcome_bind, Traced.attempt, hv]
  rfl

theorem targetUrl_of_leftover {p : SearchPath} {template fragment : String}
    (h : d.firstPath? category = some p)
    (hv : (render (pathContext d keywords config fallback) p.path.toList).outcome =
      .error (.unresolved template fragment)) :
    (targetUrl d keywords config fallback category).outcome = .ok d.baseLink.toList := by
  unfold pathContext at hv
  simp only [targetUrl, h, Traced.outcome_bind, Traced.attempt, hv]
  rfl

theorem targetUrl_of_fault {p : SearchPath} (h : d.firstPath? category = some p)
    (hv : (render (pathContext d keywords config fallback) p.path.toList).outcome =
      .error (.fault f)) :
    (targetUrl d keywords config fallback category).outcome = .error (.fault f) := by
  unfold pathContext at hv
  simp only [targetUrl, h, Traced.outcome_bind, Traced.attempt, hv]
  rfl

/-- Where an address comes from. -/
theorem origin_of_targetUrl
    (h : (targetUrl d keywords config fallback category).outcome = .ok url) :
    d.firstPath? category = none ∧ url = d.baseLink.toList ∨
      ∃ p v, d.firstPath? category = some p ∧
        rendering (pathContext d keywords config fallback) p.path.toList = .ok v ∧
        (openBraces <:+: v ∧ url = d.baseLink.toList ∨
          ¬openBraces <:+: v ∧ JoinedBy d.baseLink.toList v url) := by
  cases hp : d.firstPath? category with
  | none =>
    rw [targetUrl_of_no_path hp] at h
    exact .inl ⟨rfl, (Except.ok.inj h).symm⟩
  | some p =>
    refine .inr ?_
    cases hr : rendering (pathContext d keywords config fallback) p.path.toList with
    | error f =>
      rw [targetUrl_of_fault hp (render_of_fault hr)] at h
      cases h
    | ok v =>
      refine ⟨p, v, rfl, hr, ?_⟩
      by_cases hopen : openBraces <:+: v
      · obtain ⟨fragment, -, hrefused⟩ := render_of_leftover hr hopen
        rw [targetUrl_of_leftover hp hrefused] at h
        exact .inl ⟨hopen, (Except.ok.inj h).symm⟩
      · rw [targetUrl_of_whole hp (render_of_whole hr hopen)] at h
        obtain rfl := Except.ok.inj h
        exact .inr ⟨hopen, joinedBy_joinUrl _ _⟩

/-- **A half-rendered path is never used.** An address holds no opening braces if the base link
holds none. It is the base link where no path serves the category and where opening braces remain in
the rendering of the path, wherever they come from; otherwise it is the rendering behind the base
link. What is rendered once is not changed by rendering it again. -/
theorem targetUrl_or_baseLink (hbase : ¬openBraces <:+: d.baseLink.toList)
    (h : (targetUrl d keywords config fallback category).outcome = .ok url) :
    ¬openBraces <:+: url ∧
    (d.firstPath? category = none ∧ url = d.baseLink.toList ∨
      ∃ p v, d.firstPath? category = some p ∧
        rendering (pathContext d keywords config fallback) p.path.toList = .ok v ∧
        (openBraces <:+: v ∧ url = d.baseLink.toList ∨
          ¬openBraces <:+: v ∧ JoinedBy d.baseLink.toList v url)) ∧
    ∀ ctx template s, (render ctx template).outcome = .ok s → ∀ ctx', render ctx' s = pure s := by
  have horigin := origin_of_targetUrl h
  refine ⟨?_, horigin, fun ctx template s hs ctx' =>
    render_of_literal (render_eq_ok_iff.mp hs).2 ctx'⟩
  rcases horigin with ⟨-, rfl⟩ | ⟨p, v, -, -, ⟨-, rfl⟩ | ⟨hwhole, hjoined⟩⟩
  · exact hbase
  · exact hbase
  · exact hjoined.not_openBraces hbase hwhole

/-- A brace at the end of the base link, one in the path and one in the keywords. -/
def bracedSite : Definition where
  id := "brace"
  name := "Brace"
  links := ["https://brace.example/\x7b"]
  search := some { paths := [{ path := "\x7bx\x7b\x7b .Keywords \x7d\x7d" }] }

theorem targetUrl_of_bracedSite :
    ¬openBraces <:+: bracedSite.baseLink.toList ∧
    (targetUrl bracedSite "a".toList [] "" none).outcome =
      .ok "https://brace.example/\x7b/\x7bxa".toList ∧
    ¬openBraces <:+: "https://brace.example/\x7b/\x7bxa".toList ∧
    ∃ p v, bracedSite.firstPath? none = some p ∧
      rendering (pathContext bracedSite "a".toList [] "") p.path.toList = .ok v ∧
      ¬openBraces <:+: v ∧
      JoinedBy bracedSite.baseLink.toList v "https://brace.example/\x7b/\x7bxa".toList := by
  have hbase : ¬openBraces <:+: bracedSite.baseLink.toList := by decide +kernel
  have hurl : (targetUrl bracedSite "a".toList [] "" none).outcome =
      .ok "https://brace.example/\x7b/\x7bxa".toList := by decide +kernel
  obtain ⟨hwhole, horigin, -⟩ := targetUrl_or_baseLink hbase hurl
  refine ⟨hbase, hurl, hwhole, ?_⟩
  rcases horigin with ⟨hnone, -⟩ | ⟨p, v, hp, hv, ⟨-, hsame⟩ | ⟨hclosed, hjoined⟩⟩
  · exact absurd hnone (by decide +kernel)
  · exact absurd hsame (by decide +kernel)
  · exact ⟨p, v, hp, hv, hclosed, hjoined⟩

end TrackerSearch.Template
