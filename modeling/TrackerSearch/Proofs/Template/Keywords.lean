import TrackerSearch.Proofs.Template.Meaning
import TrackerSearch.Proofs.Web.Link
import TrackerSearch.Proofs.Web.Percent
import TrackerSearch.Template.Target

/-!
# Templates filled with keywords

Where a template refers to nothing but the keywords, its rendering is the template with the escaped
keywords in place of the actions. No keywords make the rendering fail or change how the address is
divided.
-/
namespace TrackerSearch.Template

open TrackerSearch.Text TrackerSearch.Web

/-- The actions that stand for the keywords. -/
inductive KeywordAction where
  | keywords
  | queryKeywords
  deriving Repr, DecidableEq

/-- What stands between the braces. -/
def KeywordAction.body : KeywordAction → List Char
  | .keywords => " .Keywords ".toList
  | .queryKeywords => " .Query.Keywords ".toList

def KeywordAction.source (a : KeywordAction) : List Char := openBraces ++ a.body ++ closeBraces

/-- The hole that an action is; it trims nothing. -/
def KeywordAction.toHole (a : KeywordAction) : Hole where
  trimLeft := false
  pipeline := match a with
    | .keywords => ⟨.term .keywords, []⟩
    | .queryKeywords => ⟨.term .queryKeywords, []⟩
  trimRight := false

/-- Literals with an action for the keywords behind each of them, and a last literal. -/
structure KeywordTemplate where
  parts : List (List Char × KeywordAction)
  tail : List Char

namespace KeywordTemplate

/-- The text of a template. -/
def source (t : KeywordTemplate) : List Char :=
  t.parts.flatMap (fun (literal, action) => literal ++ action.source) ++ t.tail

/-- A text in place of the actions. -/
def filled (t : KeywordTemplate) (value : List Char) : List Char :=
  t.parts.flatMap (fun (literal, _) => literal ++ value) ++ t.tail

/-- No literal holds opening braces, and none in front of an action ends with one of them. -/
structure Clean (t : KeywordTemplate) : Prop where
  parts : ∀ part ∈ t.parts, ¬openBraces <:+: part.1 ∧ part.1.getLast? ≠ some '\x7b'
  tail : ¬openBraces <:+: t.tail

end KeywordTemplate

variable {t : KeywordTemplate} {value : List Char}

/-! ## Keywords among the templates -/

/-- A template in which all holes stand for the keywords. -/
def KeywordTemplate.toAbstract (t : KeywordTemplate) : Abstract :=
  ⟨t.parts.map fun (literal, a) => (literal, a.toHole), t.tail⟩

theorem source_toHole (a : KeywordAction) : a.toHole.source = a.source := by cases a <;> decide

theorem value_toHole (ctx : Context) (a : KeywordAction) :
    a.toHole.pipeline.value ctx = ctx.keywordText := by cases a <;> rfl

theorem isWritable_toHole (a : KeywordAction) :
    ¬closeBraces <:+: a.toHole.source.dropLast ∧
      ∀ term ∈ a.toHole.pipeline.terms, term.IsWritable := by
  rw [← cutAt?_closeBraces_iff]
  cases a <;> decide

theorem source_toAbstract (t : KeywordTemplate) : t.toAbstract.source = t.source := by
  simp only [KeywordTemplate.toAbstract, Abstract.source, KeywordTemplate.source,
    List.flatMap_map, source_toHole]

theorem isWritable_toAbstract (ht : t.Clean) : t.toAbstract.IsWritable where
  literals := List.forall_mem_map.mpr ht.parts
  tail := ht.tail
  holes := List.forall_mem_map.mpr fun part _ => (isWritable_toHole part.2).1
  terms := List.forall_mem_map.mpr fun part _ => (isWritable_toHole part.2).2

theorem substitutions_toAbstract (ctx : Context) (t : KeywordTemplate) :
    t.toAbstract.substitutions ctx = [] := by
  refine List.flatMap_eq_nil_iff.mpr (List.forall_mem_map.mpr fun (literal, a) _ => ?_)
  cases a <;> rfl

theorem value_toAbstract (ctx : Context) (t : KeywordTemplate) :
    t.toAbstract.value ctx = t.filled ctx.keywordText := by
  obtain ⟨parts, tail⟩ := t
  induction parts with
  | nil => rfl
  | cons part parts ih =>
    change Abstract.trimmed false false part.1 ++ part.2.toHole.pipeline.value ctx ++
      (KeywordTemplate.toAbstract ⟨parts, tail⟩).value ctx = _
    rw [ih, value_toHole]
    simp [Abstract.trimmed, KeywordTemplate.filled]

/-! ## Rendering -/

/-- A value without braces leaves no opening braces in a filled template. -/
theorem cutAt?_filled (ht : t.Clean) (hv : '\x7b' ∉ value) :
    cutAt? openBraces (t.filled value) = none := by
  obtain ⟨parts, tail⟩ := t
  induction parts with
  | nil => exact cutAt?_openBraces_iff.mpr ht.tail
  | cons part parts ih =>
    obtain ⟨hpart, hparts⟩ := List.forall_mem_cons.mp ht.parts
    have hrest := ih ⟨hparts, ht.tail⟩
    have hvalue : value.getLast? ≠ some '\x7b' := fun h => hv (List.mem_of_getLast? h)
    have hfilled : KeywordTemplate.filled ⟨part :: parts, tail⟩ value =
        part.1 ++ (value ++ KeywordTemplate.filled ⟨parts, tail⟩ value) := by
      simp [KeywordTemplate.filled]
    rw [hfilled]
    exact cutAt?_pair_append (cutAt?_openBraces_iff.mpr hpart.1) hpart.2
      (cutAt?_pair_append (cutAt?_pair_of_not_mem hv) hvalue hrest)

theorem render_keywords {ctx : Context} (hk : ctx.HasKeywords) (ht : t.Clean)
    (hv : '\x7b' ∉ ctx.keywordText) :
    render ctx t.source = pure (t.filled ctx.keywordText) := by
  have htame : ∀ s ∈ t.toAbstract.substitutions ctx, s.IsTame := by
    simp [substitutions_toAbstract]
  have hleft : leftover? (t.filled ctx.keywordText) = none :=
    leftover?_of_none (cutAt?_openBraces_iff.mp (cutAt?_filled ht hv))
  rw [← source_toAbstract, render_source_eq hk (isWritable_toAbstract ht) htame,
    substitutions_toAbstract, value_toAbstract, hleft]
  rfl

/-! ## The address -/

/-- Characters that divide an address, and blanks. -/
def isStructural (c : Char) : Bool := ['/', '?', '#', '&', '=', ':'].contains c || isBlank c

/-- A text that divides nothing. -/
def IsPlainText (s : List Char) : Prop := s ≠ [] ∧ ∀ c ∈ s, isStructural c = false

theorem plain_of_isUnreserved {c : Char} (h : isUnreserved c = true ∨ c = '%') :
    isStructural c = false ∧ c ≠ '\x7b' := by
  rcases h with h | rfl
  · exact forall_ascii (p := fun c => isUnreserved c = true → isStructural c = false ∧ c ≠ '\x7b')
      (by decide) (toNat_lt_of_isUnreserved h) h
  · decide

theorem openBrace_not_mem_percentEncode (keywords : List Char) :
    '\x7b' ∉ percentEncode keywords := by
  intro hm
  exact (plain_of_isUnreserved ((percentEncode_isEscaped keywords).mem _ hm)).2 rfl

theorem percentEncode_isPlainText {keywords : List Char} (hne : keywords ≠ []) :
    IsPlainText (percentEncode keywords) := by
  constructor
  · intro he
    have hback := percentDecode_percentEncode keywords
    rw [he] at hback
    exact hne hback.symm
  · intro c hc
    exact (plain_of_isUnreserved ((percentEncode_isEscaped keywords).mem c hc)).1

theorem filter_filled (hv : IsPlainText value) (t : KeywordTemplate) :
    (t.filled value).filter isStructural = (t.filled []).filter isStructural := by
  have hnone : value.filter isStructural = [] :=
    List.filter_eq_nil_iff.mpr fun c hc => by simp [hv.2 c hc]
  obtain ⟨parts, tail⟩ := t
  simp only [KeywordTemplate.filled, List.filter_append]
  congr 1
  induction parts with
  | nil => rfl
  | cons part parts ih =>
    simp only [List.flatMap_cons, List.filter_append, hnone, ih, List.filter_nil]

/-- Only a literal can bring a slash in front. -/
theorem head?_filled {other : List Char} (hv : IsPlainText value)
    (h : (t.filled value).head? = some '/') : (t.filled other).head? = some '/' := by
  obtain ⟨parts, tail⟩ := t
  cases parts with
  | nil => exact h
  | cons part parts =>
    obtain ⟨literal, a⟩ := part
    cases literal with
    | nil =>
      obtain ⟨c, rest, rfl⟩ := List.exists_cons_of_ne_nil hv.1
      have hc : c = '/' := Option.some.inj h
      exact absurd (hv.2 c (List.mem_cons_self ..)) (by rw [hc]; decide)
    | cons c literal => exact h

/-- Whatever is filled in, the address is divided in the same way. -/
theorem filter_joinUrl_filled {value₁ value₂ : List Char} (h₁ : IsPlainText value₁)
    (h₂ : IsPlainText value₂) (base : List Char) (t : KeywordTemplate) :
    (joinUrl base (t.filled value₁)).filter isStructural =
      (joinUrl base (t.filled value₂)).filter isStructural := by
  have hhead : (t.filled value₁).head? = some '/' ↔ (t.filled value₂).head? = some '/' :=
    ⟨head?_filled h₁, head?_filled h₂⟩
  unfold joinUrl
  by_cases hs : (t.filled value₂).head? = some '/'
  · rw [if_pos hs, if_pos (hhead.mpr hs), List.filter_append, List.filter_append,
      filter_filled h₁, filter_filled h₂]
  · rw [if_neg hs, if_neg fun h => hs (hhead.mp h), List.filter_append, List.filter_append,
      List.filter_cons, List.filter_cons, filter_filled h₁, filter_filled h₂]

variable {d : Definition} {path : SearchPath} {category : Option String}

theorem targetUrl_eq (hpath : d.firstPath? category = some path)
    (hsource : path.path.toList = t.source) (ht : t.Clean) (keywords : List Char)
    (config : Bindings) (fallback : String) :
    targetUrl d keywords config fallback category =
      pure (joinUrl d.baseLink.toList (t.filled (percentEncode keywords))) := by
  have hrender : render { keywords, config := bindingsFor d config, fallback } t.source =
      pure (t.filled (percentEncode keywords)) :=
    render_keywords rfl ht (openBrace_not_mem_percentEncode keywords)
  simp only [targetUrl, hpath, hsource, hrender, Traced.attempt_pure, Traced.pure_bind]

/-- The address is the template with the escaped keywords in it, reported without a fallback; two
searches for something differ in no character that divides it. -/
theorem targetUrl_of_keywords (hpath : d.firstPath? category = some path)
    (hsource : path.path.toList = t.source) (ht : t.Clean) (config : Bindings)
    (fallback : String) :
    (∀ keywords : List Char, ∃ escaped,
      targetUrl d keywords config fallback category =
        ⟨.ok (joinUrl d.baseLink.toList (t.filled escaped)), []⟩ ∧
      IsEscaped escaped ∧ percentDecode escaped = keywords) ∧
    ∀ (keywords₁ keywords₂ : List Char) url₁ url₂, keywords₁ ≠ [] → keywords₂ ≠ [] →
      (targetUrl d keywords₁ config fallback category).outcome = .ok url₁ →
      (targetUrl d keywords₂ config fallback category).outcome = .ok url₂ →
      url₁.filter isStructural = url₂.filter isStructural := by
  constructor
  · intro keywords
    exact ⟨percentEncode keywords, targetUrl_eq hpath hsource ht keywords config fallback,
      percentEncode_isEscaped keywords, percentDecode_percentEncode keywords⟩
  · intro keywords₁ keywords₂ url₁ url₂ hne₁ hne₂ hurl₁ hurl₂
    rw [targetUrl_eq hpath hsource ht] at hurl₁ hurl₂
    rw [← Except.ok.inj hurl₁, ← Except.ok.inj hurl₂]
    exact filter_joinUrl_filled (percentEncode_isPlainText hne₁) (percentEncode_isPlainText hne₂) ..

/-- A path that begins with the keywords and repeats them in its query. -/
def doublePath : SearchPath where
  path := "\x7b\x7b .Keywords \x7d\x7d/?q=\x7b\x7b .Query.Keywords \x7d\x7d&all=\x7b"

def doubleSite : Definition where
  id := "double"
  name := "Double"
  links := ["https://double.example/"]
  search := some { paths := [doublePath] }

def doubleTemplate : KeywordTemplate where
  parts := [([], .keywords), ("/?q=".toList, .queryKeywords)]
  tail := "&all=\x7b".toList

theorem targetUrl_of_two_actions :
    doubleSite.firstPath? none = some doublePath ∧ doublePath.path.toList = doubleTemplate.source ∧
    doubleTemplate.Clean ∧
    (∀ keywords : List Char, ∃ escaped,
      targetUrl doubleSite keywords [] "" none =
        ⟨.ok (joinUrl doubleSite.baseLink.toList (doubleTemplate.filled escaped)), []⟩ ∧
      IsEscaped escaped ∧ percentDecode escaped = keywords) ∧
    ∀ (keywords₁ keywords₂ : List Char) url₁ url₂, keywords₁ ≠ [] → keywords₂ ≠ [] →
      (targetUrl doubleSite keywords₁ [] "" none).outcome = .ok url₁ →
      (targetUrl doubleSite keywords₂ [] "" none).outcome = .ok url₂ →
      url₁.filter isStructural = url₂.filter isStructural :=
  have hpath : doubleSite.firstPath? none = some doublePath := by decide
  have hsource : doublePath.path.toList = doubleTemplate.source := by decide +kernel
  have ht : doubleTemplate.Clean :=
    { parts := by
        intro part hm
        rw [← cutAt?_openBraces_iff]
        revert part
        decide
      tail := cutAt?_openBraces_iff.mp (by decide) }
  ⟨hpath, hsource, ht, targetUrl_of_keywords hpath hsource ht [] ""⟩

/-- A slash and a blank in the keywords are escaped. -/
example : (targetUrl doubleSite "a/b c".toList [] "" none).outcome =
    .ok "https://double.example/a%2Fb%20c/?q=a%2Fb%20c&all=\x7b".toList := by
  decide +kernel

end TrackerSearch.Template
