import TrackerSearch.Proofs.Text.Letter
import TrackerSearch.Web.Link

/-!
# Links resolved against a web base

Under a base link of the web every value of a page stands for an absolute link: it is one already,
or it takes the scheme of the base, or it is put behind the base. Only the form of the links is
considered, not whether anything answers to them.
-/
namespace TrackerSearch.Web

open TrackerSearch.Text

variable {base value link path s t : List Char}

/-- The schemes of the web. -/
def webSchemes : List (List Char) := ["http".toList, "https".toList]

/-- What stands between a scheme and an authority. -/
def authorityMark : List Char := "://".toList

/-- A link that starts with `http://` or `https://`, ignoring case. -/
def IsWebLink (base : List Char) : Prop :=
  ∃ scheme ∈ webSchemes, startsWith (scheme ++ authorityMark) (lower base) = true

instance (base : List Char) : Decidable (IsWebLink base) :=
  inferInstanceAs (Decidable (∃ scheme ∈ webSchemes, _))

/-- `path` without the slash that it may start with. -/
def dropFirstSlash (path : List Char) : List Char := (dropLead? ['/'] path).getD path

/-! ## The form of an absolute link -/

theorem absoluteLeads_isPlain : ∀ lead ∈ absoluteLeads, ∀ x ∈ lead, IsPlain x := by
  have h : ∀ lead ∈ absoluteLeads, lead.all (fun x => decide (IsPlain x)) = true := by decide
  exact fun lead hm => forall_mem_of_all (h lead hm)

theorem web_mem_absoluteLeads : ∀ scheme ∈ webSchemes, scheme ++ authorityMark ∈ absoluteLeads := by
  decide

theorem isAbsoluteLink_iff : isAbsoluteLink s = true ↔
    ∃ lead ∈ absoluteLeads, ∃ u t, s = u ++ t ∧ IsAscii u ∧ u.map Char.toLower = lead := by
  simp only [isAbsoluteLink, List.any_eq_true]
  constructor
  · rintro ⟨lead, hm, h⟩
    exact ⟨lead, hm, (startsWith_lower (absoluteLeads_isPlain lead hm)).mp h⟩
  · rintro ⟨lead, hm, h⟩
    exact ⟨lead, hm, (startsWith_lower (absoluteLeads_isPlain lead hm)).mpr h⟩

theorem isAbsoluteLink_append (h : isAbsoluteLink s = true) (t : List Char) :
    isAbsoluteLink (s ++ t) = true := by
  obtain ⟨lead, hm, u, rest, rfl, hu, hmap⟩ := isAbsoluteLink_iff.mp h
  exact isAbsoluteLink_iff.mpr ⟨lead, hm, u, rest ++ t, List.append_assoc .., hu, hmap⟩

theorem IsWebLink.isAbsoluteLink (h : IsWebLink base) : isAbsoluteLink base = true := by
  obtain ⟨scheme, hm, hs⟩ := h
  exact List.any_eq_true.mpr ⟨_, web_mem_absoluteLeads scheme hm, hs⟩

/-- A base of the web is a scheme of the web in some case, the mark and a rest. -/
theorem IsWebLink.exists_scheme (h : IsWebLink base) :
    ∃ scheme ∈ webSchemes, ∃ u t, base = u ++ authorityMark ++ t ∧ IsAscii u ∧
      u.map Char.toLower = scheme := by
  obtain ⟨scheme, hm, hs⟩ := h
  obtain ⟨w, t, rfl, hw, hmap⟩ :=
    (startsWith_lower (absoluteLeads_isPlain _ (web_mem_absoluteLeads scheme hm))).mp hs
  obtain ⟨u, v, rfl, hu, hv⟩ := List.map_eq_append_iff.mp hmap
  have hcolon : ∀ c : Char, c.toNat < 128 → c.toLower = ':' → c = ':' :=
    fun c => forall_ascii (p := fun c => c.toLower = ':' → c = ':') (by decide)
  have hslash : ∀ c : Char, c.toNat < 128 → c.toLower = '/' → c = '/' :=
    fun c => forall_ascii (p := fun c => c.toLower = '/' → c = '/') (by decide)
  have hva : ∀ c ∈ v, c.toNat < 128 := fun c hc => hw c (List.mem_append_right _ hc)
  have : v = authorityMark := by
    obtain ⟨a, v, rfl, ha, hv⟩ := List.map_eq_cons_iff.mp hv
    obtain ⟨b, v, rfl, hb, hv⟩ := List.map_eq_cons_iff.mp hv
    obtain ⟨c, v, rfl, hc, hv⟩ := List.map_eq_cons_iff.mp hv
    simp only [List.mem_cons, forall_eq_or_imp] at hva
    rw [List.map_eq_nil_iff.mp hv, hcolon a hva.1 ha, hslash b hva.2.1 hb,
      hslash c hva.2.2.1 hc]
    rfl
  subst this
  exact ⟨scheme, hm, u, t, rfl, fun c hc => hw c (List.mem_append_left _ hc), hu⟩

/-! ## Paths behind the base -/

theorem joinUrl_eq (base path : List Char) :
    joinUrl base path = dropFinalSlash base ++ '/' :: dropFirstSlash path := by
  unfold joinUrl dropFirstSlash
  cases path with
  | nil => simp [dropLead?]
  | cons c path =>
    by_cases hc : c = '/'
    · simp [hc, dropLead?]
    · simp [hc, dropLead?, Ne.symm hc]

/-- The joined link goes on from the base. -/
theorem exists_joinUrl_eq_append (base path : List Char) : ∃ t, joinUrl base path = base ++ t := by
  rw [joinUrl_eq, dropFinalSlash]
  split
  · rename_i h
    obtain ⟨front, rfl⟩ := List.getLast?_eq_some_iff.mp h
    exact ⟨dropFirstSlash path, by simp⟩
  · exact ⟨_, rfl⟩

theorem isAbsoluteLink_joinUrl (h : isAbsoluteLink base = true) (path : List Char) :
    isAbsoluteLink (joinUrl base path) = true := by
  obtain ⟨t, ht⟩ := exists_joinUrl_eq_append base path
  rw [ht]
  exact isAbsoluteLink_append h t

/-! ## Network references -/

namespace Reference

variable {r b : Reference} {scheme : List Char}

theorem scheme_of_split? (h : split? scheme s = some r) :
    r.scheme = (cutScheme scheme (cleaned s)).1 := by
  simp only [split?] at h
  split at h
  · rw [← Option.some.inj h]
  · cases h

/-- What starts with a slash has no scheme of its own. -/
theorem cutScheme_slash (scheme s : List Char) :
    cutScheme scheme ('/' :: s) = (scheme, '/' :: s) := by
  have hslash : ('/').isAlpha = false := by decide
  simp [cutScheme, hslash]

/-- A letter of a web scheme, in some case. -/
theorem isSchemeChar_of_toLower_mem {c : Char} (hc : c.toNat < 128)
    (hm : c.toLower ∈ ['h', 't', 'p', 's']) :
    32 < c.toNat ∧ c ≠ ':' ∧ c.isAlpha = true ∧ isSchemeChar c = true :=
  forall_ascii (p := fun c => c.toLower ∈ ['h', 't', 'p', 's'] →
    32 < c.toNat ∧ c ≠ ':' ∧ c.isAlpha = true ∧ isSchemeChar c = true) (by decide) hc hm

theorem webSchemes_letters : ∀ scheme ∈ webSchemes, scheme ≠ [] ∧
    ∀ x ∈ scheme, x ∈ ['h', 't', 'p', 's'] := by
  have h : ∀ scheme ∈ webSchemes, scheme ≠ [] ∧
      scheme.all (fun x => decide (x ∈ ['h', 't', 'p', 's'])) = true := by decide
  exact fun scheme hm => ⟨(h scheme hm).1, forall_mem_of_all (h scheme hm).2⟩

theorem cleaned_append {u : List Char} (hu : ∀ c ∈ u, 32 < c.toNat) (hne : u ≠ [])
    (t : List Char) : ∃ t', cleaned (u ++ t) = u ++ t' := by
  obtain ⟨c, u, rfl⟩ := List.exists_cons_of_ne_nil hne
  have hhead := hu c (List.mem_cons_self ..)
  have hkeep : ∀ a ∈ c :: u, (a != '\t' && a != '\r' && a != '\n') = true := by
    intro a ha
    have := hu a ha
    simp only [Bool.and_eq_true, bne_iff_ne, ne_eq]
    refine ⟨⟨?_, ?_⟩, ?_⟩ <;> rintro rfl <;> revert this <;> decide
  refine ⟨t.filter fun a => a != '\t' && a != '\r' && a != '\n', ?_⟩
  rw [cleaned, List.cons_append, List.dropWhile_cons_of_neg (by simpa using hhead),
    ← List.cons_append, List.filter_append, List.filter_eq_self.mpr hkeep]

/-- The scheme of a web link is read in lower case. -/
theorem cutScheme_web {u : List Char} (hu : IsAscii u) (hm : u.map Char.toLower ∈ webSchemes)
    (t : List Char) : (cutScheme scheme (u ++ ':' :: t)).1 = u.map Char.toLower := by
  obtain ⟨hne, hletters⟩ := webSchemes_letters _ hm
  have hu' : ∀ c ∈ u, c ≠ ':' ∧ c.isAlpha = true ∧ isSchemeChar c = true :=
    fun c hc => (isSchemeChar_of_toLower_mem (hu c hc) (hletters _ (List.mem_map_of_mem hc))).2
  have hlead : (u ++ ':' :: t).takeWhile (· != ':') = u := by
    rw [List.takeWhile_append_of_pos fun c hc => bne_iff_ne.mpr (hu' c hc).1]
    simp
  have hall : u.all isSchemeChar = true := List.all_eq_true.mpr fun c hc => (hu' c hc).2.2
  obtain ⟨c, rest, rfl⟩ := List.exists_cons_of_ne_nil fun h => hne (List.map_eq_nil_iff.mpr h)
  have halpha := (hu' c (List.mem_cons_self ..)).2.1
  simp only [cutScheme, hlead, hall, List.head?_cons, Option.map_some, Option.getD_some, halpha,
    Bool.and_true, List.length_append, List.length_cons]
  rw [if_pos (by simp), lower_of_isAscii hu]

theorem scheme_of_web (hw : IsWebLink s) (h : split? scheme s = some r) :
    r.scheme ∈ webSchemes := by
  obtain ⟨_, hm, u, t, rfl, hu, rfl⟩ := hw.exists_scheme
  obtain ⟨hne, hletters⟩ := webSchemes_letters _ hm
  have hhigh : ∀ c ∈ u ++ authorityMark, 32 < c.toNat := by
    intro c hc
    rcases List.mem_append.mp hc with hc | hc
    · exact (isSchemeChar_of_toLower_mem (hu c hc) (hletters _ (List.mem_map_of_mem hc))).1
    · exact forall_mem_of_all (p := fun c => 32 < c.toNat) (by decide) c hc
  obtain ⟨t', ht'⟩ := cleaned_append hhigh (by simp [authorityMark]) t
  have hmark : u ++ authorityMark ++ t' = u ++ ':' :: ('/' :: '/' :: t') := by
    rw [List.append_assoc]; rfl
  rw [scheme_of_split? h, ht', hmark, cutScheme_web hu hm]
  exact hm

/-- A network reference takes the scheme it is given. -/
theorem scheme_of_network (hn : startsWith ['/', '/'] s = true) (h : split? scheme s = some r) :
    r.scheme = scheme := by
  obtain ⟨t, rfl⟩ := startsWith_iff.mp hn
  obtain ⟨t', ht'⟩ := cleaned_append (u := ['/', '/']) (forall_mem_of_all (by decide)) (by decide) t
  rw [scheme_of_split? h, ht', List.cons_append, cutScheme_slash]

theorem prefix_ite_append {c : Prop} [Decidable c] {x : List Char} (h : s <+: t) :
    s <+: if c then t else t ++ x := by
  split
  · exact h
  · exact h.trans (List.prefix_append ..)

theorem webSchemes_authority : ∀ scheme ∈ webSchemes, scheme.isEmpty = false ∧
    authoritySchemes.contains (String.ofList scheme) = true ∧
    relativeSchemes.contains (String.ofList scheme) = true ∧
    isAbsoluteLink (scheme ++ authorityMark) = true := by
  decide

/-- With a scheme of the web the text of a reference is an absolute link. -/
theorem isAbsoluteLink_toText (hm : r.scheme ∈ webSchemes) : isAbsoluteLink r.toText = true := by
  obtain ⟨hne, hauthority, _, hlead⟩ := webSchemes_authority _ hm
  have htext : r.scheme ++ authorityMark <+: r.toText := by
    simp only [toText, hne, hauthority, Bool.not_false, Bool.and_self, Bool.or_true,
      Bool.true_or, if_true, Bool.false_eq_true, if_false]
    refine prefix_ite_append (prefix_ite_append ?_)
    rw [List.prefix_append_right_inj]
    exact ⟨_, rfl⟩
  obtain ⟨t, ht⟩ := htext
  rw [← ht]
  exact isAbsoluteLink_append hlead t

@[simp] theorem dropEmptyParameters_scheme (r : Reference) :
    r.dropEmptyParameters.scheme = r.scheme := by
  unfold dropEmptyParameters
  split
  · dsimp only
    split <;> rfl
  · rfl

/-- A network reference on a page stands for an absolute link, with the scheme of the base. -/
theorem isAbsoluteLink_join? (hw : IsWebLink base) (hn : startsWith ['/', '/'] value = true)
    (h : join? base value = some link) : isAbsoluteLink link = true := by
  have hbase : base.isEmpty = false := by
    cases base with
    | nil => exact absurd hw (by decide)
    | cons => rfl
  have hvalue : value.isEmpty = false := by
    obtain ⟨t, rfl⟩ := startsWith_iff.mp hn
    rfl
  simp only [join?, hbase, hvalue, Bool.false_eq_true, if_false, Option.bind_eq_bind,
    Option.bind_eq_some_iff] at h
  obtain ⟨b, hb, r, hr, h⟩ := h
  have hbm := scheme_of_web hw hb
  have hrb := scheme_of_network hn hr
  have hrm : r.scheme ∈ webSchemes := hrb ▸ hbm
  obtain ⟨_, _, hrelative, _⟩ := webSchemes_authority _ hbm
  -- The value is neither left as it is nor does any other branch touch the scheme.
  simp only [hrb, hrelative, ne_eq, not_true_eq_false, decide_false, Bool.not_true, Bool.or_self,
    Bool.false_eq_true, if_false] at h
  split at h
  · obtain rfl := Option.some.inj h
    exact isAbsoluteLink_toText (by rw [dropEmptyParameters_scheme]; exact hrm)
  · split at h
    · obtain rfl := Option.some.inj h
      exact isAbsoluteLink_toText hbm
    · obtain rfl := Option.some.inj h
      exact isAbsoluteLink_toText hbm

end Reference

/-! ## Resolving -/

/-- What a value of a page stands for is absolute, unless the value is empty. -/
theorem isAbsoluteLink_resolveLink? (hw : IsWebLink base)
    (h : resolveLink? base value = some link) (hne : link ≠ []) : isAbsoluteLink link = true := by
  unfold resolveLink? at h
  split at h
  · rename_i hv
    obtain rfl := Option.some.inj h
    rcases hv with hv | hv
    · exact absurd (List.isEmpty_iff.mp hv) hne
    · exact hv
  · split at h
    · rename_i hn
      exact Reference.isAbsoluteLink_join? hw hn h
    · obtain rfl := Option.some.inj h
      exact isAbsoluteLink_joinUrl hw.isAbsoluteLink value

theorem resolveLink?_of_isAbsoluteLink (h : isAbsoluteLink value = true) (base : List Char) :
    resolveLink? base value = some value := by
  rw [resolveLink?, if_pos (.inr h)]

/-- A path on a page goes behind the base, with one slash between them. -/
theorem resolveLink?_of_path (hne : value ≠ []) (ha : isAbsoluteLink value = false)
    (hn : startsWith ['/', '/'] value = false) (base : List Char) :
    resolveLink? base value = some (dropFinalSlash base ++ '/' :: dropFirstSlash value) := by
  rw [resolveLink?, if_neg (by simp [hne, ha]), if_neg (by simp [hn]), joinUrl_eq]

/-! ## Hosts that cannot be read -/

/-- What a network reference names between its slashes and its path. -/
def networkAuthority (value : List Char) : List Char :=
  (Reference.cutAuthority (Reference.cleaned value)).1

/-- A network reference whose host cannot be read. -/
def NamesUnreadableHost (value : List Char) : Prop :=
  isAbsoluteLink value = false ∧ startsWith ['/', '/'] value = true ∧
    authorityAccepted (networkAuthority value) = false

instance (value : List Char) : Decidable (NamesUnreadableHost value) :=
  inferInstanceAs (Decidable (_ ∧ _ ∧ _))

namespace Reference

theorem split?_network (hn : startsWith ['/', '/'] value = true) (scheme : List Char) :
    split? scheme value = none ↔ authorityAccepted (networkAuthority value) = false := by
  obtain ⟨t, rfl⟩ := startsWith_iff.mp hn
  obtain ⟨t', ht'⟩ := cleaned_append (u := ['/', '/']) (forall_mem_of_all (by decide)) (by decide) t
  have hcleaned : cleaned (['/', '/'] ++ t) = '/' :: '/' :: t' := ht'
  rw [split?, networkAuthority, hcleaned, cutScheme_slash]
  dsimp only
  cases authorityAccepted (cutAuthority ('/' :: '/' :: t')).1 <;> simp

/-- Once base and value are taken apart, there is a link. -/
theorem join?_eq_none_iff (hb : (split? [] base).isSome = true) (hbase : base ≠ [])
    (hvalue : value ≠ []) :
    join? base value = none ↔ ∃ b, split? [] base = some b ∧ split? b.scheme value = none := by
  obtain ⟨b, hb⟩ := Option.isSome_iff_exists.mp hb
  have hbase' : base.isEmpty = false := by simpa using hbase
  have hvalue' : value.isEmpty = false := by simpa using hvalue
  simp only [join?, hbase', hvalue', Bool.false_eq_true, if_false, hb, Option.some.injEq,
    exists_eq_left', Option.bind_eq_bind, Option.bind_some]
  cases hr : split? b.scheme value with
  | none => simp
  | some r =>
    simp only [Option.bind_some, reduceCtorEq, iff_false]
    split
    · simp
    · split
      · simp
      · split <;> simp

end Reference

/-- The links of a page that stand for nothing. -/
theorem resolveLink?_eq_none_iff (hb : (Reference.split? [] base).isSome = true)
    (hw : IsWebLink base) : resolveLink? base value = none ↔ NamesUnreadableHost value := by
  have hbase : base ≠ [] := by
    rintro rfl
    exact absurd hw (by decide)
  unfold resolveLink? NamesUnreadableHost
  by_cases hn : startsWith ['/', '/'] value = true
  · have hvalue : value ≠ [] := by
      obtain ⟨t, rfl⟩ := startsWith_iff.mp hn
      simp
    obtain ⟨b, hb'⟩ := Option.isSome_iff_exists.mp hb
    have hjoin : Reference.join? base value = none ↔
        authorityAccepted (networkAuthority value) = false := by
      rw [Reference.join?_eq_none_iff hb hbase hvalue, ← Reference.split?_network hn b.scheme]
      simp [hb']
    cases ha : isAbsoluteLink value <;> simp [hn, hvalue, hjoin]
  · split
    · simp [hn]
    · simp [hn]

end TrackerSearch.Web
