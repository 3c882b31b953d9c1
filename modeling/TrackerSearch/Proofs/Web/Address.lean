import TrackerSearch.Proofs.Text.Letter
import TrackerSearch.Proofs.Web.Percent
import TrackerSearch.Trace
import TrackerSearch.Web.Url

/-!
# The query of an address

In the text of a parsed address the first question mark begins the query: no component in front of
it, whatever it was written with, holds a question mark or a number sign. Nothing is said about the
text that the address was parsed from.
-/
namespace TrackerSearch.Web

open TrackerSearch.Text

variable {s t : List Char}

/-- Without the two characters that end a path. -/
def Unmarked (s : List Char) : Prop := ∀ c ∈ s, c ≠ '?' ∧ c ≠ '#'

/-- The query in the text of an address: what stands between the first question mark and the
fragment. -/
def queryOf (s : List Char) : List Char := (cutChar '?' (cutChar '#' s).1).2

namespace Unmarked

theorem nil : Unmarked [] := by
  intro c hc
  cases hc

theorem append (hs : Unmarked s) (ht : Unmarked t) : Unmarked (s ++ t) := by
  intro c hc
  rcases List.mem_append.mp hc with hc | hc
  · exact hs c hc
  · exact ht c hc

theorem of_subset (ht : Unmarked t) (hsub : s ⊆ t) : Unmarked s :=
  fun c hc => ht c (hsub hc)

/-- Texts are unmarked whose characters satisfy a test that the two marks do not. -/
theorem of_forall {p : Char → Prop} (h : ∀ c ∈ s, p c) (hq : ¬p '?') (hn : ¬p '#') :
    Unmarked s := by
  intro c hc
  constructor
  · rintro rfl
    exact hq (h _ hc)
  · rintro rfl
    exact hn (h _ hc)

/-- A given text is looked through. -/
theorem of_all (h : s.all (fun c => c != '?' && c != '#') = true) : Unmarked s := by
  refine of_forall (fun c hc => List.all_eq_true.mp h c hc) ?_ ?_
  · decide
  · decide

theorem joinWith {sep : List Char} {pieces : List (List Char)} (hsep : Unmarked sep)
    (h : ∀ piece ∈ pieces, Unmarked piece) : Unmarked (joinWith sep pieces) := by
  induction pieces with
  | nil => exact nil
  | cons piece pieces ih =>
    obtain ⟨hpiece, hpieces⟩ := List.forall_mem_cons.mp h
    cases pieces with
    | nil => exact hpiece
    | cons next pieces => exact (hpiece.append hsep).append (ih hpieces)

end Unmarked

/-! ## Cutting a text -/

theorem cutChar_append {c : Char} (h : c ∉ s) (t : List Char) :
    cutChar c (s ++ c :: t) = (s, t) := by
  rw [cutChar, takeWhile_ne_append h, dropWhile_ne_append h, List.drop_one, List.tail_cons]

theorem cutChar_of_not_mem {c : Char} (h : c ∉ s) : cutChar c s = (s, []) := by
  obtain ⟨htake, hdrop⟩ := takeWhile_dropWhile_append (t := []) (forall_bne_of_not_mem h) (by simp)
  rw [List.append_nil] at htake hdrop
  rw [cutChar, htake, hdrop]
  rfl

theorem queryOf_of_unmarked (hs : Unmarked s) : queryOf s = [] := by
  have hn : '#' ∉ s := fun h => (hs _ h).2 rfl
  have hq : '?' ∉ s := fun h => (hs _ h).1 rfl
  rw [queryOf, cutChar_of_not_mem hn, cutChar_of_not_mem hq]

theorem queryOf_append (hs : '?' ∉ s) (hs' : '#' ∉ s) (ht : '#' ∉ t) :
    queryOf (s ++ '?' :: t) = t := by
  have hn : '#' ∉ s ++ '?' :: t := by
    rw [List.mem_append, List.mem_cons]
    rintro (h | h | h)
    · exact hs' h
    · cases h
    · exact ht h
  rw [queryOf, cutChar_of_not_mem hn, cutChar_append hs]

/-- What stands behind the first number sign is not looked at. -/
theorem queryOf_append_fragment (hs : '#' ∉ s) (t : List Char) :
    queryOf (s ++ '#' :: t) = queryOf s := by
  rw [queryOf, cutChar_append hs, queryOf, cutChar_of_not_mem hs]

/-! ## Escapes -/

theorem mem_escapeByte {b : UInt8} {c : Char} (h : c ∈ escapeByte b) :
    isUnreserved c = true ∨ c = '%' :=
  (escapeByte_isEscaped b).mem c h

/-- The characters that escaping leaves behind. -/
theorem mem_escapeUnless {safe : Char → Bool} {c : Char} (h : c ∈ escapeUnless safe s) :
    isUnreserved c = true ∨ safe c = true ∨ c = '%' := by
  have hhere : ∀ d : Char, c ∈ (if isUnreserved d || safe d then [d]
      else (utf8OfChar d).flatMap escapeByte) → isUnreserved c = true ∨ safe c = true ∨ c = '%' := by
    intro d hd
    split at hd
    · rename_i hkept
      rw [List.mem_singleton] at hd
      subst hd
      rcases Bool.or_eq_true _ _ ▸ hkept with hu | hsafe
      · exact .inl hu
      · exact .inr (.inl hsafe)
    · obtain ⟨b, -, hb⟩ := List.mem_flatMap.mp hd
      rcases mem_escapeByte hb with hu | hp
      · exact .inl hu
      · exact .inr (.inr hp)
  fun_induction escapeUnless safe s with
  | case1 => cases h
  | case2 a b rest hdigits ih =>
    rw [Bool.and_eq_true] at hdigits
    simp only [List.mem_cons] at h
    rcases h with rfl | rfl | rfl | h
    · exact .inr (.inr rfl)
    · exact .inl (isUnreserved_of_hexDigit? hdigits.1)
    · exact .inl (isUnreserved_of_hexDigit? hdigits.2)
    · exact ih h
  | case3 a b rest hdigits here ih =>
    rcases List.mem_append.mp h with h | h
    · exact hhere _ h
    · exact ih h
  | case4 d here s hnot ih =>
    rcases List.mem_append.mp h with h | h
    · exact hhere _ h
    · exact ih h

theorem unmarked_escapeUnless {safe : Char → Bool} (hq : safe '?' = false) (hn : safe '#' = false)
    (s : List Char) : Unmarked (escapeUnless safe s) := by
  refine Unmarked.of_forall (fun c hc => mem_escapeUnless hc) ?_ ?_
  · rw [hq]
    decide
  · rw [hn]
    decide

/-- Nothing is escaped in a text of safe characters. -/
theorem escapeUnless_of_safe {safe : Char → Bool}
    (h : ∀ c ∈ s, isUnreserved c = true ∨ safe c = true) : escapeUnless safe s = s := by
  have hkept : ∀ c : Char, isUnreserved c = true ∨ safe c = true →
      (isUnreserved c || safe c) = true := fun c hc => Bool.or_eq_true _ _ ▸ hc
  fun_induction escapeUnless safe s with
  | case1 => rfl
  | case2 a b rest hdigits ih =>
    rw [ih fun c hc => h c (by simp [hc])]
  | case3 a b rest hdigits here ih =>
    obtain ⟨hc, hs⟩ := List.forall_mem_cons.mp h
    have hhere : here = ['%'] := if_pos (hkept _ hc)
    rw [ih hs, hhere, List.singleton_append]
  | case4 d here s hnot ih =>
    obtain ⟨hc, hs⟩ := List.forall_mem_cons.mp h
    have hhere : here = [d] := if_pos (hkept _ hc)
    rw [ih hs, hhere, List.singleton_append]

/-! ## Schemes and ports -/

theorem toNat_lt_of_isSchemeChar {c : Char} (h : isSchemeChar c = true) : c.toNat < 128 := by
  by_cases hadd : c = '+'
  · rw [hadd]
    decide
  · refine toNat_lt_of_isUnreserved ?_
    simp only [isSchemeChar, Bool.or_eq_true, beq_iff_eq, hadd, or_false] at h
    simp only [isUnreserved, Bool.or_eq_true, beq_iff_eq]
    rcases h with (h | h) | h
    · exact .inl (.inl (.inl (.inl h)))
    · exact .inl (.inr h)
    · exact .inl (.inl (.inr h))

theorem unmarked_lower_scheme (hs : ∀ c ∈ s, isSchemeChar c = true) : Unmarked (lower s) := by
  have hascii : IsAscii s := fun c hc => toNat_lt_of_isSchemeChar (hs c hc)
  rw [lower_of_isAscii hascii]
  intro c hc
  obtain ⟨d, hd, rfl⟩ := List.mem_map.mp hc
  exact forall_ascii (p := fun d => isSchemeChar d = true → d.toLower ≠ '?' ∧ d.toLower ≠ '#')
    (by decide) (hascii d hd) (hs d hd)

theorem unmarked_toDigits (n : Nat) : Unmarked (Nat.toDigits 10 n) :=
  .of_forall (fun _ hc => Nat.isDigit_of_mem_toDigits (by decide) (by decide) hc)
    (by decide) (by decide)

theorem unmarked_port (n : Int) : Unmarked (toString n).toList := by
  cases n with
  | ofNat n =>
    have htext : (toString (Int.ofNat n)).toList = Nat.toDigits 10 n := by
      change (toString n).toList = _
      rw [Nat.toString_eq_ofList_toDigits, String.toList_ofList]
    rw [htext]
    exact unmarked_toDigits n
  | negSucc n =>
    have htext : (toString (Int.negSucc n)).toList = '-' :: Nat.toDigits 10 (n + 1) := by
      change ("-" ++ toString (n + 1)).toList = _
      rw [Nat.toString_eq_ofList_toDigits, String.toList_append]
      exact congrArg ('-' :: ·) String.toList_ofList
    rw [htext]
    exact .append (s := ['-']) (.of_all (by decide))
      (unmarked_toDigits _)

/-! ## Hosts -/

namespace Hostname

theorem unmarked_digitChar : ∀ d < 36, digitChar d ≠ '?' ∧ digitChar d ≠ '#' := by
  decide

/-- A distance is written in digits of base 36. -/
theorem unmarked_writeDistance (fuel bias position q : Nat) :
    Unmarked (writeDistance fuel bias position q) := by
  induction fuel generalizing position q with
  | zero => exact .nil
  | succ fuel ih =>
    have hlow : 1 ≤ threshold position bias := by
      unfold threshold
      omega
    have hhigh : threshold position bias ≤ 26 := by
      unfold threshold
      omega
    rw [writeDistance]
    split
    · rename_i hlast
      intro c hc
      rw [List.mem_singleton] at hc
      rw [hc]
      exact unmarked_digitChar _ (by omega)
    · have hmod := Nat.mod_lt (q - threshold position bias)
        (show 0 < 36 - threshold position bias by omega)
      intro c hc
      rcases List.mem_cons.mp hc with rfl | hc
      · exact unmarked_digitChar _ (by omega)
      · exact ih _ _ c hc

theorem unmarked_writeCode {ascii n : Nat} {p : Progress} (hp : Unmarked p.text) :
    Unmarked (writeCode ascii n p s).text := by
  unfold writeCode
  refine List.foldlRecOn (motive := fun p : Progress => Unmarked p.text) s _ hp fun p hp c _ => ?_
  split
  · exact hp
  · split
    · exact hp.append (unmarked_writeDistance _ _ _ _)
    · exact hp

/-- Punycode adds only a hyphen and digits of base 36. -/
theorem unmarked_punycode (hs : Unmarked s) : Unmarked (punycode s) := by
  have hascii : Unmarked (s.filter (·.toNat < 128)) := hs.of_subset fun c hc => (List.mem_filter.mp hc).1
  have hhyphen : Unmarked ['-'] := .of_all (by decide)
  unfold punycode
  refine List.foldlRecOn (motive := fun pn : Progress × Nat => Unmarked pn.1.text) _ _ ?_ ?_
  · split
    · exact .nil
    · exact hascii.append hhyphen
  · rintro ⟨p, n⟩ hp code -
    exact unmarked_writeCode hp

theorem unmarked_of_isLabel (h : isLabel s = true) : Unmarked s := by
  rw [isLabel] at h
  simp only [Bool.and_eq_true, List.all_eq_true] at h
  exact .of_forall (p := fun c => isLabelChar c = true) h.1.1.1.2 (by decide) (by decide)

theorem unmarked_asciiLabel {label : List Char} (h : asciiLabel? s = some label) :
    Unmarked label := by
  simp only [asciiLabel?, Option.ite_none_left_eq_some, Option.ite_none_right_eq_some,
    Bool.not_eq_true', Bool.not_eq_false, Option.some.injEq] at h
  obtain ⟨hlabel, -, rfl⟩ := h
  have hs := unmarked_of_isLabel hlabel
  have hlead : Unmarked "xn--".toList := .of_all (by decide)
  split
  · exact hs
  · exact hlead.append (unmarked_punycode hs)

theorem mem_of_mapM {α β : Type} {f : α → Option β} {as : List α} {bs : List β}
    (h : as.mapM f = some bs) : ∀ b ∈ bs, ∃ a, f a = some b := by
  induction as generalizing bs with
  | nil =>
    obtain rfl := Option.some.inj h
    simp
  | cons a as ih =>
    rw [List.mapM_cons] at h
    obtain ⟨b, hb, h⟩ := Option.bind_eq_some_iff.mp h
    obtain ⟨bs', hbs, h⟩ := Option.bind_eq_some_iff.mp h
    obtain rfl := Option.some.inj h
    exact List.forall_mem_cons.mpr ⟨⟨a, hb⟩, ih hbs⟩

theorem unmarked_toAscii {name : List Char} (h : toAscii? s = some name) : Unmarked name := by
  unfold toAscii? at h
  obtain ⟨labels, hlabels, h⟩ := Option.bind_eq_some_iff.mp h
  have hall : ∀ label ∈ labels, Unmarked label := by
    intro label hlabel
    obtain ⟨piece, hpiece⟩ := mem_of_mapM hlabels label hlabel
    exact unmarked_asciiLabel hpiece
  have hpoint : Unmarked ['.'] := .of_all (by decide)
  simp only [Option.ite_none_left_eq_some, Option.some.injEq] at h
  obtain ⟨-, rfl⟩ := h
  refine hpoint.joinWith ?_
  split
  · intro label hlabel
    rcases List.mem_append.mp hlabel with hlabel | hlabel
    · exact hall label hlabel
    · rw [List.mem_singleton.mp hlabel]
      exact .nil
  · exact hall

end Hostname

theorem unmarked_normalHost {host name : List Char} (hhost : Unmarked host)
    (h : normalHost host = .ok name) : Unmarked name := by
  unfold normalHost at h
  split at h
  · obtain rfl := Except.ok.inj h
    exact .nil
  split at h
  · split at h
    · obtain rfl := Except.ok.inj h
      exact hhost
    · cases h
  split at h
  · dsimp only at h
    split at h
    · obtain rfl := Except.ok.inj h
      refine hhost.of_subset fun c hc => ?_
      exact List.mem_of_mem_drop ((List.dropLast_sublist _).subset hc)
    · cases h
  split at h
  · obtain rfl := Except.ok.inj h
    exact unmarked_escapeUnless (by decide) (by decide) _
  · split at h
    · rename_i hascii
      obtain rfl := Except.ok.inj h
      exact Hostname.unmarked_toAscii hascii
    · cases h

/-! ## Whole addresses -/

namespace Url

/-- The components in front of the query hold none of the two marks, and the query no number
sign. -/
structure WellCut (u : Url) : Prop where
  scheme : Unmarked u.scheme
  userInfo : Unmarked u.userInfo
  host : Unmarked u.host
  path : Unmarked u.path
  query : '#' ∉ u.query.getD []

/-- The text in front of the query. -/
def front (u : Url) : List Char :=
  (if u.scheme.isEmpty then [] else u.scheme ++ [':']) ++
    (if u.authority.isEmpty then [] else '/' :: '/' :: u.authority) ++ u.path

/-- The query with its mark. -/
def queryPart (u : Url) : List Char := (u.query.map ('?' :: ·)).getD []

theorem text_eq (u : Url) :
    u.text = u.front ++ u.queryPart ++ (u.fragment.map ('#' :: ·)).getD [] := by
  unfold text queryPart
  cases u.query <;> cases u.fragment <;> rfl

namespace WellCut

variable {u : Url}

theorem authority (h : u.WellCut) : Unmarked u.authority := by
  unfold Url.authority
  refine .append (.append ?_ ?_) ?_
  · split
    · exact .nil
    · exact h.userInfo.append (.of_all (by decide))
  · split
    · have hopen : Unmarked ['['] := .of_all (by decide)
      have hclose : Unmarked [']'] := .of_all (by decide)
      exact (hopen.append h.host).append hclose
    · exact h.host
  · split
    · have hcolon : Unmarked [':'] := .of_all (by decide)
      exact hcolon.append (unmarked_port _)
    · exact .nil

theorem front (h : u.WellCut) : Unmarked u.front := by
  have hcolon : Unmarked [':'] := .of_all (by decide)
  have hslashes : Unmarked ['/', '/'] := .of_all (by decide)
  unfold Url.front
  refine .append (.append ?_ ?_) h.path
  · split
    · exact .nil
    · exact h.scheme.append hcolon
  · split
    · exact .nil
    · exact hslashes.append h.authority

/-- The query is found again in the text. -/
theorem queryOf_text (h : u.WellCut) : queryOf u.text = u.query.getD [] := by
  have hquery := h.query
  have hmark : '?' ∉ u.front := fun hc => (h.front _ hc).1 rfl
  have hsign : '#' ∉ u.front := fun hc => (h.front _ hc).2 rfl
  have hbefore : queryOf (u.front ++ u.queryPart) = u.query.getD [] ∧
      '#' ∉ u.front ++ u.queryPart := by
    unfold queryPart
    cases hq : u.query with
    | none =>
      rw [Option.map_none, Option.getD_none, List.append_nil]
      exact ⟨queryOf_of_unmarked h.front, hsign⟩
    | some q =>
      rw [hq, Option.getD_some] at hquery
      rw [Option.map_some, Option.getD_some, queryOf_append hmark hsign hquery, List.mem_append,
        List.mem_cons]
      refine ⟨rfl, ?_⟩
      rintro (hc | hc | hc)
      · exact hsign hc
      · cases hc
      · exact hquery hc
  rw [text_eq]
  cases u.fragment with
  | none => rw [Option.map_none, Option.getD_none, List.append_nil, hbefore.1]
  | some f => rw [Option.map_some, Option.getD_some, queryOf_append_fragment hbefore.2, hbefore.1]

end WellCut

theorem unmarked_takeWhile_isEnd (s : List Char) :
    Unmarked (s.takeWhile fun c => !(c == '/' || c == '?' || c == '#')) := by
  have hall := List.all_eq_true.mp
    (List.all_takeWhile (p := fun c => !(c == '/' || c == '?' || c == '#')) (l := s))
  exact .of_forall hall (by decide) (by decide)

theorem unmarked_host (h : Unmarked s) : Unmarked (splitAuthority s).2.1 := by
  have htail : (s.reverse.takeWhile (· != '@')).reverse ⊆ s := by
    intro c hc
    rw [List.mem_reverse] at hc
    exact List.mem_reverse.mp (List.takeWhile_subset _ hc)
  refine h.of_subset fun c hc => htail ?_
  unfold splitAuthority at hc
  dsimp only at hc
  -- The host is in brackets, or ends where the port begins.
  split at hc
  · split at hc
    · exact List.takeWhile_subset _ hc
    · rw [List.mem_reverse] at hc
      exact List.mem_reverse.mp (List.dropWhile_subset _ hc)
  · split at hc
    · exact List.takeWhile_subset _ hc
    · cases hc

theorem cut_scheme (s : List Char) : ∀ c ∈ (cut s).1, isSchemeChar c = true := by
  unfold cut
  dsimp only
  split
  · exact List.all_eq_true.mp List.all_takeWhile
  · intro c hc
    cases hc

theorem cut_authority (s : List Char) : Unmarked (cut s).2.1 := by
  unfold cut
  dsimp only
  split
  · exact unmarked_takeWhile_isEnd _
  · exact .nil

theorem wellCut_ofParts {scheme user host port path : List Char} {query fragment : Option (List Char)}
    {u : Url} (hscheme : ∀ c ∈ scheme, isSchemeChar c = true) (hhost : Unmarked host)
    (h : ofParts scheme user host port path query fragment = .ok u) : u.WellCut := by
  unfold ofParts at h
  obtain ⟨name, hname, h⟩ := except_bind_eq_ok.mp h
  obtain ⟨number, -, h⟩ := except_bind_eq_ok.mp h
  obtain ⟨-, -, h⟩ := except_bind_eq_ok.mp h
  obtain rfl := Except.ok.inj h
  refine ⟨unmarked_lower_scheme hscheme, unmarked_escapeUnless (by decide) (by decide) _,
    unmarked_normalHost hhost hname, unmarked_escapeUnless (by decide) (by decide) _, ?_⟩
  cases query with
  | none => exact List.not_mem_nil
  | some q =>
    intro hc
    rcases mem_escapeUnless hc with h | h | h
    · exact absurd h (by decide)
    · exact absurd h (by decide)
    · cases h

/-- Every parsed address is cut where its text is cut. -/
theorem wellCut_parse {u : Url} (h : parse s = .ok u) : u.WellCut := by
  unfold parse at h
  split at h
  · cases h
  · dsimp only at h
    split at h
    · cases h
    · exact wellCut_ofParts (cut_scheme s) (unmarked_host (cut_authority s)) h

theorem WellCut.onNoHost {u : Url} (h : u.WellCut) : u.onNoHost.WellCut where
  scheme := .nil
  userInfo := .nil
  host := .nil
  path := by
    have hslash : Unmarked ['/'] := .of_all (by decide)
    exact hslash.append (h.path.of_subset (List.dropWhile_subset _))
  query := h.query

end Url

end TrackerSearch.Web
