import TrackerSearch.Proofs.Template.Unsupported

/-!
# Quotes that are never closed

A double-quoted text that an action opens and never closes is no term, so the action stays in its
place and the rendering is refused (`outcome_of_leavesOpen`). Two kinds of tokens slip through: a
constant is told by its first and last character only, though the last one may be an escaped quote,
and the name of a configuration value may hold a quote (`render_of_escaped_quote`).
-/
namespace TrackerSearch.Template

open TrackerSearch.Text

variable {ctx : Context} {s t q rest body : List Char}

/-! ## Open quotes -/

/-- Whether a double-quoted text is open behind a text, given whether one is open in front of it. In
a quoted text a backslash takes the next character along. -/
def openAfter : Bool → List Char → Bool
  | quoted, [] => quoted
  | false, c :: s => openAfter (c == '"') s
  | true, '"' :: s => openAfter false s
  | true, '\\' :: _ :: s => openAfter true s
  | true, _ :: s => openAfter true s

/-- A double-quoted text is opened and never closed. -/
def LeavesOpen (s : List Char) : Prop := openAfter false s = true

instance (s : List Char) : Decidable (LeavesOpen s) :=
  inferInstanceAs (Decidable (openAfter false s = true))

theorem openAfter_plain {c : Char} (hquote : c ≠ '"') (hslash : c ≠ '\\') (s : List Char) :
    openAfter true (c :: s) = openAfter true s :=
  openAfter.eq_5 c s (fun h => hquote h) fun _ _ h _ => hslash h

/-- A text that leaves no quote open can be read away. -/
theorem openAfter_append {quoted : Bool} (h : openAfter quoted t = false) (rest : List Char) :
    openAfter quoted (t ++ rest) = openAfter false rest := by
  induction quoted, t using openAfter.induct with
  | case1 quoted =>
    obtain rfl : quoted = false := h
    rfl
  | case2 c s ih | case3 s ih | case4 c s ih => exact ih h
  | case5 c s hquote hpair ih =>
    rw [openAfter.eq_5 _ _ hquote hpair] at h
    have hslash : c ≠ '\\' := by
      rintro rfl
      cases s with
      | nil => cases h
      | cons c' s => exact hpair c' s rfl rfl
    rw [List.cons_append, openAfter_plain hquote hslash]
    exact ih h

/-! ## Tokens -/

/-- The rest of a quoted text is what follows behind its closing quote. -/
theorem quotedRest?_eq_some (h : quotedRest? s = some (q, rest)) :
    s = q ++ rest ∧ openAfter true q = false := by
  induction s using quotedRest?.induct generalizing q rest with
  | case1 => cases h
  | case2 s =>
    cases h
    exact ⟨rfl, rfl⟩
  | case3 s => simp [quotedRest?] at h
  | case4 c s hline ih =>
    rw [quotedRest?, if_neg hline] at h
    obtain ⟨⟨q', rest'⟩, hrest, heq⟩ := Option.map_eq_some_iff.mp h
    cases heq
    obtain ⟨rfl, hclosed⟩ := ih hrest
    exact ⟨rfl, hclosed⟩
  | case5 => cases h
  | case6 c s hquote hpair hend ih =>
    rw [quotedRest?.eq_5 _ _ hquote hpair hend] at h
    obtain ⟨⟨q', rest'⟩, hrest, heq⟩ := Option.map_eq_some_iff.mp h
    cases heq
    obtain ⟨rfl, hclosed⟩ := ih hrest
    have hslash : c ≠ '\\' := by
      rintro rfl
      cases q' with
      | nil => cases hclosed
      | cons c' q' => exact hpair c' (q' ++ rest) rfl rfl
    exact ⟨rfl, by rw [openAfter_plain hquote hslash, hclosed]⟩

/-- Where a quoted text is not closed, a quote at the end of one of its lines is an escaped one. -/
theorem exists_escaped_of_quotedRest? (h : quotedRest? (t ++ rest) = none) (hline : '\n' ∉ t)
    (hlast : t.getLast? = some '"') : ∃ s, t = s ++ ['\\', '"'] := by
  induction t using quotedRest?.induct with
  | case1 => cases hlast
  | case2 s => simp [quotedRest?] at h
  | case3 s => simp at hline
  | case4 c s hc ih =>
    rw [List.cons_append, List.cons_append, quotedRest?, if_neg hc, Option.map_eq_none_iff] at h
    cases s with
    | nil =>
      obtain rfl : c = '"' := by simpa using hlast
      exact ⟨[], rfl⟩
    | cons c' s =>
      obtain ⟨s', hs'⟩ := ih h (fun hm => hline (by simp [hm])) (by simpa using hlast)
      exact ⟨'\\' :: c :: s', by rw [hs']; rfl⟩
  | case5 => cases hlast
  | case6 c s hquote hpair hend ih =>
    cases s with
    | nil => exact absurd (Option.some.inj hlast) fun hc => hquote hc
    | cons c' s =>
      have hslash : c ≠ '\\' := fun hc => hpair c' s hc rfl
      rw [List.cons_append, List.cons_append, quotedRest?.eq_5 _ _ hquote
        (fun _ _ hc _ => hslash hc) (fun hc _ => hslash hc), Option.map_eq_none_iff] at h
      obtain ⟨s', hs'⟩ := ih h (fun hm => hline (by simp [hm])) (by simpa using hlast)
      exact ⟨c :: s', by rw [hs']; rfl⟩

theorem eq_run_append {c : Char} (h : (if isPlain c then
      some ((c :: s).takeWhile isPlain, (c :: s).dropWhile isPlain) else none) = some (t, rest)) :
    (∃ q, t = c :: q ∧ s = q ++ rest) ∧ ∀ c ∈ t, isPlain c = true := by
  split at h
  · rename_i hc
    obtain ⟨rfl, rfl⟩ := Prod.mk.inj (Option.some.inj h)
    refine ⟨⟨s.takeWhile isPlain, List.takeWhile_cons_of_pos hc, ?_⟩,
      List.all_eq_true.mp List.all_takeWhile⟩
    rw [List.dropWhile_cons_of_pos hc, List.takeWhile_append_dropWhile]
  · cases h

/-- A quote that ends the token is the one that opens it or an escaped one. -/
def EndsEscaped (t : List Char) : Prop :=
  ∀ q, t = '"' :: q → q.getLast? = some '"' → ∃ s, q = s ++ ['\\', '"']

/-- A token is the start of a text. Where it leaves a quote open, a quote at its end is escaped. -/
theorem token?_eq_some (h : token? s = some (t, rest)) (hback : '\x60' ∉ s) :
    s = t ++ rest ∧ t ≠ [] ∧ (LeavesOpen t → EndsEscaped t) := by
  cases s with
  | nil => cases h
  | cons c s =>
    have hc : c ≠ '\x60' := fun hc => hback (by simp [hc])
    unfold token? at h
    dsimp only at h
    rw [if_neg hc] at h
    by_cases hquote : c = '"'
    · rw [if_pos hquote] at h
      cases hq : quotedRest? s with
      | some quoted =>
        rw [hq] at h
        cases h
        obtain ⟨rfl, hclosed⟩ := quotedRest?_eq_some hq
        refine ⟨by rw [hquote]; rfl, by simp, fun hopen => ?_⟩
        rw [LeavesOpen, openAfter] at hopen
        exact absurd (hclosed.symm.trans hopen) (by decide)
      | none =>
        rw [hq] at h
        obtain ⟨⟨q, rfl, rfl⟩, hplain⟩ := eq_run_append h
        have hline : '\n' ∉ q := fun hm =>
          absurd (hplain '\n' (List.mem_cons_of_mem _ hm)) (by decide)
        refine ⟨rfl, by simp, fun _ q' hq' hlast => ?_⟩
        obtain rfl := (List.cons.inj hq').2
        exact exists_escaped_of_quotedRest? hq hline hlast
    · rw [if_neg hquote] at h
      by_cases hbar : c = '|'
      · rw [if_pos hbar] at h
        cases h
        exact ⟨by rw [hbar]; rfl, by simp, fun hopen => absurd hopen (by decide)⟩
      · rw [if_neg hbar] at h
        obtain ⟨⟨q, rfl, rfl⟩, -⟩ := eq_run_append h
        exact ⟨rfl, by simp, fun _ q' hq' => absurd (List.cons.inj hq').1 hquote⟩

/-- Where there is no token there is no quote. -/
theorem ne_quote_of_token? {c : Char} (h : token? (c :: s) = none) : c ≠ '"' := by
  rintro rfl
  unfold token? at h
  dsimp only at h
  rw [if_pos rfl] at h
  cases hq : quotedRest? s with
  | some quoted =>
    rw [hq] at h
    cases h
  | none =>
    rw [hq] at h
    cases h

theorem of_mem_tokensOf {fuel : Nat} (h : t ∈ tokensOf fuel body) (hback : '\x60' ∉ body) :
    '\x60' ∉ t ∧ (LeavesOpen t → EndsEscaped t) := by
  induction fuel generalizing body with
  | zero => cases h
  | succ fuel ih =>
    cases body with
    | nil => cases h
    | cons c s =>
      rw [tokensOf] at h
      cases htoken : token? (c :: s) with
      | none =>
        rw [htoken] at h
        exact ih h fun hm => hback (List.mem_cons_of_mem _ hm)
      | some found =>
        obtain ⟨t', rest⟩ := found
        obtain ⟨hs, -, hescaped⟩ := token?_eq_some htoken hback
        rw [htoken] at h
        rw [hs] at hback
        rcases List.mem_cons.mp h with rfl | h
        · exact ⟨fun hm => hback (List.mem_append_left _ hm), hescaped⟩
        · exact ih h fun hm => hback (List.mem_append_right _ hm)

/-- A quote that is left open is left open by a token. -/
theorem exists_open_of_tokensOf {fuel : Nat} (hfuel : body.length ≤ fuel)
    (hopen : LeavesOpen body) (hback : '\x60' ∉ body) :
    ∃ t ∈ tokensOf fuel body, LeavesOpen t := by
  induction fuel generalizing body with
  | zero =>
    obtain rfl : body = [] := List.length_eq_zero_iff.mp (Nat.le_zero.mp hfuel)
    cases hopen
  | succ fuel ih =>
    cases body with
    | nil => cases hopen
    | cons c s =>
      rw [tokensOf]
      cases htoken : token? (c :: s) with
      | none =>
        have hc : (c == '"') = false := by simpa using ne_quote_of_token? htoken
        rw [LeavesOpen, openAfter, hc] at hopen
        exact ih (by simpa using hfuel) hopen fun hm => hback (List.mem_cons_of_mem _ hm)
      | some found =>
        obtain ⟨t, rest⟩ := found
        obtain ⟨hs, hne, -⟩ := token?_eq_some htoken hback
        rw [hs] at hopen hback hfuel
        dsimp only
        by_cases ht : LeavesOpen t
        · exact ⟨t, List.mem_cons_self, ht⟩
        · rw [LeavesOpen, Bool.not_eq_true] at ht
          rw [LeavesOpen, openAfter_append ht] at hopen
          have hlength : 0 < t.length := List.length_pos_iff.mpr hne
          rw [List.length_append] at hfuel
          obtain ⟨t', hm, ht'⟩ := ih (by omega) hopen fun hm => hback (List.mem_append_right _ hm)
          exact ⟨t', List.mem_cons_of_mem _ hm, ht'⟩

/-! ## Open quotes that are not noticed -/

/-- A token that is a term even where it leaves a quote open: one that ends in an escaped quote, or
the name of a configuration value. -/
def Slips (t : List Char) : Prop :=
  (∃ s, t = '"' :: s ++ ['\\', '"']) ∨
    ∃ name, t = ".Config.".toList ++ name ∧ name ≠ [] ∧ '.' ∉ name

theorem slips_of_isSupported (h : IsSupported ctx t) (hopen : LeavesOpen t) (hback : '\x60' ∉ t)
    (hends : EndsEscaped t) : Slips t := by
  rcases h with rfl | hname | hterm
  · exact absurd hopen (by decide)
  · unfold Function.ofName? at hname
    split at hname
    · rename_i hre
      exact absurd hopen (by rw [hre]; decide)
    · split at hname
      · rename_i hreplace
        exact absurd hopen (by rw [hreplace]; decide)
      · cases hname
  · unfold term? at hterm
    split at hterm
    · rename_i hliteral
      simp only [isLiteral, Bool.and_eq_true, Bool.or_eq_true, decide_eq_true_eq, beq_iff_eq]
        at hliteral
      obtain ⟨⟨hlength, hsame⟩, hquote | hquote⟩ := hliteral
      · obtain ⟨q, rfl⟩ := List.head?_eq_some_iff.mp hquote
        cases q with
        | nil => simp at hlength
        | cons c q =>
          obtain ⟨s, hs⟩ := hends _ rfl (by simpa using hsame.symm)
          exact .inl ⟨s, by rw [hs]; rfl⟩
      · obtain ⟨q, rfl⟩ := List.head?_eq_some_iff.mp hquote
        exact absurd List.mem_cons_self hback
    · split at hterm
      · rename_i hkeywords
        refine absurd hopen ?_
        rcases hkeywords with rfl | rfl <;> decide
      · split at hterm
        · rename_i name hdrop
          split at hterm
          · cases hterm
          · rename_i hname
            simp only [List.isEmpty_iff, List.contains_iff_mem, not_or] at hname
            exact .inr ⟨name, dropLead?_eq_some_iff.mp hdrop, hname⟩
        · cases hterm

theorem head?_of_slips (h : Slips t) : t.head? = some '"' ∨ t.head? = some '.' := by
  rcases h with ⟨s, rfl⟩ | ⟨name, rfl, -⟩
  · exact .inl rfl
  · exact .inr rfl

theorem exists_text_of_slips (h : Slips t) (ctx : Context) :
    ∃ w, term? ctx t = some (.ok (some w)) := by
  rcases h with ⟨s, rfl⟩ | ⟨name, rfl, hne, hpoint⟩
  · have hliteral : isLiteral ('"' :: s ++ ['\\', '"']) = true := by
      simp [isLiteral, List.getLast?_cons]
    exact ⟨_, by rw [term?, if_pos hliteral]⟩
  · exact ⟨_, term?_config hne hpoint⟩

/-- A term that stands alone is the value of its action. -/
theorem evaluate_of_single {w : List Char} (htokens : tokens body = [t])
    (hhead : t.head? = some '"' ∨ t.head? = some '.')
    (hterm : term? ctx t = some (.ok (some w))) :
    evaluate ctx body = pure (some w) := by
  have hname : Function.ofName? t = none :=
    ofName?_of_head (by rcases hhead with hhead | hhead <;> rw [hhead] <;> decide)
  have hbar : ['|'] ∉ [t] := by
    rintro hm
    obtain rfl := List.mem_singleton.mp hm
    rcases hhead with hhead | hhead <;> exact absurd hhead (by decide)
  rw [evaluate, htokens, pipeline_single hbar]
  simp only [runCommands, runCommand, hname, hterm]
  rfl

variable {template literal : List Char} {before after : List Segment} {a : Action}

/-- What becomes of an action whose body leaves a quote open. -/
structure StaysOpen (template : List Char) (before : List Segment) (literal : List Char)
    (a : Action) (after : List Segment) : Prop where
  /-- It stands where it was written. -/
  source_eq :
    template = written before ++ literal ++ a.source ++ written after ++ (segments template).2
  exists_open : ∃ t ∈ tokens a.body, LeavesOpen t
  /-- A token that leaves the quote open is a term just if it slips. -/
  isSome_iff_slips : ∀ ctx, ∀ t ∈ tokens a.body, LeavesOpen t → ((term? ctx t).isSome ↔ Slips t)
  /-- The action is evaluated only if all such tokens slip. -/
  slips_of_value : ∀ ctx, (∃ w, (evaluate ctx a.body).outcome = .ok (some w)) →
    ∀ t ∈ tokens a.body, LeavesOpen t → Slips t
  /-- Otherwise the rendering is refused and the address is the base link. -/
  refused : ∀ ctx, ctx.HasKeywords → (¬∃ w, (evaluate ctx a.body).outcome = .ok (some w)) →
    firstFatal? (usesOf ctx template) = none →
    ∃ v fragment, LeftInPlace ctx before literal a after (segments template).2 v ∧
      FirstLeftover v fragment ∧ (render ctx template).outcome =
        .error (.unresolved (String.ofList template) (String.ofList fragment)) ∧
      ∀ d keywords config fallback category p, ctx = pathContext d keywords config fallback →
        d.firstPath? category = some p → p.path.toList = template →
        (targetUrl d keywords config fallback category).outcome = .ok d.baseLink.toList
  /-- A pattern may end the rendering before that. -/
  fault : ∀ ctx, ctx.HasKeywords → (¬∃ w, (evaluate ctx a.body).outcome = .ok (some w)) →
    ∀ f, firstFatal? (usesOf ctx template) = some f →
      (render ctx template).outcome = .error (.fault f)
  /-- A token that slips, alone in the action, gives it a value. -/
  value_of_slips : ∀ ctx t, tokens a.body = [t] → Slips t →
    ∃ w, term? ctx t = some (.ok (some w)) ∧ evaluate ctx a.body = pure (some w)

/-- **Quotes that are never closed.** Where the body of an action leaves a quote open, one of its
tokens does. The action is evaluated only if all such tokens slip; otherwise it stays in its place
as it was written, the rendering is refused and the address is the base link, unless a pattern ends
the rendering before that. -/
theorem outcome_of_leavesOpen
    (hsegs : (segments template).1 = before ++ (literal, a) :: after)
    (hback : '\x60' ∉ a.body) (hopen : LeavesOpen a.body) :
    StaysOpen template before literal a after := by
  have hread : ∀ t ∈ tokens a.body, '\x60' ∉ t ∧ (LeavesOpen t → EndsEscaped t) :=
    fun t hm => of_mem_tokensOf hm hback
  have hterm : ∀ ctx, ∀ t ∈ tokens a.body, LeavesOpen t → IsSupported ctx t → Slips t :=
    fun ctx t hm ht h => slips_of_isSupported h ht (hread t hm).1 ((hread t hm).2 ht)
  refine
    { source_eq := ?_
      exists_open := exists_open_of_tokensOf (Nat.le_refl _) hopen hback
      isSome_iff_slips := fun ctx t hm ht => ⟨fun h => hterm ctx t hm ht (.inr (.inr h)), fun h => ?_⟩
      slips_of_value := ?_
      refused := fun ctx hk hnone htame => ?_
      fault := fun ctx hk _ f hf => render_of_fault ((rendering_eq_error_iff hk template f).mpr hf)
      value_of_slips := ?_ }
  · have h := written_segments template
    rw [hsegs] at h
    exact h.symm.trans (by simp [written])
  · obtain ⟨w, hw⟩ := exists_text_of_slips h ctx
    rw [hw]
    rfl
  · rintro ctx ⟨w, hw⟩ t hm ht
    exact hterm ctx t hm ht (isSupported_of_evaluate hw t hm)
  · obtain ⟨v, fragment, hplace, hfirst, hrefused⟩ :=
      refused_of_unsupported hk hsegs (not_exists.mp hnone) htame
    refine ⟨v, fragment, hplace, hfirst, hrefused, ?_⟩
    rintro d keywords config fallback category p rfl hp hpath
    rw [← hpath] at hrefused
    exact targetUrl_of_leftover hp hrefused
  · intro ctx t htokens hslips
    obtain ⟨w, hw⟩ := exists_text_of_slips hslips ctx
    exact ⟨w, hw, evaluate_of_single htokens (head?_of_slips hslips) hw⟩

/-- An action that holds nothing but a quote that is opened. -/
def loneQuote : List Char := "a \x7b\x7b- \"b \x7d\x7d c".toList

/-- The action of `loneQuote`. -/
def loneAction : Action := ⟨true, " \"b ".toList, false⟩

theorem outcome_of_loneQuote :
    (segments loneQuote).1 = [] ++ ("a ".toList, loneAction) :: [] ∧ '\x60' ∉ loneAction.body ∧
    LeavesOpen loneAction.body ∧ (¬∃ w, (evaluate {} loneAction.body).outcome = .ok (some w)) ∧
    firstFatal? (usesOf {} loneQuote) = none ∧
    ∃ v fragment, LeftInPlace {} [] "a ".toList loneAction [] (segments loneQuote).2 v ∧
      FirstLeftover v fragment ∧ (render {} loneQuote).outcome =
        .error (.unresolved (String.ofList loneQuote) (String.ofList fragment)) := by
  have hsegs : (segments loneQuote).1 = [] ++ ("a ".toList, loneAction) :: [] := by decide +kernel
  have hback : '\x60' ∉ loneAction.body := by decide
  have hopen : LeavesOpen loneAction.body := by decide
  have htame : firstFatal? (usesOf {} loneQuote) = none := by decide +kernel
  have hslips : ¬Slips "\"b".toList := by
    rintro (⟨s, hs⟩ | ⟨name, hname, -⟩)
    · have hlast : "\"b".toList.getLast? = some '"' := by
        rw [hs, List.getLast?_append]
        rfl
      exact absurd hlast (by decide)
    · exact absurd (List.cons.inj hname).1 (by decide)
  have hstays := outcome_of_leavesOpen hsegs hback hopen
  have hnone : ¬∃ w, (evaluate {} loneAction.body).outcome = .ok (some w) :=
    fun h => hslips (hstays.slips_of_value {} h _ (by decide) (by decide))
  obtain ⟨v, fragment, hplace, hfirst, hunresolved, -⟩ := hstays.refused {} rfl hnone htame
  exact ⟨hsegs, hback, hopen, hnone, htame, v, fragment, hplace, hfirst, hunresolved⟩

/-- A site whose path is a constant with an escaped quote at its end. -/
def openQuoteSite : Definition where
  id := "quote"
  name := "Quote"
  links := ["https://quote.example/"]
  search := some { paths := [{ path := "\x7b\x7b \"a\\\" \x7d\x7d" }] }

/-- The quote is opened, and the only one that could close it is escaped. -/
theorem render_of_escaped_quote :
    (∃ segment ∈ (segments "\x7b\x7b \"a\\\" \x7d\x7d".toList).1,
      '\x60' ∉ segment.2.body ∧ LeavesOpen segment.2.body) ∧
    (render {} "\x7b\x7b \"a\\\" \x7d\x7d".toList).outcome = .ok "a\\".toList ∧
    (targetUrl openQuoteSite (some []) [] "" none).outcome = .ok "https://quote.example/a\\".toList :=
  ⟨by decide +kernel, by decide +kernel, by decide +kernel⟩

end TrackerSearch.Template
