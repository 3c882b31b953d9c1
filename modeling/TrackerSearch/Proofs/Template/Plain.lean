import TrackerSearch.Proofs.Template.Faults
import TrackerSearch.Proofs.Template.Meaning

/-!
# Keywords that are filled in as they are

Where the keywords are used in actions of their own only, a template is cut into texts that do not
depend on them and places that they are put in, as they are. Opening braces in what comes of it may
then be the keywords' own, and the rendering is refused all the same (`outcome_render_of_plainUse`).
-/
namespace TrackerSearch.Template

open TrackerSearch.Text

variable {ctx : Context} {k k' : List Char}

/-! ## Plain use of keywords -/

/-- The tokens that stand for the keywords. -/
def keywordTokens : List (List Char) := [".Keywords".toList, ".Query.Keywords".toList]

/-- The action is the keywords and nothing else. -/
def Action.IsKeywords (a : Action) : Prop := ∃ t ∈ keywordTokens, tokens a.body = [t]

/-- The keywords are not used in the action. -/
def Action.IsConstant (a : Action) : Prop := ∀ t ∈ tokens a.body, t ∉ keywordTokens

instance (a : Action) : Decidable a.IsKeywords :=
  inferInstanceAs (Decidable (∃ t ∈ keywordTokens, tokens a.body = [t]))

instance (a : Action) : Decidable a.IsConstant :=
  inferInstanceAs (Decidable (∀ t ∈ tokens a.body, t ∉ keywordTokens))

/-- A template uses the keywords, if at all, in actions of their own. -/
def PlainUse (template : List Char) : Prop :=
  ∀ segment ∈ (segments template).1, segment.2.IsKeywords ∨ segment.2.IsConstant

instance (template : List Char) : Decidable (PlainUse template) :=
  inferInstanceAs (Decidable (∀ segment ∈ (segments template).1,
    segment.2.IsKeywords ∨ segment.2.IsConstant))

/-- Some action is the keywords. -/
def UsesKeywords (template : List Char) : Prop :=
  ∃ segment ∈ (segments template).1, segment.2.IsKeywords

/-- A context with other keywords. -/
def Context.searchingFor (ctx : Context) (k : List Char) : Context := { ctx with keywords := k }

theorem hasKeywords_searchingFor (ctx : Context) (k : List Char) :
    (ctx.searchingFor k).HasKeywords := rfl

/-! ## Actions without keywords -/

theorem mem_of_mem_pipeline {ts command : List (List Char)} {t : List Char}
    (hcommand : command ∈ pipeline ts) (ht : t ∈ command) : t ∈ ts := by
  induction ts generalizing command with
  | nil =>
    obtain rfl : command = [] := List.mem_singleton.mp hcommand
    cases ht
  | cons t' ts ih =>
    unfold pipeline at ih hcommand
    rw [List.foldr_cons] at hcommand
    split at hcommand
    · rcases List.mem_cons.mp hcommand with rfl | hcommand
      · cases ht
      · exact List.mem_cons_of_mem _ (ih hcommand ht)
    · split at hcommand
      case h_1 =>
        obtain rfl := List.mem_singleton.mp hcommand
        exact List.mem_cons.mpr (.inl (List.mem_singleton.mp ht))
      case h_2 first rest hcommands =>
        rw [hcommands] at ih
        rcases List.mem_cons.mp hcommand with rfl | hcommand
        · rcases List.mem_cons.mp ht with rfl | ht
          · exact List.mem_cons_self
          · exact List.mem_cons_of_mem _ (ih List.mem_cons_self ht)
        · exact List.mem_cons_of_mem _ (ih (List.mem_cons_of_mem _ hcommand) ht)

theorem term?_searchingFor {t : List Char} (h : t ∉ keywordTokens) (ctx : Context)
    (k : List Char) : term? (ctx.searchingFor k) t = term? ctx t := by
  have hkeywords : ¬(t = ".Keywords".toList ∨ t = ".Query.Keywords".toList) := by
    simpa [keywordTokens] using h
  unfold term?
  rw [if_neg hkeywords, if_neg hkeywords]
  rfl

theorem termsOf_searchingFor {ts : List (List Char)} (h : ∀ t ∈ ts, t ∉ keywordTokens)
    (ctx : Context) (k : List Char) : termsOf (ctx.searchingFor k) ts = termsOf ctx ts := by
  induction ts with
  | nil => rfl
  | cons t ts ih =>
    obtain ⟨ht, hts⟩ := List.forall_mem_cons.mp h
    rw [termsOf, termsOf, term?_searchingFor ht, ih hts]

theorem runCommand_searchingFor {command : List (List Char)} (h : ∀ t ∈ command, t ∉ keywordTokens)
    (ctx : Context) (k : List Char) (value : Value) :
    runCommand (ctx.searchingFor k) value command = runCommand ctx value command := by
  cases command with
  | nil => rfl
  | cons head args =>
    obtain ⟨hhead, hargs⟩ := List.forall_mem_cons.mp h
    simp only [runCommand, term?_searchingFor hhead, termsOf_searchingFor hargs]

theorem runCommands_searchingFor {commands : List (List (List Char))}
    (h : ∀ command ∈ commands, ∀ t ∈ command, t ∉ keywordTokens) (ctx : Context) (k : List Char)
    (value : Value) :
    runCommands (ctx.searchingFor k) value commands = runCommands ctx value commands := by
  induction commands generalizing value with
  | nil => cases value <;> rfl
  | cons command rest ih =>
    obtain ⟨hcommand, hrest⟩ := List.forall_mem_cons.mp h
    simp only [runCommands, runCommand_searchingFor hcommand, ih hrest]

theorem evaluate_of_isConstant {a : Action} (h : a.IsConstant) (ctx : Context) (k : List Char) :
    evaluate (ctx.searchingFor k) a.body = evaluate ctx a.body := by
  have hcommands : ∀ command ∈ pipeline (tokens a.body), ∀ t ∈ command, t ∉ keywordTokens :=
    fun _ hcommand t ht => h t (mem_of_mem_pipeline hcommand ht)
  simp only [evaluate, runCommands_searchingFor hcommands]

theorem evaluate_of_isKeywords (hk : ctx.HasKeywords) {a : Action} (h : a.IsKeywords) :
    evaluate ctx a.body = pure (some ctx.keywordText) := by
  obtain ⟨t, ht, hbody⟩ := h
  have htoken : t = ".Keywords".toList ∨ t = ".Query.Keywords".toList := by
    simpa [keywordTokens] using ht
  have hname : Function.ofName? t = none := by rcases htoken with rfl | rfl <;> decide
  have hliteral : isLiteral t = false := by rcases htoken with rfl | rfl <;> decide
  have hbar : ['|'] ∉ [t] := by rcases htoken with rfl | rfl <;> decide
  rw [evaluate, hbody, pipeline_single hbar]
  simp only [runCommands, runCommand, hname, term?_keywords hliteral htoken,
    ctx.keywordValue_eq hk]
  rfl

/-! ## Pieces -/

/-- What a part of a template stands for. -/
inductive Piece where
  | keywords
  | text (s : List Char)
  deriving Repr, DecidableEq

def Piece.fill (k : List Char) : Piece → List Char
  | keywords => k
  | text s => s

/-- Pieces with some keywords in their places. -/
def fillIn (k : List Char) (pieces : List Piece) : List Char := pieces.flatMap (Piece.fill k)

theorem fillIn_cons (k : List Char) (piece : Piece) (pieces : List Piece) :
    fillIn k (piece :: pieces) = piece.fill k ++ fillIn k pieces := List.flatMap_cons ..

/-- The piece that an action is; what is not supported stands for itself. -/
def Action.piece (ctx : Context) (a : Action) : Piece :=
  if a.IsKeywords then .keywords
  else
    match (evaluate ctx a.body).outcome with
    | .ok value => .text (value.getD a.source)
    | .error _ => .text []

/-- The pieces of some segments, given whether the literal in front is trimmed on the left. -/
def piecesFrom (ctx : Context) : Bool → List Segment → List Char → List Piece
  | trimNext, [], tail => [.text (Abstract.trimmed trimNext false tail)]
  | trimNext, (literal, action) :: rest, tail =>
    .text (Abstract.trimmed trimNext action.trimLeft literal) :: action.piece ctx ::
      piecesFrom ctx action.trimRight rest tail

/-- The pieces of a template. -/
def pieces (ctx : Context) (template : List Char) : List Piece :=
  piecesFrom ctx false (segments template).1 (segments template).2

theorem keywords_mem_piecesFrom {segs : List Segment}
    (h : ∃ segment ∈ segs, segment.2.IsKeywords) (ctx : Context) (trimNext : Bool)
    (tail : List Char) : .keywords ∈ piecesFrom ctx trimNext segs tail := by
  obtain ⟨segment, hm, hkeywords⟩ := h
  induction segs generalizing trimNext with
  | nil => cases hm
  | cons first segs ih =>
    refine List.mem_cons_of_mem _ (List.mem_cons.mpr ?_)
    rcases List.mem_cons.mp hm with rfl | hm
    · exact .inl (if_pos hkeywords).symm
    · exact .inr (ih _ hm)

/-- Keywords with opening braces leave them wherever they are used. -/
theorem openBraces_fillIn_of_usesKeywords {template : List Char} (h : UsesKeywords template)
    (hk : openBraces <:+: k) (ctx : Context) : openBraces <:+: fillIn k (pieces ctx template) := by
  obtain ⟨front, back, hpieces⟩ := List.append_of_mem
    (keywords_mem_piecesFrom h ctx false (segments template).2)
  refine hk.trans ⟨fillIn k front, fillIn k back, ?_⟩
  rw [pieces, hpieces]
  simp [fillIn, Piece.fill]

/-! ## Neutral keywords -/

/-- The keywords neither hold opening braces nor help to form some, and there are any. -/
structure Neutral (k : List Char) : Prop where
  ne_nil : k ≠ []
  inside : ¬openBraces <:+: k
  front : k.head? ≠ some '\x7b'
  back : k.getLast? ≠ some '\x7b'

/-- Neutral keywords are a border that opening braces do not cross. -/
theorem openBraces_around_iff (hk : Neutral k) (s t : List Char) :
    openBraces <:+: s ++ (k ++ t) ↔ openBraces <:+: s ∨ openBraces <:+: t := by
  obtain ⟨c, rest, rfl⟩ := List.exists_cons_of_ne_nil hk.ne_nil
  have hfront : c ≠ '\x7b' := fun hc => hk.front (congrArg some hc)
  have hinside : ¬['\x7b', '\x7b'] <:+: c :: rest := hk.inside
  unfold openBraces
  rw [pair_infix_append_iff, pair_infix_append_iff]
  simp [hfront, hk.back, hinside]

theorem openBraces_append_fillIn (hk : Neutral k) (hk' : Neutral k') (s : List Char)
    (pieces : List Piece) :
    openBraces <:+: s ++ fillIn k pieces ↔ openBraces <:+: s ++ fillIn k' pieces := by
  induction pieces generalizing s with
  | nil => rfl
  | cons piece pieces ih =>
    rw [fillIn_cons, fillIn_cons]
    cases piece with
    | text s' =>
      change openBraces <:+: s ++ (s' ++ fillIn k pieces) ↔
        openBraces <:+: s ++ (s' ++ fillIn k' pieces)
      rw [← List.append_assoc, ← List.append_assoc]
      exact ih (s ++ s')
    | keywords =>
      change openBraces <:+: s ++ (k ++ fillIn k pieces) ↔
        openBraces <:+: s ++ (k' ++ fillIn k' pieces)
      rw [openBraces_around_iff hk, openBraces_around_iff hk']
      exact or_congr_right (ih [])

theorem openBraces_fillIn_iff (hk : Neutral k) (hk' : Neutral k') (pieces : List Piece) :
    openBraces <:+: fillIn k pieces ↔ openBraces <:+: fillIn k' pieces :=
  openBraces_append_fillIn hk hk' [] pieces

/-! ## Rendering -/

/-- The fault of an action, and its piece where it has none, do not depend on the keywords. -/
theorem outcome_evaluate_of_plainUse (hk : ctx.HasKeywords) (hencode : ctx.encode = false)
    {a : Action} (h : a.IsKeywords ∨ a.IsConstant) (k : List Char) :
    ∃ value, (evaluate (ctx.searchingFor k) a.body).outcome =
      orFault (firstFatal? (usesOfBody ctx a.body)) value ∧
        value.getD a.source = (a.piece ctx).fill k := by
  obtain ⟨w, hw⟩ := outcome_evaluate hk a.body
  by_cases hkeywords : a.IsKeywords
  · have hvalue : (ctx.searchingFor k).keywordText = k := by
      simp [Context.keywordText, Context.encoded, Context.searchingFor, hencode]
    have hnone : firstFatal? (usesOfBody ctx a.body) = none := by
      rw [evaluate_of_isKeywords hk hkeywords] at hw
      cases hf : firstFatal? (usesOfBody ctx a.body) with
      | none => rfl
      | some f => rw [hf] at hw; cases hw
    refine ⟨some k, ?_, by rw [Action.piece, if_pos hkeywords]; rfl⟩
    rw [evaluate_of_isKeywords (hasKeywords_searchingFor ctx k) hkeywords, hvalue, hnone]
    rfl
  · have hconstant : a.IsConstant := h.resolve_left hkeywords
    rw [evaluate_of_isConstant hconstant, Action.piece, if_neg hkeywords, hw]
    cases firstFatal? (usesOfBody ctx a.body) with
    | none => exact ⟨w, rfl, rfl⟩
    | some f => exact ⟨some [], rfl, rfl⟩

theorem outcome_renderSegments_of_plainUse (hk : ctx.HasKeywords) (hencode : ctx.encode = false)
    {segs : List Segment} (h : ∀ segment ∈ segs, segment.2.IsKeywords ∨ segment.2.IsConstant)
    (trimNext : Bool) (tail k : List Char) :
    (renderSegments (ctx.searchingFor k) trimNext segs tail).outcome =
      orFault (firstFatal? (segs.flatMap fun (_, action) => usesOfBody ctx action.body))
        (fillIn k (piecesFrom ctx trimNext segs tail)) := by
  induction segs generalizing trimNext with
  | nil => simp [renderSegments, firstFatal?, orFault, fillIn, piecesFrom, Piece.fill,
      Abstract.trimmed]
  | cons segment segs ih =>
    obtain ⟨literal, action⟩ := segment
    obtain ⟨haction, hsegs⟩ := List.forall_mem_cons.mp h
    obtain ⟨value, hvalue, hfill⟩ := outcome_evaluate_of_plainUse hk hencode haction k
    rw [renderSegments, List.flatMap_cons, firstFatal?_append, piecesFrom, fillIn_cons,
      fillIn_cons, ← hfill]
    refine outcome_bind_orFault hvalue ?_
    rw [Traced.outcome_bind, ih hsegs]
    cases firstFatal? (segs.flatMap fun (_, action) => usesOfBody ctx action.body) with
    | some f => rfl
    | none => simp [orFault, Except.bind, Piece.fill, Abstract.trimmed]

/-- The fault of a template and its pieces do not depend on the keywords. Without a fault, it is
refused just if there are opening braces once the keywords are filled in. -/
theorem outcome_render_of_plainUse (hk : ctx.HasKeywords) {template : List Char}
    (hencode : ctx.encode = false) (h : PlainUse template) (k : List Char) :
    (render (ctx.searchingFor k) template).outcome =
      match firstFatal? (usesOf ctx template) with
      | some f => .error (.fault f)
      | none =>
        match leftover? (fillIn k (pieces ctx template)) with
        | none => .ok (fillIn k (pieces ctx template))
        | some fragment =>
          .error (.unresolved (String.ofList template) (String.ofList fragment)) := by
  have hsegs := outcome_renderSegments_of_plainUse hk hencode h false (segments template).2 k
  rw [render, Traced.outcome_bind, Traced.mapError, hsegs, ← usesOf, ← pieces]
  cases firstFatal? (usesOf ctx template) with
  | some f => rfl
  | none =>
    rw [orFault, mapError_ok, Except.bind]
    dsimp only
    cases leftover? (fillIn k (pieces ctx template)) <;> rfl

end TrackerSearch.Template
