import TrackerSearch.Filter.Apply

/-!
# Chains of filters

A stage of a chain that cannot be evaluated hands the value on as it was. Two kinds of stages do not
follow this: one whose pattern repeats something too often, which ends the chain, and a `regexp`
whose first group took no part in the match, after which there is no value. Without them every
value gets through every chain (`stages_eq_handedOn_iff`).
-/
namespace TrackerSearch.Filter

open TrackerSearch.Text

variable {spec : FilterSpec} {specs : List FilterSpec} {f : FilterName} {args : List String}
  {v : List Char} {e : Fault} {α β : Type}

/-! ## Stages -/

/-- What a stage hands on: what its filter makes of the value, or else the value itself. -/
def handOn (v : List Char) (spec : FilterSpec) : List Char :=
  match spec.kind with
  | .unknown _ => v
  | .known f =>
    match evaluate f spec.args (some v) with
    | .ok (some w) => w
    | _ => v

/-- What a stage reports: a filter that is unknown, or one that cannot be evaluated. -/
def remarks (v : List Char) (spec : FilterSpec) : List Event :=
  match spec.kind with
  | .unknown _ => [.filterUnknown]
  | .known f =>
    match evaluate f spec.args (some v) with
    | .ok _ => []
    | .error _ => [.filterFailed]

/-- The values that the stages of a chain hand on. -/
def handedOn (v : List Char) : List FilterSpec → List (List Char)
  | [] => []
  | spec :: specs => handOn v spec :: handedOn (handOn v spec) specs

/-- What the stages of a chain report, in order. -/
def allRemarks (v : List Char) : List FilterSpec → List Event
  | [] => []
  | spec :: specs => remarks v spec ++ allRemarks (handOn v spec) specs

/-! ## Stages that break a chain -/

/-- The pattern of a filter repeats something too often. A replacement is not looked at when it is
missing. -/
def RepeatsTooOften (spec : FilterSpec) : Prop :=
  (spec.kind = .known .regexp ∨ spec.kind = .known .reReplace ∧ 2 ≤ spec.args.length) ∧
    ∃ pattern ∈ spec.args[0]?, Regex.Pattern.compile pattern.toList = .error .countTooLarge

/-- A `regexp` with groups matches, and the first group takes no part in the match. -/
def LeavesGroupOut (spec : FilterSpec) (v : List Char) : Prop :=
  spec.kind = .known .regexp ∧ ∃ pattern ∈ spec.args[0]?, ∃ p m,
    Regex.Pattern.compile pattern.toList = .ok p ∧ p.groups ≠ 0 ∧ p.search v = some m ∧
      m.group? v 1 = none

/-- A stage that ends the chain, or that leaves no value. -/
def Breaks (v : List Char) (spec : FilterSpec) : Prop :=
  RepeatsTooOften spec ∨ LeavesGroupOut spec v

/-- No stage of a chain breaks it at the value that it is handed. -/
def Unbroken (v : List Char) : List FilterSpec → Prop
  | [] => True
  | spec :: specs => ¬Breaks v spec ∧ Unbroken (handOn v spec) specs

/-! ## Evaluation -/

theorem bind_ne_error {ε : Type} {x : Except ε α} {g : α → Except ε β} {e : ε}
    (hx : x ≠ .error e) (hg : ∀ a, g a ≠ .error e) : x >>= g ≠ .error e := by
  cases x with
  | error e' =>
    intro h
    exact hx (by cases h; rfl)
  | ok a => exact hg a

/-- A computation that fails only in ways that a chain forgives. -/
def Forgiving (x : Except Fault α) : Prop := ∀ e, isForgiven e = false → x ≠ .error e

theorem forgiving_ok (a : α) : Forgiving (.ok a : Except Fault α) := by
  intro e _ h
  cases h

theorem forgiving_error (h : isForgiven e = true) : Forgiving (.error e : Except Fault α) := by
  intro e' he h'
  cases h'
  rw [h] at he
  cases he

theorem Forgiving.bind {x : Except Fault α} {g : α → Except Fault β} (hx : Forgiving x)
    (hg : ∀ a, Forgiving (g a)) : Forgiving (x >>= g) :=
  fun e he => bind_ne_error (hx e he) fun a => hg a e he

theorem forgiving_arg (args : List String) (n : Nat) : Forgiving (arg args n) := by
  unfold arg
  split
  · exact forgiving_ok _
  · exact forgiving_error rfl

theorem forgiving_pick (items : List α) (index : Int) : Forgiving (pick items index) := by
  unfold pick
  dsimp only
  split
  · exact forgiving_ok _
  · exact forgiving_error rfl

theorem forgiving_splitPiece (v : List Char) (args : List String) :
    Forgiving (splitPiece v args) := by
  unfold splitPiece
  refine (forgiving_arg args 0).bind fun sep => ?_
  dsimp only
  split
  · exact forgiving_error rfl
  · split
    · exact (forgiving_ok 0).bind fun i => forgiving_pick _ i
    · split
      · exact (forgiving_ok _).bind fun i => forgiving_pick _ i
      · exact (forgiving_error rfl).bind fun i => forgiving_pick _ i

theorem forgiving_queryValue (v : List Char) (args : List String) :
    Forgiving (queryValue (some v) args) := by
  unfold queryValue
  dsimp only
  split
  · exact (forgiving_ok _).bind fun _ => (forgiving_arg args 0).bind fun _ => forgiving_ok _
  · exact (forgiving_error rfl).bind fun _ => (forgiving_arg args 0).bind fun _ => forgiving_ok _

/-- A computation that gives a value or fails in a way that a chain forgives. -/
def Yields (x : Except Fault (Option (List Char))) : Prop := Forgiving x ∧ x ≠ .ok none

theorem yields_some (w : List Char) : Yields (.ok (some w)) := ⟨forgiving_ok _, by simp⟩

theorem Yields.bind {x : Except Fault α} {g : α → Except Fault (Option (List Char))}
    (hx : Forgiving x) (hg : ∀ a, Yields (g a)) : Yields (x >>= g) := by
  refine ⟨hx.bind fun a => (hg a).1, ?_⟩
  cases x with
  | error e =>
    intro h
    cases h
  | ok a => exact (hg a).2

/-- A filter that compiles no pattern gives a value or is forgiven. -/
theorem yields_evaluate (hregexp : f ≠ .regexp) (hreplace : f ≠ .reReplace) (args : List String)
    (v : List Char) : Yields (evaluate f args (some v)) := by
  have hpresent : Forgiving (present (some v)) := forgiving_ok v
  cases f with
  | reReplace => exact absurd rfl hreplace
  | regexp => exact absurd rfl hregexp
  | replace =>
    exact .bind hpresent fun _ => .bind (forgiving_arg args 0) fun _ =>
      .bind (forgiving_arg args 1) fun _ => yields_some _
  | trim =>
    refine .bind hpresent fun _ => ?_
    cases args <;> exact yields_some _
  | prepend => exact .bind (forgiving_arg args 0) fun _ => .bind hpresent fun _ => yields_some _
  | append => exact .bind (forgiving_arg args 0) fun _ => .bind hpresent fun _ => yields_some _
  | toLower => exact .bind hpresent fun _ => yields_some _
  | toUpper => exact .bind hpresent fun _ => yields_some _
  | split =>
    exact .bind hpresent fun v => .bind (forgiving_splitPiece v args) fun _ => yields_some _
  | queryString => exact .bind (forgiving_queryValue v args) fun _ => yields_some _
  | urlDecode => exact .bind hpresent fun _ => yields_some _
  | urlEncode => exact .bind hpresent fun _ => yields_some _

/-! ### Patterns -/

theorem isForgiven_ofPattern {e : Regex.PatternError} :
    isForgiven (Fault.ofPattern e) = false ↔ e = .countTooLarge := by
  cases e <;> decide

theorem groupOf_ne_countTooLarge (p : Regex.Pattern) (name : List Char) :
    p.groupOf name ≠ .error .countTooLarge := by
  unfold Regex.Pattern.groupOf
  split
  · split <;> simp
  · split
    · split <;> simp
    · simp

/-- A replacement holds no counts that could be too large. -/
theorem readPieces_ne_countTooLarge (p : Regex.Pattern) (s : List Char) :
    p.readPieces s ≠ .error .countTooLarge := by
  fun_induction Regex.Pattern.readPieces p s with
  | case1 => simp
  | case2 s ih => exact bind_ne_error ih fun _ => by simp [pure, Except.pure]
  | case3 s ih =>
    refine bind_ne_error (groupOf_ne_countTooLarge p _) fun n => ?_
    split
    · simp [throw, throwThe, MonadExceptOf.throw]
    · rename_i hrest
      exact bind_ne_error (ih _ _ hrest) fun _ => by simp [pure, Except.pure]
  | case4 => simp [throw, throwThe, MonadExceptOf.throw]
  | case5 c s _ _ _ ih => exact bind_ne_error ih fun _ => by simp [pure, Except.pure]

/-- A pattern that cannot be compiled is the fault of a `regexp`; otherwise its value is the first
group of the first match, if that took part. -/
theorem evaluate_regexp (pattern : String) (rest : List String) (v : List Char) :
    evaluate .regexp (pattern :: rest) (some v) =
      match Regex.Pattern.compile pattern.toList with
      | .error e => .error (.ofPattern e)
      | .ok p =>
        match p.search v with
        | none => .ok (some [])
        | some m => .ok (m.group? v (if p.groups = 0 then 0 else 1)) := by
  simp only [evaluate, firstMatch, arg, present, List.getElem?_cons_zero, bind, Except.bind]
  cases Regex.Pattern.compile pattern.toList with
  | error e => rfl
  | ok p =>
    simp only [mapError_ok]
    cases p.search v <;> rfl

/-- So is a replacement that does not fit the pattern in a `re_replace`. -/
theorem evaluate_reReplace (pattern replacement : String) (rest : List String) (v : List Char) :
    evaluate .reReplace (pattern :: replacement :: rest) (some v) =
      match Regex.Pattern.compile pattern.toList with
      | .error e => .error (.ofPattern e)
      | .ok p =>
        match p.readPieces (Regex.expandReferences replacement.toList) with
        | .error e => .error (.ofPattern e)
        | .ok pieces => .ok (some (p.replaceMatches pieces v)) := by
  simp only [evaluate, reReplace, arg, present, List.getElem?_cons_zero, List.getElem?_cons_succ,
    bind, Except.bind]
  cases Regex.Pattern.compile pattern.toList with
  | error e => rfl
  | ok p =>
    simp only [mapError_ok]
    cases p.readPieces (Regex.expandReferences replacement.toList) <;> rfl

/-! ## One stage -/

theorem ofPattern_eq_iff {e' : Regex.PatternError} (he : isForgiven e = false) :
    Fault.ofPattern e' = e ↔ e' = .countTooLarge ∧ e = .tooLarge := by
  constructor
  · rintro rfl
    obtain rfl := isForgiven_ofPattern.mp he
    exact ⟨rfl, rfl⟩
  · rintro ⟨rfl, rfl⟩
    rfl

theorem outOfRange_ne (he : isForgiven e = false) :
    (.error .outOfRange : Except Fault α) ≠ .error e := by
  intro h
  cases h
  cases he

/-- The one way in which a `regexp` fails for good. -/
theorem evaluate_regexp_eq_error_iff (he : isForgiven e = false) :
    evaluate .regexp args (some v) = .error e ↔
      e = .tooLarge ∧ RepeatsTooOften ⟨.known .regexp, args⟩ := by
  cases args with
  | nil =>
    have hnone : evaluate .regexp [] (some v) = .error .outOfRange := rfl
    rw [hnone]
    simp [RepeatsTooOften, outOfRange_ne he]
  | cons pattern rest =>
    have hrepeats : RepeatsTooOften ⟨.known .regexp, pattern :: rest⟩ ↔
        Regex.Pattern.compile pattern.toList = .error .countTooLarge := by
      simp [RepeatsTooOften]
    rw [evaluate_regexp, hrepeats]
    cases Regex.Pattern.compile pattern.toList with
    | error e' => simp [ofPattern_eq_iff he, and_comm]
    | ok p =>
      dsimp only
      cases p.search v <;> simp

/-- The one way in which a `re_replace` fails for good. -/
theorem evaluate_reReplace_eq_error_iff (he : isForgiven e = false) :
    evaluate .reReplace args (some v) = .error e ↔
      e = .tooLarge ∧ RepeatsTooOften ⟨.known .reReplace, args⟩ := by
  match args with
  | [] =>
    have hnone : evaluate .reReplace [] (some v) = .error .outOfRange := rfl
    rw [hnone]
    simp [RepeatsTooOften, outOfRange_ne he]
  | [pattern] =>
    have hnone : evaluate .reReplace [pattern] (some v) = .error .outOfRange := rfl
    rw [hnone]
    simp [RepeatsTooOften, outOfRange_ne he]
  | pattern :: replacement :: rest =>
    have hrepeats : RepeatsTooOften ⟨.known .reReplace, pattern :: replacement :: rest⟩ ↔
        Regex.Pattern.compile pattern.toList = .error .countTooLarge := by
      simp [RepeatsTooOften]
    rw [evaluate_reReplace, hrepeats]
    cases Regex.Pattern.compile pattern.toList with
    | error e' => simp [ofPattern_eq_iff he, and_comm]
    | ok p =>
      have hpieces := readPieces_ne_countTooLarge p (Regex.expandReferences replacement.toList)
      dsimp only
      cases hp : p.readPieces (Regex.expandReferences replacement.toList) with
      | error e' =>
        have hne : e' ≠ .countTooLarge := fun h => hpieces (by rw [hp, h])
        simp [ofPattern_eq_iff he, hne]
      | ok pieces => simp

/-- The one way in which a filter fails for good. -/
theorem evaluate_eq_error_iff (he : isForgiven e = false) :
    evaluate f args (some v) = .error e ↔
      e = .tooLarge ∧ RepeatsTooOften ⟨.known f, args⟩ := by
  by_cases hregexp : f = .regexp
  · rw [hregexp]
    exact evaluate_regexp_eq_error_iff he
  · by_cases hreplace : f = .reReplace
    · rw [hreplace]
      exact evaluate_reReplace_eq_error_iff he
    · constructor
      · intro h
        exact absurd h ((yields_evaluate hregexp hreplace args v).1 e he)
      · rintro ⟨-, hkind | ⟨hkind, -⟩, -⟩
        · exact absurd (FilterKind.known.inj hkind) hregexp
        · exact absurd (FilterKind.known.inj hkind) hreplace

theorem evaluate_reReplace_ne_none : evaluate .reReplace args (some v) ≠ .ok none := by
  show (do return some (← reReplace (some v) args)) ≠ _
  cases reReplace (some v) args <;> simp [bind, Except.bind, pure, Except.pure]

/-- The one way in which a filter leaves no value. -/
theorem evaluate_eq_none_iff :
    evaluate f args (some v) = .ok none ↔ LeavesGroupOut ⟨.known f, args⟩ v := by
  by_cases hregexp : f = .regexp
  · subst hregexp
    cases args with
    | nil =>
      have hnone : evaluate .regexp [] (some v) = .error .outOfRange := rfl
      rw [hnone]
      simp [LeavesGroupOut]
    | cons pattern rest =>
      rw [evaluate_regexp]
      cases hp : Regex.Pattern.compile pattern.toList with
      | error e' => simp [LeavesGroupOut, hp]
      | ok p =>
        dsimp only
        cases hm : p.search v with
        | none => simp [LeavesGroupOut, hp, hm]
        | some m =>
          by_cases hg : p.groups = 0
          · simp [LeavesGroupOut, hp, hg, Regex.Found.group?]
          · simp [LeavesGroupOut, hp, hg, hm]
  · have hnot : ¬LeavesGroupOut ⟨.known f, args⟩ v :=
      fun h => hregexp (FilterKind.known.inj h.1)
    have hne : evaluate f args (some v) ≠ .ok none := by
      by_cases hreplace : f = .reReplace
      · rw [hreplace]
        exact evaluate_reReplace_ne_none
      · exact (yields_evaluate hregexp hreplace args v).2
    exact iff_of_false hne hnot

theorem apply_of_not_breaks (h : ¬Breaks v spec) :
    apply spec (some v) = ⟨.ok (some (handOn v spec)), remarks v spec⟩ := by
  obtain ⟨kind, args⟩ := spec
  simp only [Breaks, not_or] at h
  cases kind with
  | unknown raw => rfl
  | known f =>
    simp only [apply, handOn, remarks]
    cases he : evaluate f args (some v) with
    | ok w =>
      cases w with
      | none => exact absurd (evaluate_eq_none_iff.mp he) h.2
      | some w => rfl
    | error e =>
      cases hf : isForgiven e with
      | false => exact absurd ((evaluate_eq_error_iff hf).mp he).2 h.1
      | true => exact if_pos hf

theorem apply_of_repeatsTooOften (h : RepeatsTooOften spec) :
    apply spec (some v) = throw .tooLarge := by
  obtain ⟨kind, args⟩ := spec
  obtain ⟨f, rfl⟩ : ∃ f, kind = .known f := by
    rcases h.1 with hk | ⟨hk, -⟩ <;> exact ⟨_, hk⟩
  have he : evaluate f args (some v) = .error .tooLarge :=
    (evaluate_eq_error_iff rfl).mpr ⟨rfl, h⟩
  simp only [apply, he]
  rfl

theorem apply_of_leavesGroupOut (h : LeavesGroupOut spec v) : apply spec (some v) = pure none := by
  obtain ⟨kind, args⟩ := spec
  obtain rfl : kind = .known .regexp := h.1
  simp only [apply, evaluate_eq_none_iff.mpr h]

/-! ## Chains -/

theorem applyAll_of_unbroken (h : Unbroken v specs) :
    applyAll specs (some v) = ⟨.ok (some (specs.foldl handOn v)), allRemarks v specs⟩ := by
  induction specs generalizing v with
  | nil => rfl
  | cons spec specs ih =>
    simp only [applyAll, apply_of_not_breaks h.1, bind, ih h.2, List.foldl_cons, allRemarks]

theorem stages_of_unbroken (h : Unbroken v specs) :
    (stages specs (some v)).outcome = .ok ((handedOn v specs).map some) := by
  induction specs generalizing v with
  | nil => rfl
  | cons spec specs ih =>
    simp only [stages, Traced.outcome_bind, apply_of_not_breaks h.1, Except.bind, ih h.2]
    rfl

/-- Where every stage hands a text on, no stage breaks the chain. -/
theorem unbroken_of_stages {ws : List (List Char)}
    (h : (stages specs (some v)).outcome = .ok (ws.map some)) : Unbroken v specs := by
  induction specs generalizing v ws with
  | nil => exact trivial
  | cons spec specs ih =>
    simp only [stages, Traced.outcome_bind_eq_ok, Traced.outcome_pure, Except.ok.injEq] at h
    obtain ⟨w, hw, rest, hrest, hws⟩ := h
    obtain ⟨x, ws, rfl, rfl, rfl⟩ := List.map_eq_cons_iff.mp hws.symm
    have hbreaks : ¬Breaks v spec := by
      rintro (hb | hb)
      · rw [apply_of_repeatsTooOften hb] at hw
        cases hw
      · rw [apply_of_leavesGroupOut hb] at hw
        cases hw
    rw [apply_of_not_breaks hbreaks] at hw
    cases hw
    exact ⟨hbreaks, ih hrest⟩

/-- A value gets through a chain, stage by stage and as a text, exactly if no stage breaks the chain;
then every stage that cannot be evaluated hands on what it was handed, and reports it. -/
theorem stages_eq_handedOn_iff (specs : List FilterSpec) (v : List Char) :
    (∀ ws : List (List Char), (stages specs (some v)).outcome = .ok (ws.map some) ↔
      Unbroken v specs ∧ ws = handedOn v specs) ∧
    (Unbroken v specs →
      applyAll specs (some v) = ⟨.ok (some (specs.foldl handOn v)), allRemarks v specs⟩) := by
  refine ⟨fun ws => ⟨fun h => ?_, ?_⟩, applyAll_of_unbroken⟩
  · have hu := unbroken_of_stages h
    rw [stages_of_unbroken hu] at h
    exact ⟨hu, ((List.map_inj_right fun _ _ => Option.some.inj).mp (Except.ok.inj h)).symm⟩
  · rintro ⟨hu, rfl⟩
    exact stages_of_unbroken hu

/-- A pattern with a group that is left out, and one that repeats something too often. -/
def letterOrNot : FilterSpec := ⟨.known .regexp, ["(a)|b"]⟩
def tooManyLetters : FilterSpec := ⟨.known .reReplace, ["b{4294967295}", "c"]⟩

/-- Neither of two chains gives a text: the first leaves none, the second fails. -/
theorem applyAll_without_text :
    (applyAll [letterOrNot] (some ['b'])).outcome = .ok none ∧
    (applyAll [tooManyLetters] (some ['b'])).outcome = .error .tooLarge := by
  decide +kernel

end TrackerSearch.Filter
