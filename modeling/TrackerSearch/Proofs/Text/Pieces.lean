import TrackerSearch.Text.Pieces

/-!
# Leading texts and first occurrences

A text starts with another one exactly when it is a prefix of it. A doubled character is first found
where it is put, unless the text in front holds it already or brings along half of it.
-/
namespace TrackerSearch.Text

variable {c d : Char} {lead sep s t : List Char}

theorem dropLead?_eq_some_iff : dropLead? lead s = some t ↔ s = lead ++ t := by
  induction lead generalizing s with
  | nil => simp [dropLead?]
  | cons c lead ih =>
    cases s with
    | nil => simp [dropLead?]
    | cons d s =>
      simp only [dropLead?, List.cons_append, List.cons.injEq]
      by_cases hd : c = d
      · rw [if_pos hd, ih]
        exact ⟨fun h => ⟨hd.symm, h⟩, And.right⟩
      · rw [if_neg hd]
        constructor
        · intro h
          cases h
        · exact fun h => absurd h.1.symm hd

theorem startsWith_iff : startsWith lead s = true ↔ ∃ t, s = lead ++ t := by
  simp only [startsWith, Option.isSome_iff_exists, dropLead?_eq_some_iff]

/-! ## Occurrences -/

theorem cutAt?_cons_eq_none :
    cutAt? sep (c :: s) = none ↔ dropLead? sep (c :: s) = none ∧ cutAt? sep s = none := by
  rw [cutAt?]
  cases dropLead? sep (c :: s) with
  | none => simp
  | some t => simp

/-- Cutting fails where there is nothing to be found. -/
theorem cutAt?_eq_none_iff (hne : sep ≠ []) : cutAt? sep s = none ↔ ¬sep <:+: s := by
  induction s with
  | nil => simp [cutAt?, hne]
  | cons c s ih =>
    have hlead : dropLead? sep (c :: s) = none ↔ ¬sep <+: c :: s := by
      simp only [Option.eq_none_iff_forall_ne_some, ne_eq, dropLead?_eq_some_iff, List.IsPrefix,
        not_exists]
      exact forall_congr' fun t => not_congr eq_comm
    rw [cutAt?_cons_eq_none, hlead, ih, List.infix_cons_iff, not_or]

/-- Cutting finds the first occurrence. -/
theorem cutAt?_eq_some {pre post : List Char} (hne : sep ≠ [])
    (h : cutAt? sep s = some (pre, post)) :
    s = pre ++ sep ++ post ∧ ¬sep <:+: pre ++ sep.dropLast := by
  induction s generalizing pre with
  | nil => simp [cutAt?, hne] at h
  | cons c s ih =>
    rw [cutAt?] at h
    cases hlead : dropLead? sep (c :: s) with
    | some rest =>
      rw [hlead] at h
      obtain ⟨rfl, rfl⟩ := Prod.mk.inj (Option.some.inj h)
      refine ⟨dropLead?_eq_some_iff.mp hlead, fun hsep => ?_⟩
      have hlen := hsep.length_le
      have hpos := List.length_pos_iff.mpr hne
      simp only [List.nil_append, List.length_dropLast] at hlen
      omega
    | none =>
      rw [hlead] at h
      obtain ⟨⟨pre', post'⟩, hcut, heq⟩ := Option.map_eq_some_iff.mp h
      obtain ⟨rfl, rfl⟩ := Prod.mk.inj heq
      obtain ⟨hs, hfirst⟩ := ih hcut
      refine ⟨by rw [hs]; rfl, fun hsep => ?_⟩
      rcases List.infix_cons_iff.mp hsep with ⟨t, ht⟩ | hsep
      · -- An occurrence in front would have been found.
        have hfront : c :: s = sep ++ (t ++ sep.getLast hne :: post') := by
          calc c :: s = c :: (pre' ++ (sep.dropLast ++ [sep.getLast hne]) ++ post') := by
                rw [hs, List.dropLast_concat_getLast]
            _ = c :: (pre' ++ sep.dropLast) ++ sep.getLast hne :: post' := by simp
            _ = sep ++ (t ++ sep.getLast hne :: post') := by
                rw [← List.append_assoc]
                exact congrArg (· ++ _) ht.symm
        rw [dropLead?_eq_some_iff.mpr hfront] at hlead
        cases hlead
      · exact hfirst hsep

/-! ## Two characters -/

theorem dropLead?_pair_eq_none {e : Char} :
    dropLead? [c, e] (d :: s) = none ↔ d ≠ c ∨ s.head? ≠ some e := by
  cases s with
  | nil => by_cases hd : c = d <;> simp [dropLead?, hd]
  | cons e' s =>
    by_cases hd : c = d
    · by_cases he : e = e'
      · simp [dropLead?, ← hd, ← he]
      · simp [dropLead?, ← hd, he, Ne.symm he]
    · simp [dropLead?, hd, Ne.symm hd]

/-- What follows a text without the doubled character does not complete one, unless the text ends
with a single one. -/
theorem dropLead?_pair_append (hno : cutAt? [c, c] (d :: s) = none)
    (hlast : (d :: s).getLast? ≠ some c) (t : List Char) :
    dropLead? [c, c] (d :: (s ++ t)) = none := by
  cases s with
  | nil => exact dropLead?_pair_eq_none.mpr (.inl fun hd => hlast (by rw [hd]; rfl))
  | cons e s =>
    have hpair := dropLead?_pair_eq_none.mp (cutAt?_cons_eq_none.mp hno).1
    exact dropLead?_pair_eq_none.mpr hpair

theorem getLast?_tail_ne (hlast : (d :: s).getLast? ≠ some c) : s.getLast? ≠ some c := by
  cases s with
  | nil => simp
  | cons e s => rwa [List.getLast?_cons_cons] at hlast

/-- The doubled character is found behind a text that neither holds it nor ends with one of it. -/
theorem cutAt?_pair (hno : cutAt? [c, c] s = none) (hlast : s.getLast? ≠ some c) (t : List Char) :
    cutAt? [c, c] (s ++ c :: c :: t) = some (s, t) := by
  induction s with
  | nil => simp [cutAt?, dropLead?]
  | cons d s ih =>
    rw [List.cons_append, cutAt?, dropLead?_pair_append hno hlast,
      ih (cutAt?_cons_eq_none.mp hno).2 (getLast?_tail_ne hlast)]
    rfl

/-- No doubled character arises where two texts meet. -/
theorem cutAt?_pair_append (hs : cutAt? [c, c] s = none) (hlast : s.getLast? ≠ some c)
    (ht : cutAt? [c, c] t = none) : cutAt? [c, c] (s ++ t) = none := by
  induction s with
  | nil => exact ht
  | cons d s ih =>
    rw [List.cons_append, cutAt?_cons_eq_none]
    exact ⟨dropLead?_pair_append hs hlast t,
      ih (cutAt?_cons_eq_none.mp hs).2 (getLast?_tail_ne hlast)⟩

/-- A doubled character is on one side of where two texts meet, or it arises there. -/
theorem pair_infix_append_iff :
    [c, c] <:+: s ++ t ↔
      [c, c] <:+: s ∨ [c, c] <:+: t ∨ (s.getLast? = some c ∧ t.head? = some c) := by
  induction s with
  | nil => simp
  | cons d s ih =>
    rw [List.cons_append, List.infix_cons_iff, ih, List.infix_cons_iff]
    cases s with
    | nil =>
      cases t with
      | nil => simp
      | cons e t =>
        simp only [List.cons_prefix_cons, List.prefix_nil, List.head?_cons,
          List.getLast?_singleton, Option.some.injEq]
        grind
    | cons e s => simp [or_assoc]

theorem cutAt?_pair_of_not_mem (h : c ∉ s) : cutAt? [c, c] s = none := by
  induction s with
  | nil => rfl
  | cons d s ih =>
    simp only [List.mem_cons, not_or] at h
    exact cutAt?_cons_eq_none.mpr ⟨dropLead?_pair_eq_none.mpr (.inl (Ne.symm h.1)), ih h.2⟩

/-! ## Up to a character -/

/-- A run of characters ends where the first other one stands, or with the text. -/
theorem takeWhile_dropWhile_append {p : Char → Bool} (hs : ∀ c ∈ s, p c = true)
    (ht : ∀ c ∈ t.head?, p c = false) :
    (s ++ t).takeWhile p = s ∧ (s ++ t).dropWhile p = t := by
  rw [List.takeWhile_append_of_pos hs, List.dropWhile_append_of_pos hs]
  cases t with
  | nil => simp
  | cons c t => simp [ht c rfl]

theorem forall_bne_of_not_mem {c : Char} (h : c ∉ s) : ∀ x ∈ s, (x != c) = true := by
  intro x hx
  rw [bne_iff_ne]
  rintro rfl
  exact h hx

theorem takeWhile_ne_append {c : Char} (h : c ∉ s) (t : List Char) :
    (s ++ c :: t).takeWhile (· != c) = s := by
  rw [List.takeWhile_append_of_pos (forall_bne_of_not_mem h)]
  simp

theorem dropWhile_ne_append {c : Char} (h : c ∉ s) (t : List Char) :
    (s ++ c :: t).dropWhile (· != c) = c :: t := by
  rw [List.dropWhile_append_of_pos (forall_bne_of_not_mem h)]
  simp

/-- What stands behind a character that ends the run is not looked at. -/
theorem takeWhile_append_cons {p : Char → Bool} (hc : p c = false) (s t : List Char) :
    (s ++ c :: t).takeWhile p = s.takeWhile p := by
  induction s with
  | nil => exact List.takeWhile_cons_of_neg (by simp [hc])
  | cons d s ih =>
    rw [List.cons_append, List.takeWhile_cons, List.takeWhile_cons, ih]

theorem dropWhile_append_cons {p : Char → Bool} (hc : p c = false) (s t : List Char) :
    (s ++ c :: t).dropWhile p = s.dropWhile p ++ c :: t := by
  induction s with
  | nil => exact List.dropWhile_cons_of_neg (by simp [hc])
  | cons d s ih =>
    rw [List.cons_append, List.dropWhile_cons, List.dropWhile_cons, ih]
    split <;> rfl

/-! ## Pieces -/

theorem splitBy_ne_nil (p : Char → Bool) (s : List Char) : splitBy p s ≠ [] := by
  cases s with
  | nil => simp [splitBy]
  | cons c s =>
    rw [splitBy]
    split
    · simp
    · split <;> simp

/-- A text without a separator is one piece. -/
theorem splitBy_of_none {p : Char → Bool} (h : ∀ c ∈ s, p c = false) : splitBy p s = [s] := by
  induction s with
  | nil => rfl
  | cons c s ih =>
    obtain ⟨hc, hs⟩ := List.forall_mem_cons.mp h
    rw [splitBy, hc, ih hs]
    rfl

/-- What stands on the two sides of a separator is split by itself. -/
theorem splitBy_append {p : Char → Bool} (hc : p c = true) (s t : List Char) :
    splitBy p (s ++ c :: t) = splitBy p s ++ splitBy p t := by
  induction s with
  | nil =>
    simp only [List.nil_append, splitBy, hc, if_true, List.singleton_append]
  | cons d s ih =>
    rw [List.cons_append, splitBy, ih, splitBy]
    by_cases hd : p d = true
    · rw [if_pos hd, if_pos hd, List.cons_append]
    · rw [if_neg hd, if_neg hd]
      obtain ⟨piece, rest, hsplit⟩ := List.exists_cons_of_ne_nil (splitBy_ne_nil p s)
      rw [hsplit]
      rfl

/-- No piece holds a separator. -/
theorem of_mem_splitBy {p : Char → Bool} {piece : List Char} (h : piece ∈ splitBy p s) :
    ∀ c ∈ piece, p c = false := by
  induction s generalizing piece with
  | nil =>
    obtain rfl := List.mem_singleton.mp h
    simp
  | cons c s ih =>
    rw [splitBy] at h
    split at h
    · rcases List.mem_cons.mp h with rfl | hrest
      · simp
      · exact ih hrest
    · rename_i hc
      obtain ⟨first, rest, hsplit⟩ := List.exists_cons_of_ne_nil (splitBy_ne_nil p s)
      rw [hsplit] at h ih
      rcases List.mem_cons.mp h with rfl | hrest
      · exact List.forall_mem_cons.mpr ⟨Bool.eq_false_iff.mpr hc, ih List.mem_cons_self⟩
      · exact ih (List.mem_cons_of_mem first hrest)

/-- Separators at the start give empty pieces. -/
theorem splitBy_replicate_append {p : Char → Bool} (hc : p c = true) (n : Nat) (s : List Char) :
    splitBy p (List.replicate n c ++ s) = List.replicate n [] ++ splitBy p s := by
  induction n with
  | zero => rfl
  | succ n ih => rw [List.replicate_succ, List.cons_append, splitBy, if_pos hc, ih]; rfl

theorem joinWith_cons {piece : List Char} {pieces : List (List Char)} (h : pieces ≠ []) :
    joinWith sep (piece :: pieces) = piece ++ sep ++ joinWith sep pieces := by
  cases pieces with
  | nil => exact absurd rfl h
  | cons _ _ => rfl

/-- Joined pieces start with the first of them. -/
theorem prefix_joinWith (sep piece : List Char) (pieces : List (List Char)) :
    piece <+: joinWith sep (piece :: pieces) := by
  cases pieces with
  | nil => exact List.prefix_refl piece
  | cons next pieces =>
    rw [joinWith_cons (List.cons_ne_nil next pieces), List.append_assoc]
    exact List.prefix_append piece _

theorem joinWith_eq_intercalate (sep : List Char) (pieces : List (List Char)) :
    joinWith sep pieces = sep.intercalate pieces := by
  induction pieces with
  | nil => rfl
  | cons piece pieces ih =>
    cases pieces with
    | nil => simp [joinWith]
    | cons next pieces =>
      rw [joinWith_cons (List.cons_ne_nil next pieces), ih,
        List.intercalate_cons_of_ne_nil (List.cons_ne_nil next pieces)]

/-- Joined pieces without the separator in them are split as they were. -/
theorem splitBy_joinWith {pieces : List (List Char)} (hne : pieces ≠ [])
    (h : ∀ piece ∈ pieces, c ∉ piece) :
    splitBy (fun x => x == c) (joinWith [c] pieces) = pieces := by
  have hnone (piece : List Char) (hpiece : c ∉ piece) : ∀ x ∈ piece, (x == c) = false :=
    fun x hx => beq_eq_false_iff_ne.mpr fun he => hpiece (he ▸ hx)
  induction pieces with
  | nil => exact absurd rfl hne
  | cons piece pieces ih =>
    obtain ⟨hpiece, hpieces⟩ := List.forall_mem_cons.mp h
    cases pieces with
    | nil => exact splitBy_of_none (hnone piece hpiece)
    | cons next pieces =>
      rw [joinWith_cons (List.cons_ne_nil next pieces), List.append_assoc, List.singleton_append,
        splitBy_append (p := fun x => x == c) (beq_self_eq_true c),
        splitBy_of_none (hnone piece hpiece), ih (List.cons_ne_nil next pieces) hpieces]
      rfl

end TrackerSearch.Text
