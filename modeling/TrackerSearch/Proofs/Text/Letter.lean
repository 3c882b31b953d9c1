import TrackerSearch.Proofs.Text.Pieces
import TrackerSearch.Text.Letter

/-!
# Lower case and leading texts

What a lower-cased text starts with can be read off the text itself, as long as only ASCII letters
become the letters in question: `i` and `k` are also the lower case of other characters.
-/
namespace TrackerSearch.Text

variable {lead s : List Char}

/-- A property of the ASCII characters is checked on each of them. -/
theorem forall_ascii {p : Char → Prop} (h : ∀ n < 128, p (Char.ofNat n)) {c : Char}
    (hc : c.toNat < 128) : p c := by
  have := h c.toNat hc
  rwa [Char.ofNat_toNat] at this

/-- A property of the characters of a text is checked on each of them. -/
theorem forall_mem_of_all {p : Char → Prop} [DecidablePred p]
    (h : s.all (fun c => decide (p c)) = true) : ∀ c ∈ s, p c := by
  simpa only [List.all_eq_true, decide_eq_true_eq] using h

/-- Every character is ASCII. -/
def IsAscii (s : List Char) : Prop := ∀ c ∈ s, c.toNat < 128

/-- An ASCII character that is its own lower case, and the lower case of ASCII characters only. -/
def IsPlain (x : Char) : Prop :=
  0 < x.toNat ∧ x.toNat < 128 ∧ x.toLower = x ∧ x ≠ 'i' ∧ x ≠ 'k'

instance (x : Char) : Decidable (IsPlain x) := inferInstanceAs (Decidable (_ ∧ _))

/-- The table leads into ASCII only at the two letters. -/
theorem lowerMap_targets : ∀ r ∈ lowerMap.runs.toList,
    128 ≤ r.target ∨ r.first = r.last ∧ (r.target = 0x69 ∨ r.target = 0x6B) := by
  decide +kernel

theorem lowerMap_apply {n : Nat} (hn : 128 ≤ n) :
    128 ≤ lowerMap.apply n ∨ lowerMap.apply n = 0x69 ∨ lowerMap.apply n = 0x6B := by
  unfold CodeMap.apply
  split
  · rename_i r hr
    have hrange := Array.find?_some hr
    have htarget := lowerMap_targets r (Array.mem_toList_iff.mpr (Array.mem_of_find?_eq_some hr))
    simp only [Bool.and_eq_true, decide_eq_true_eq] at hrange
    omega
  · exact .inl hn

theorem toNat_ofNat_of_ne_zero {n : Nat} (h : (Char.ofNat n).toNat ≠ 0) :
    (Char.ofNat n).toNat = n := by
  by_cases hn : n.isValidChar
  · have hchar : Char.ofNat n = Char.ofNatAux n hn := dif_pos hn
    rw [hchar]
    rfl
  · have hchar : Char.ofNat n = '\x00' := dif_neg hn
    rw [hchar] at h
    exact absurd rfl h

/-- Only ASCII characters become a plain one. -/
theorem lowerChar_eq_plain {x c : Char} (hx : IsPlain x) :
    lowerChar c = x ↔ c.toNat < 128 ∧ c.toLower = x := by
  obtain ⟨hpos, hlt, _, hi, hk⟩ := hx
  unfold lowerChar
  by_cases hc : c.toNat < 128
  · simp [hc]
  · rw [if_neg hc]
    refine ⟨fun h => ?_, fun h => absurd h.1 hc⟩
    have hnat := toNat_ofNat_of_ne_zero (by rw [h]; omega)
    rw [h] at hnat
    rcases lowerMap_apply (Nat.le_of_not_lt hc) with ha | ha | ha
    · omega
    · rw [ha] at h; exact absurd h.symm hi
    · rw [ha] at h; exact absurd h.symm hk

/-- A lower-cased text begins with a plain character when the text begins with one of its cases. -/
theorem lowerFrom_eq_cons {before rest : List Char} {x : Char} (hx : IsPlain x) :
    lowerFrom before s = x :: rest ↔ ∃ c after, s = c :: after ∧ c.toNat < 128 ∧
      c.toLower = x ∧ lowerFrom (c :: before) after = rest := by
  cases s with
  | nil => simp [lowerFrom]
  | cons c after =>
    simp only [lowerFrom, List.cons.injEq]
    by_cases hsigma : c = 'Σ'
    · subst hsigma
      have hne : ('ς') ≠ x ∧ ('σ') ≠ x := by
        constructor <;> rintro rfl <;> revert hx <;> decide
      constructor
      · rw [if_pos rfl]
        split <;> simp [hne]
      · rintro ⟨_, _, ⟨rfl, _⟩, hlow, _⟩
        exact absurd hlow (by decide)
    · by_cases hdot : c = 'İ'
      · subst hdot
        constructor
        · simp [hx.2.2.2.1.symm]
        · rintro ⟨_, _, ⟨rfl, _⟩, hlow, _⟩
          exact absurd hlow (by decide)
      · rw [if_neg hsigma, if_neg hdot]
        simp only [List.cons_append, List.nil_append, List.cons.injEq, lowerChar_eq_plain hx]
        constructor
        · rintro ⟨⟨hc, hl⟩, hr⟩
          exact ⟨c, after, ⟨rfl, rfl⟩, hc, hl, hr⟩
        · rintro ⟨_, _, ⟨rfl, rfl⟩, hc, hl, hr⟩
          exact ⟨⟨hc, hl⟩, hr⟩

theorem startsWith_lowerFrom {before : List Char} (hlead : ∀ x ∈ lead, IsPlain x) :
    startsWith lead (lowerFrom before s) = true ↔
      ∃ u t, s = u ++ t ∧ IsAscii u ∧ u.map Char.toLower = lead := by
  induction lead generalizing before s with
  | nil =>
    refine ⟨fun _ => ⟨[], s, rfl, by simp [IsAscii], rfl⟩, fun _ => ?_⟩
    exact startsWith_iff.mpr ⟨_, rfl⟩
  | cons x lead ih =>
    obtain ⟨hx, hlead⟩ := List.forall_mem_cons.mp hlead
    have hstep : startsWith (x :: lead) (lowerFrom before s) = true ↔
        ∃ c after, s = c :: after ∧ c.toNat < 128 ∧ c.toLower = x ∧
          startsWith lead (lowerFrom (c :: before) after) = true := by
      simp only [startsWith_iff, List.cons_append, lowerFrom_eq_cons hx]
      constructor
      · rintro ⟨t, c, after, hs, hc, hl, hr⟩; exact ⟨c, after, hs, hc, hl, t, hr⟩
      · rintro ⟨c, after, hs, hc, hl, t, hr⟩; exact ⟨t, c, after, hs, hc, hl, hr⟩
    rw [hstep]
    constructor
    · rintro ⟨c, after, rfl, hc, hl, hr⟩
      obtain ⟨u, t, rfl, hu, hlead⟩ := (ih hlead).mp hr
      refine ⟨c :: u, t, rfl, List.forall_mem_cons.mpr ⟨hc, hu⟩, ?_⟩
      rw [List.map_cons, hl, hlead]
    · rintro ⟨u, t, rfl, hu, hmap⟩
      obtain ⟨c, u, rfl, hl, hmap⟩ := List.map_eq_cons_iff.mp hmap
      obtain ⟨hc, hu⟩ := List.forall_mem_cons.mp hu
      exact ⟨c, u ++ t, rfl, hc, hl, (ih hlead).mpr ⟨u, t, rfl, hu, hmap⟩⟩

/-- A lower-cased text starts with plain characters when the text starts with their cases. -/
theorem startsWith_lower (hlead : ∀ x ∈ lead, IsPlain x) :
    startsWith lead (lower s) = true ↔
      ∃ u t, s = u ++ t ∧ IsAscii u ∧ u.map Char.toLower = lead :=
  startsWith_lowerFrom hlead

theorem lower_of_isAscii (hs : IsAscii s) : lower s = s.map Char.toLower := by
  have hfrom : ∀ before, lowerFrom before s = s.map Char.toLower := by
    induction s with
    | nil => simp [lowerFrom]
    | cons c s ih =>
      intro before
      obtain ⟨hc, hs⟩ := List.forall_mem_cons.mp hs
      have hne : c ≠ 'Σ' ∧ c ≠ 'İ' := by
        constructor <;> rintro rfl <;> revert hc <;> decide
      simp only [lowerFrom, hne.1, hne.2, if_false, lowerChar, hc, if_true, ih hs,
        List.map_cons, List.cons_append, List.nil_append]
  exact hfrom []

end TrackerSearch.Text
