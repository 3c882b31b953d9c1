import Mathlib.Data.List.Basic
import TrackerSearch.Number.Integer
import TrackerSearch.Proofs.Number.Decimal
import TrackerSearch.Proofs.Text.Blank

/-!
# Numerals

`Spells` and `Signed` are the grammar of numerals: digits of any script, with at most one underscore
between two of them, and a sign in front. An integer is read off the texts that write one, which are
numerals with blanks around (`readInt?_eq_some_iff`); a number is read back from its decimal digits,
unless there are too many of them (`readInt?_toDigits`).
-/
namespace TrackerSearch.Number

open Text

variable {s before after : List Char} {ds : List Nat} {c : Char} {n : Nat} {z : Int}

/-! ## Numerals -/

/-- A text spells digits: each stands for itself, with at most one underscore between two. -/
inductive Spells : List Char → List Nat → Prop
  | last {c : Char} {d : Nat} : digitValue? c = some d → Spells [c] [d]
  | digit {c : Char} {d : Nat} {s : List Char} {ds : List Nat} :
      digitValue? c = some d → Spells s ds → Spells (c :: s) (d :: ds)
  | underscored {c : Char} {d : Nat} {s : List Char} {ds : List Nat} :
      digitValue? c = some d → Spells s ds → Spells (c :: '_' :: s) (d :: ds)

/-- The number that digits stand for. -/
def valueOf (ds : List Nat) : Nat := ds.foldl (fun n d => n * 10 + d) 0

theorem digitValue?_underscore : digitValue? '_' = none := by decide

theorem not_spells_of_head (hc : digitValue? c = none) : ¬Spells (c :: s) ds := by
  intro h
  cases h <;> simp_all

/-- What may come next while digits are read: behind a digit also the end or an underscore. -/
def Continues (afterDigit : Bool) (s : List Char) (ds : List Nat) : Prop :=
  Spells s ds ∨ (afterDigit = true ∧ (s = [] ∧ ds = [] ∨ ∃ rest, s = '_' :: rest ∧ Spells rest ds))

theorem continues_digit {d : Nat} {afterDigit : Bool} (hd : digitValue? c = some d) :
    Continues afterDigit (c :: s) ds ↔ ∃ more, ds = d :: more ∧ Continues true s more := by
  have hc : c ≠ '_' := fun h => by
    rw [h, digitValue?_underscore] at hd
    cases hd
  constructor
  · rintro (hs | ⟨-, ⟨hs, -⟩ | ⟨rest, hs, -⟩⟩)
    · cases hs with
      | last hd' => exact ⟨[], by simp_all, .inr ⟨rfl, .inl ⟨rfl, rfl⟩⟩⟩
      | digit hd' hs => exact ⟨_, by simp_all, .inl hs⟩
      | underscored hd' hs => exact ⟨_, by simp_all, .inr ⟨rfl, .inr ⟨_, rfl, hs⟩⟩⟩
    · cases hs
    · exact absurd (List.cons.inj hs).1 hc
  · rintro ⟨more, rfl, hs | ⟨-, ⟨rfl, rfl⟩ | ⟨rest, rfl, hs⟩⟩⟩
    · exact .inl (.digit hd hs)
    · exact .inl (.last hd)
    · exact .inl (.underscored hd hs)

theorem not_continues {afterDigit : Bool} (hd : digitValue? c = none) (hc : c ≠ '_') :
    ¬Continues afterDigit (c :: s) ds := by
  rintro (hs | ⟨-, ⟨hs, -⟩ | ⟨rest, hs, -⟩⟩)
  · exact not_spells_of_head hd hs
  · cases hs
  · exact hc (List.cons.inj hs).1

theorem continues_underscore {afterDigit : Bool} :
    Continues afterDigit ('_' :: s) ds ↔ afterDigit = true ∧ Continues false s ds := by
  constructor
  · rintro (hs | ⟨hafter, ⟨hs, -⟩ | ⟨rest, hs, hrest⟩⟩)
    · exact absurd hs (not_spells_of_head digitValue?_underscore)
    · cases hs
    · exact ⟨hafter, .inl ((List.cons.inj hs).2 ▸ hrest)⟩
  · rintro ⟨rfl, hs | ⟨hfalse, -⟩⟩
    · exact .inr ⟨rfl, .inr ⟨s, rfl, hs⟩⟩
    · cases hfalse

/-- The digits that are read are those that the text spells. -/
theorem readDigits?_eq_some_iff {value count v k : Nat} {afterDigit : Bool} :
    readDigits? value count afterDigit s = some (v, k) ↔ ∃ ds, Continues afterDigit s ds ∧
      v = ds.foldl (fun n d => n * 10 + d) value ∧ k = count + ds.length := by
  -- On the text, for every state of the reader: what is read so far and what may come next.
  induction s generalizing value count afterDigit with
  | nil =>
    cases afterDigit with
    | false =>
      refine ⟨fun h => by simp [readDigits?] at h, ?_⟩
      rintro ⟨ds, hs | ⟨hfalse, -⟩, -⟩
      · cases hs
      · cases hfalse
    | true =>
      constructor
      · intro h
        simp only [readDigits?, if_true, Option.some.injEq, Prod.mk.injEq] at h
        exact ⟨[], .inr ⟨rfl, .inl ⟨rfl, rfl⟩⟩, h.1.symm, h.2.symm⟩
      · rintro ⟨ds, hs | ⟨-, ⟨-, rfl⟩ | ⟨rest, hs, -⟩⟩, rfl, rfl⟩
        · cases hs
        · rfl
        · cases hs
  | cons c s ih =>
    rw [readDigits?]
    split
    · rename_i hc
      subst hc
      cases afterDigit with
      | false => simp [continues_underscore]
      | true => simp only [if_true, ih, continues_underscore, true_and]
    · rename_i hc
      cases hd : digitValue? c with
      | some d =>
        simp only [ih, continues_digit hd]
        constructor
        · rintro ⟨ds, hs, hv, hk⟩
          exact ⟨d :: ds, ⟨ds, rfl, hs⟩, hv, by rw [hk, List.length_cons]; omega⟩
        · rintro ⟨_, ⟨ds, rfl, hs⟩, hv, hk⟩
          exact ⟨ds, hs, hv, by rw [hk, List.length_cons]; omega⟩
      | none =>
        constructor
        · intro h
          cases h
        · rintro ⟨ds, hs, -⟩
          exact absurd hs (not_continues hd hc)

theorem readNat?_eq_some_iff :
    readNat? s = some n ↔ ∃ ds, Spells s ds ∧ ds.length ≤ maxDigits ∧ n = valueOf ds := by
  have hread : ∀ v k, readDigits? 0 0 false s = some (v, k) ↔
      ∃ ds, Spells s ds ∧ v = valueOf ds ∧ k = ds.length := by
    intro v k
    simp only [readDigits?_eq_some_iff, Continues, Bool.false_eq_true, false_and, or_false,
      Nat.zero_add, valueOf]
  rw [readNat?]
  constructor
  · intro h
    split at h
    · rename_i v k hvk
      obtain ⟨ds, hs, rfl, rfl⟩ := (hread v k).mp hvk
      split at h
      · rename_i hle
        exact ⟨ds, hs, hle, (Option.some.inj h).symm⟩
      · cases h
    · cases h
  · rintro ⟨ds, hs, hle, rfl⟩
    rw [(hread _ _).mpr ⟨ds, hs, rfl, rfl⟩]
    exact if_pos hle

/-! ## Numerals with a sign and blanks around -/

/-- A numeral of not too many digits, with or without a sign. -/
inductive Signed : List Char → Int → Prop
  | plain {s : List Char} {ds : List Nat} :
      Spells s ds → ds.length ≤ maxDigits → Signed s (valueOf ds)
  | plus {s : List Char} {ds : List Nat} :
      Spells s ds → ds.length ≤ maxDigits → Signed ('+' :: s) (valueOf ds)
  | minus {s : List Char} {ds : List Nat} :
      Spells s ds → ds.length ≤ maxDigits → Signed ('-' :: s) (-(valueOf ds : Int))

/-- A text writes an integer: it is a signed numeral with nothing but blanks around it. -/
def Writes (s : List Char) (z : Int) : Prop :=
  ∃ before body after, s = before ++ body ++ after ∧ (∀ c ∈ before, isMargin c = true) ∧
    (∀ c ∈ after, isMargin c = true) ∧ Signed body z

/-- Between the blocks of digits, and not inside them, are the blanks beyond ASCII. -/
theorem zeroDigits_apart : ∀ z ∈ zeroDigits.toList, 0xA0 < z ∧ (z + 9 < 0x1680 ∨
    0x1680 < z ∧ z + 9 < 0x2000 ∨ 0x205F < z ∧ z + 9 < 0x3000 ∨ 0x3000 < z) := by
  -- The characters of the table are taken out of the text before anything is evaluated.
  rw [zeroDigits, String.toList_ofList]
  decide +kernel

theorem isBlank_of_digitValue? {d : Nat} (h : digitValue? c = some d) : isBlank c = false := by
  have hrange : 48 ≤ c.toNat ∧ c.toNat ≤ 57 ∨
      ∃ z ∈ zeroDigits.toList, z ≤ c.toNat ∧ c.toNat ≤ z + 9 := by
    unfold digitValue? at h
    dsimp only at h
    split at h
    · split at h
      · rename_i hascii
        exact .inl (by simpa using hascii)
      · cases h
    · obtain ⟨z, hz, -⟩ := Option.map_eq_some_iff.mp h
      exact .inr ⟨z, Array.mem_toList_iff.mpr (Array.mem_of_find?_eq_some hz),
        by simpa using Array.find?_some hz⟩
  have hcodes : ∀ n, 48 ≤ n ∧ n ≤ 57 ∨ (∃ z ∈ zeroDigits.toList, z ≤ n ∧ n ≤ z + 9) →
      ¬(9 ≤ n ∧ n ≤ 13 ∨ 28 ≤ n ∧ n ≤ 32 ∨ n = 0x85 ∨ n = 0xA0 ∨ n = 0x1680 ∨
        0x2000 ≤ n ∧ n ≤ 0x200A ∨ n = 0x2028 ∨ n = 0x2029 ∨ n = 0x202F ∨ n = 0x205F ∨
        n = 0x3000) := by
    rintro n (hn | ⟨z, hz, hn⟩)
    · omega
    · have hapart := zeroDigits_apart z hz
      omega
  have hnot := hcodes c.toNat hrange
  rw [Bool.eq_false_iff]
  intro hblank
  simp only [isBlank, Bool.or_eq_true, Bool.and_eq_true, decide_eq_true_eq, beq_iff_eq,
    or_assoc] at hblank
  exact hnot hblank

/-- The blanks around a text without blanks are dropped. -/
theorem trimBy_isMargin (hbefore : ∀ c ∈ before, isMargin c = true)
    (hafter : ∀ c ∈ after, isMargin c = true) (h : ∀ c ∈ s, isBlank c = false) :
    trimBy isMargin (before ++ s ++ after) = s := by
  have hnot (c : Char) (hc : c ∈ s) : isMargin c = false := by
    rw [isMargin, h c hc, Bool.false_and]
  exact trimBy_around hbefore hafter (fun c hc => hnot c (List.mem_of_mem_head? hc))
    fun c hc => hnot c (List.mem_of_mem_getLast? hc)

theorem trimBy_isMargin_self (h : ∀ c ∈ s, isBlank c = false) : trimBy isMargin s = s := by
  have hnone : ∀ c ∈ ([] : List Char), isMargin c = true := by simp
  simpa using trimBy_isMargin hnone hnone h

/-- The characters of a numeral. -/
theorem Spells.of_mem (h : Spells s ds) :
    ∀ c ∈ s, c = '_' ∨ ∃ d, digitValue? c = some d := by
  induction h with
  | last hd => simpa using .inr ⟨_, hd⟩
  | digit hd _ ih => exact List.forall_mem_cons.mpr ⟨.inr ⟨_, hd⟩, ih⟩
  | underscored hd _ ih =>
    exact List.forall_mem_cons.mpr ⟨.inr ⟨_, hd⟩, List.forall_mem_cons.mpr ⟨.inl rfl, ih⟩⟩

theorem Signed.of_mem (h : Signed s z) :
    ∀ c ∈ s, c = '+' ∨ c = '-' ∨ c = '_' ∨ ∃ d, digitValue? c = some d := by
  cases h with
  | plain hds => exact fun c hc => .inr (.inr (hds.of_mem c hc))
  | plus hds => exact List.forall_mem_cons.mpr ⟨.inl rfl, fun c hc => .inr (.inr (hds.of_mem c hc))⟩
  | minus hds =>
    exact List.forall_mem_cons.mpr ⟨.inr (.inl rfl), fun c hc => .inr (.inr (hds.of_mem c hc))⟩

theorem Signed.not_isBlank (h : Signed s z) : ∀ c ∈ s, isBlank c = false := by
  intro c hc
  rcases h.of_mem c hc with rfl | rfl | rfl | ⟨d, hd⟩
  · decide
  · decide
  · decide
  · exact isBlank_of_digitValue? hd

theorem readInt?_eq_some_iff_signed : readInt? s = some z ↔ Signed (trimBy isMargin s) z := by
  rw [readInt?]
  generalize trimBy isMargin s = body
  constructor
  · intro h
    split at h
    case h_1 rest =>
      obtain ⟨i, hi, rfl⟩ := Option.map_eq_some_iff.mp h
      obtain ⟨n, hn, hcast⟩ := Option.bind_eq_some_iff.mp hi
      obtain rfl := Option.some.inj hcast
      obtain ⟨ds, hds, hle, rfl⟩ := readNat?_eq_some_iff.mp hn
      exact .minus hds hle
    case h_2 rest =>
      obtain ⟨n, hn, rfl⟩ := Option.map_eq_some_iff.mp h
      obtain ⟨ds, hds, hle, rfl⟩ := readNat?_eq_some_iff.mp hn
      exact .plus hds hle
    case h_3 =>
      obtain ⟨n, hn, rfl⟩ := Option.map_eq_some_iff.mp h
      obtain ⟨ds, hds, hle, rfl⟩ := readNat?_eq_some_iff.mp hn
      exact .plain hds hle
  · intro h
    cases h with
    | plain hds hle =>
      have hread := readNat?_eq_some_iff.mpr ⟨_, hds, hle, rfl⟩
      split
      · exact absurd hds (not_spells_of_head (by decide))
      · exact absurd hds (not_spells_of_head (by decide))
      · rw [hread]
        rfl
    | plus hds hle =>
      have hread := readNat?_eq_some_iff.mpr ⟨_, hds, hle, rfl⟩
      simp [hread]
    | minus hds hle =>
      have hread := readNat?_eq_some_iff.mpr ⟨_, hds, hle, rfl⟩
      simp [hread]

/-- An integer is read off the texts that write it. -/
theorem readInt?_eq_some_iff : readInt? s = some z ↔ Writes s z := by
  rw [readInt?_eq_some_iff_signed]
  constructor
  · intro h
    obtain ⟨before, after, hs, hbefore, hafter⟩ := exists_trimBy isMargin s
    exact ⟨before, trimBy isMargin s, after, hs, hbefore, hafter, h⟩
  · rintro ⟨before, body, after, rfl, hbefore, hafter, h⟩
    rwa [trimBy_isMargin hbefore hafter h.not_isBlank]

/-! ## The digits of a number -/

theorem digitValue?_of_isDigit (h : c.isDigit = true) : digitValue? c = some (c.toNat - 48) := by
  have hrange : 48 ≤ c.toNat ∧ c.toNat ≤ 57 := by
    simp only [Char.isDigit, Bool.and_eq_true, decide_eq_true_eq] at h
    exact ⟨UInt32.le_iff_toNat_le.mp h.1, UInt32.le_iff_toNat_le.mp h.2⟩
  unfold digitValue?
  dsimp only
  rw [if_pos (by omega), if_pos (by simpa using hrange)]

theorem Digits.spells (h : Digits s) (hne : s ≠ []) : Spells s (s.map (·.toNat - 48)) := by
  induction s with
  | nil => exact absurd rfl hne
  | cons c s ih =>
    obtain ⟨hc, hs⟩ := List.forall_mem_cons.mp h
    by_cases hnil : s = []
    · subst hnil
      exact .last (digitValue?_of_isDigit hc)
    · exact .digit (digitValue?_of_isDigit hc) (ih hs hnil)

/-- The digits of a number are read as the number, unless there are too many of them. -/
theorem readNat?_toDigits (n : Nat) : readNat? (Nat.toDigits 10 n) =
    if (Nat.toDigits 10 n).length ≤ maxDigits then some n else none := by
  have hspells := (digits_toDigits n).spells Nat.toDigits_ne_nil
  have hread : readDigits? 0 0 false (Nat.toDigits 10 n) =
      some (n, (Nat.toDigits 10 n).length) := by
    refine readDigits?_eq_some_iff.mpr ⟨_, .inl hspells, ?_, ?_⟩
    · rw [List.foldl_map, foldl_toDigits]
    · rw [List.length_map, Nat.zero_add]
  rw [readNat?, hread]

theorem Digits.not_isBlank (h : Digits s) : ∀ c ∈ s, isBlank c = false := fun c hc =>
  isBlank_of_digitValue? (digitValue?_of_isDigit (h c hc))

theorem readInt?_toDigits (n : Nat) : readInt? (Nat.toDigits 10 n) =
    if (Nat.toDigits 10 n).length ≤ maxDigits then some (n : Int) else none := by
  have hdigits := digits_toDigits n
  rw [readInt?, trimBy_isMargin_self hdigits.not_isBlank]
  split
  · rename_i hs
    exact absurd (hs ▸ List.mem_cons_self) hdigits.minus_not_mem
  · rename_i hs
    exact absurd (hdigits '+' (hs ▸ List.mem_cons_self)) (by decide)
  · rw [readNat?_toDigits]
    split <;> rfl

theorem readInt?_minus_toDigits (n : Nat) : readInt? ('-' :: Nat.toDigits 10 n) =
    if (Nat.toDigits 10 n).length ≤ maxDigits then some (-(n : Int)) else none := by
  have hnot : ∀ c ∈ '-' :: Nat.toDigits 10 n, isBlank c = false :=
    List.forall_mem_cons.mpr ⟨by decide, (digits_toDigits n).not_isBlank⟩
  rw [readInt?, trimBy_isMargin_self hnot]
  simp only [readNat?_toDigits]
  split <;> rfl

end TrackerSearch.Number
