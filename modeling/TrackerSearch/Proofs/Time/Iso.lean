import TrackerSearch.Proofs.Number.Decimal
import TrackerSearch.Proofs.Text.Blank
import TrackerSearch.Report
import TrackerSearch.Time.Iso

/-!
# Timestamps that are written and read back

Whatever is read as a timestamp is a valid one that knows its offset, and it survives being written
and read again, whichever of the many forms it was read from. Of the valid timestamps all survive but
those whose offset is less than a second and not zero: the reader takes such an offset for none. A
timestamp without an offset comes back as one in UTC.
-/
namespace TrackerSearch.Time

open Text Number

variable {t : Timestamp} {c : Clock} {s : List Char} {n width : Nat} {offset : Int}

/-! ## Fields of a fixed width -/

theorem length_padded (h : (Nat.toDigits 10 n).length ≤ width) :
    (padded width n).length = width := by
  have hlength : (padded width n).length =
      (width - (Nat.toDigits 10 n).length) + (Nat.toDigits 10 n).length := by
    rw [padded, List.length_append, List.length_replicate]
  omega

theorem fits_two (h : n < 100) : (Nat.toDigits 10 n).length ≤ 2 :=
  (Nat.length_toDigits_le_iff (by decide) (by decide)).mpr h

theorem fits_four (h : n < 10000) : (Nat.toDigits 10 n).length ≤ 4 :=
  (Nat.length_toDigits_le_iff (by decide) (by decide)).mpr h

theorem fits_six (h : n < micro) : (Nat.toDigits 10 n).length ≤ 6 :=
  (Nat.length_toDigits_le_iff (by decide) (by decide)).mpr h

/-- Zeros in front do not count. -/
theorem value_padded (width n : Nat) :
    (padded width n).foldl (fun n c => n * 10 + (c.toNat - 48)) 0 = n := by
  have hzeros : ∀ k, (List.replicate k '0').foldl (fun n c => n * 10 + (c.toNat - 48)) 0 = 0 := by
    intro k
    induction k with
    | zero => rfl
    | succ k ih => exact ih
  rw [padded, List.foldl_append, hzeros, foldl_toDigits]

theorem readFixed?_padded (h : (Nat.toDigits 10 n).length ≤ width) (rest : List Char) :
    readFixed? width (padded width n ++ rest) = some (n, rest) := by
  have hlength := length_padded h
  have htake : (padded width n ++ rest).take width = padded width n := List.take_left' hlength
  have hdrop : (padded width n ++ rest).drop width = rest := List.drop_left' hlength
  have hdigits : (padded width n).all isAsciiDigit = true :=
    List.all_eq_true.mpr (digits_padded width n)
  rw [readFixed?, htake, hdrop, if_pos ⟨hlength, hdigits⟩, value_padded]

/-- A field of two digits as a reader sees it. -/
theorem exists_padded_two (h : n < 100) : ∃ a b, padded 2 n = [a, b] ∧ a.isDigit = true ∧
    ∀ rest, readFixed? 2 (a :: b :: rest) = some (n, rest) := by
  obtain ⟨a, b, hab⟩ := List.length_eq_two.mp (length_padded (fits_two h))
  have hread := readFixed?_padded (fits_two h)
  have hdigit := digits_padded 2 n a
  rw [hab] at hread hdigit
  exact ⟨a, b, hab, hdigit List.mem_cons_self, hread⟩

/-! ## The time of day -/

/-- The fraction of a second, if there is one. -/
def fractionText (microsecond : Nat) : List Char :=
  if microsecond = 0 then [] else '.' :: padded 6 microsecond

/-- A time of day as `HH:MM:SS[.ffffff]`. -/
def clockText (c : Clock) : List Char :=
  padded 2 c.hour ++ ':' :: padded 2 c.minute ++ ':' :: padded 2 c.second ++
    fractionText c.microsecond

/-- Every field can be written with its width. -/
structure Clock.Fits (c : Clock) : Prop where
  hour : c.hour < 100
  minute : c.minute < 100
  second : c.second < 100
  microsecond : c.microsecond < micro

theorem readFraction?_padded (h : n < micro) : readFraction? (padded 6 n) = some (n, []) := by
  have hlength := length_padded (fits_six h)
  have hread := readFixed?_padded (fits_six h) []
  rw [List.append_nil] at hread
  rw [readFraction?, hlength]
  simp [hread, Number.tenTo]

theorem readClock?_clockText (h : c.Fits) : readClock? (clockText c) = some (c, true) := by
  obtain ⟨hour, minute, second, microsecond⟩ := c
  obtain ⟨h₁, h₂, hhour, -, hreadHour⟩ := exists_padded_two h.hour
  obtain ⟨m₁, m₂, hminute, -, hreadMinute⟩ := exists_padded_two h.minute
  obtain ⟨s₁, s₂, hsecond, -, hreadSecond⟩ := exists_padded_two h.second
  unfold readClock? clockText fractionText
  simp only [hhour, hminute, hsecond, List.cons_append, List.nil_append, hreadHour]
  by_cases hmicro : microsecond = 0
  · simp [hreadMinute, hreadSecond, hmicro]
  · obtain ⟨f, fs, hfraction⟩ := List.exists_cons_of_ne_nil (padded_ne_nil 6 microsecond)
    have hread := readFraction?_padded h.microsecond
    simp only [hfraction] at hread ⊢
    simp [hreadMinute, hreadSecond, hmicro, hread, atEnd]

/-- A time of day may be written without its seconds. -/
theorem readClock?_minutes (h : c.Fits) (hsecond : c.second = 0) (hmicro : c.microsecond = 0) :
    readClock? (padded 2 c.hour ++ ':' :: padded 2 c.minute) = some (c, true) := by
  obtain ⟨hour, minute, second, microsecond⟩ := c
  obtain rfl : second = 0 := hsecond
  obtain rfl : microsecond = 0 := hmicro
  obtain ⟨h₁, h₂, hhour, -, hreadHour⟩ := exists_padded_two h.hour
  obtain ⟨m₁, m₂, hminute, -, hreadMinute⟩ := exists_padded_two h.minute
  simp [readClock?, hhour, hminute, hreadHour, hreadMinute]

/-! ## The offset -/

/-- The amount of an offset. -/
def amountOf (offset : Int) : Clock where
  hour := offset.natAbs / micro / 3600
  minute := offset.natAbs / micro / 60 % 60
  second := offset.natAbs / micro % 60
  microsecond := offset.natAbs % micro

theorem fits_amountOf (h : ValidOffset offset) : (amountOf offset).Fits := by
  obtain ⟨hlow, hhigh⟩ := h
  refine ⟨?_, ?_, ?_, ?_⟩ <;> simp only [amountOf, micro] <;> omega

/-- An offset behind its sign. -/
def amountText (offset : Int) : List Char :=
  if (amountOf offset).second = 0 ∧ (amountOf offset).microsecond = 0 then
    padded 2 (amountOf offset).hour ++ ':' :: padded 2 (amountOf offset).minute
  else clockText (amountOf offset)

theorem offsetText_eq (offset : Int) :
    offsetText offset = (if offset < 0 then '-' else '+') :: amountText offset := by
  unfold offsetText amountText clockText fractionText amountOf
  by_cases hsecond : offset.natAbs / micro % 60 = 0
  · by_cases hmicro : offset.natAbs % micro = 0
    · simp [hsecond, hmicro]
    · simp [hmicro]
  · simp [hsecond]

theorem readClock?_amountText (h : ValidOffset offset) :
    readClock? (amountText offset) = some (amountOf offset, true) := by
  have hfits := fits_amountOf h
  unfold amountText
  split
  · rename_i hzero
    exact readClock?_minutes hfits hzero.1 hzero.2
  · exact readClock?_clockText hfits

/-- An offset of less than a second is taken for none. -/
def keptOffset (offset : Int) : Int := if offset.natAbs < micro then 0 else offset

theorem offsetOf_amountOf (offset : Int) :
    offsetOf (decide (offset < 0)) (amountOf offset) = keptOffset offset := by
  have hseconds : (amountOf offset).hour * 3600 + (amountOf offset).minute * 60 +
      (amountOf offset).second = offset.natAbs / micro := by
    simp only [amountOf]
    omega
  have hamount : offset.natAbs / micro * micro + (amountOf offset).microsecond = offset.natAbs :=
    Nat.div_add_mod' _ _
  unfold offsetOf keptOffset
  simp only [hseconds, decide_eq_true_eq]
  rw [hamount]
  by_cases hsmall : offset.natAbs < micro
  · rw [if_pos (Nat.div_eq_of_lt hsmall), if_pos hsmall]
  · have hne : offset.natAbs / micro ≠ 0 := by
      rw [Ne, Nat.div_eq_zero_iff]
      exact not_or.mpr ⟨by decide, hsmall⟩
    rw [if_neg hne, if_neg hsmall]
    split
    · omega
    · omega

/-! ## Whole timestamps -/

/-- The signs at which the time of day ends. -/
def isMark (c : Char) : Bool := c == '+' || c == '-' || c == 'Z'

theorem isMark_of_isDigit {x : Char} (h : x.isDigit = true) : isMark x = false := by
  cases hmark : isMark x with
  | false => rfl
  | true =>
    simp only [isMark, Bool.or_eq_true, beq_iff_eq] at hmark
    rcases hmark with (rfl | rfl) | rfl
    · exact absurd h (by decide)
    · exact absurd h (by decide)
    · exact absurd h (by decide)

theorem isMark_of_mem_clockText {x : Char} (h : x ∈ clockText c) : isMark x = false := by
  have hpadded : ∀ {width n}, x ∈ padded width n → isMark x = false := fun hx =>
    isMark_of_isDigit (digits_padded _ _ _ hx)
  unfold clockText fractionText at h
  simp only [List.mem_append, List.mem_cons] at h
  rcases h with ((h | rfl | h) | rfl | h) | h
  · exact hpadded h
  · decide
  · exact hpadded h
  · decide
  · exact hpadded h
  · split at h
    · cases h
    · rcases List.mem_cons.mp h with rfl | h
      · decide
      · exact hpadded h

/-- The time of day ends before the offset. -/
theorem takeWhile_clockText (c : Clock) (rest : List Char)
    (hrest : ∀ x ∈ rest.head?, isMark x = true) :
    (clockText c ++ rest).takeWhile (fun x => !(x == '+' || x == '-' || x == 'Z')) =
        clockText c ∧
      (clockText c ++ rest).dropWhile (fun x => !(x == '+' || x == '-' || x == 'Z')) = rest := by
  have hclock : ∀ x ∈ clockText c, (!isMark x) = true := fun x hx => by
    rw [isMark_of_mem_clockText hx]
    rfl
  have hstop : ∀ x ∈ rest.head?, (!isMark x) = false := fun x hx => by
    rw [hrest x hx]
    rfl
  exact takeWhile_dropWhile_append hclock hstop

/-- The time of day and the offset are both read back. -/
theorem readTime?_clockText (h : c.Fits) {offset : Option Int}
    (ho : ∀ o ∈ offset, ValidOffset o) :
    readTime? (clockText c ++ (offset.map offsetText).getD []) =
      some (c, offset.map keptOffset) := by
  have hclock := readClock?_clockText h
  cases offset with
  | none =>
    obtain ⟨htake, hdrop⟩ := takeWhile_clockText c [] (by simp)
    simp only [readTime?, Option.map_none, Option.getD_none, htake, hdrop, hclock]
    rfl
  | some offset =>
    have hamount := readClock?_amountText (ho offset rfl)
    rw [Option.map_some, Option.getD_some, offsetText_eq, Option.map_some, ← offsetOf_amountOf]
    by_cases hneg : offset < 0
    · obtain ⟨htake, hdrop⟩ := takeWhile_clockText c ('-' :: amountText offset) (by simp [isMark])
      rw [if_pos hneg, decide_eq_true hneg]
      simp only [readTime?, htake, hdrop, hclock]
      simp [hamount]
    · obtain ⟨htake, hdrop⟩ := takeWhile_clockText c ('+' :: amountText offset) (by simp [isMark])
      rw [if_neg hneg, decide_eq_false hneg]
      simp only [readTime?, htake, hdrop, hclock]
      simp [hamount]

/-- The date of a timestamp as `YYYY-MM-DD`. -/
def dateText (t : Timestamp) : List Char :=
  padded 4 t.year ++ '-' :: padded 2 t.month ++ '-' :: padded 2 t.day

def Timestamp.clock (t : Timestamp) : Clock := ⟨t.hour, t.minute, t.second, t.microsecond⟩

theorem toIso_eq (t : Timestamp) : t.toIso =
    dateText t ++ 'T' :: (clockText t.clock ++ (t.offset.map offsetText).getD []) := by
  unfold Timestamp.toIso dateText clockText fractionText Timestamp.clock
  by_cases hmicro : t.microsecond = 0
  · simp [hmicro]
  · simp [hmicro]

theorem daysInMonth_lt (year month : Nat) : daysInMonth year month < 100 := by
  unfold daysInMonth
  split
  · split <;> decide
  · split <;> decide

theorem fits_clock (h : t.Valid) : t.clock.Fits := by
  obtain ⟨-, hhour, hminute, hsecond, hmicro, -⟩ := h
  exact ⟨Nat.lt_trans hhour (by decide), Nat.lt_trans hminute (by decide),
    Nat.lt_trans hsecond (by decide), hmicro⟩

theorem length_dateText (h : ValidDate t.year t.month t.day) : (dateText t).length = 10 := by
  obtain ⟨-, hyear, -, hmonth, -, hday⟩ := h
  have hyear := length_padded (fits_four (Nat.lt_of_le_of_lt hyear (by decide)))
  have hmonth := length_padded (fits_two (Nat.lt_of_le_of_lt hmonth (by decide)))
  have hday := length_padded (fits_two (Nat.lt_of_le_of_lt hday (daysInMonth_lt _ _)))
  simp [dateText, hyear, hmonth, hday]

/-- The written date is read back. -/
theorem readDate?_dateText (h : ValidDate t.year t.month t.day) :
    readDate? (dateText t) = some (t.year, t.month, t.day) := by
  obtain ⟨-, hyear, -, hmonth, -, hday⟩ := h
  have hreadYear := readFixed?_padded (fits_four (Nat.lt_of_le_of_lt hyear (by decide)))
  obtain ⟨m₁, m₂, hm, hdigit, hreadMonth⟩ :=
    exists_padded_two (Nat.lt_of_le_of_lt hmonth (by decide))
  obtain ⟨d₁, d₂, hd, -, hreadDay⟩ :=
    exists_padded_two (Nat.lt_of_le_of_lt hday (daysInMonth_lt _ _))
  have hno : m₁ ≠ 'W' := by
    rintro rfl
    exact absurd hdigit (by decide)
  unfold readDate? dateText
  simp only [hm, hd, List.append_assoc, List.cons_append, List.nil_append, hreadYear]
  simp [hno, hreadMonth, hreadDay]

/-- A date with hyphens has ten characters. -/
theorem dateLength_dateText (h : ValidDate t.year t.month t.day) (c : Char) (rest : List Char) :
    dateLength (dateText t ++ c :: rest) = 10 := by
  have hlength := length_dateText h
  obtain ⟨-, hyear, -, hmonth, -, -⟩ := h
  have hfour := length_padded (fits_four (Nat.lt_of_le_of_lt hyear (by decide)))
  obtain ⟨m₁, m₂, hm, hdigit, -⟩ := exists_padded_two (Nat.lt_of_le_of_lt hmonth (by decide))
  have hno : m₁ ≠ 'W' := by
    rintro rfl
    exact absurd hdigit (by decide)
  have hlong : ¬(dateText t ++ c :: rest).length = 7 := by
    rw [List.length_append, hlength]
    omega
  have hhyphen : (dateText t ++ c :: rest)[4]? = some '-' := by
    simp [dateText, hfour]
  have hmonth : (dateText t ++ c :: rest)[5]? = some m₁ := by
    simp [dateText, hfour, hm, List.getElem?_append_right]
  rw [dateLength, if_neg hlong, if_pos hhyphen, hmonth, if_neg (by simpa using hno)]

theorem validOffset_keptOffset (h : ValidOffset offset) : ValidOffset (keptOffset offset) := by
  unfold keptOffset
  split
  · decide
  · exact h

/-- A timestamp that is written is read back, but for an offset that is too small. -/
theorem ofIso?_toIso (h : t.Valid) :
    Timestamp.ofIso? t.toIso = some { t with offset := t.offset.map keptOffset } := by
  have hdate := length_dateText h.1
  have htime := readTime?_clockText (fits_clock h) h.2.2.2.2.2
  have hlength : ¬t.toIso.length < 7 := by
    rw [toIso_eq, List.length_append, hdate]
    omega
  have hvalid : Timestamp.Valid { t with offset := t.offset.map keptOffset } := by
    refine ⟨h.1, h.2.1, h.2.2.1, h.2.2.2.1, h.2.2.2.2.1, ?_⟩
    intro kept hkept
    obtain ⟨offset, hoffset, rfl⟩ := Option.map_eq_some_iff.mp hkept
    exact validOffset_keptOffset (h.2.2.2.2.2 offset hoffset)
  rw [Timestamp.ofIso?, if_neg hlength, toIso_eq, dateLength_dateText h.1, List.take_left' hdate,
    List.drop_left' hdate, readDate?_dateText h.1]
  simp only [bind, Option.bind, htime]
  exact if_pos hvalid

/-! ## Cells of a table -/

/-- The last character is a digit. -/
def EndsInDigit (s : List Char) : Prop := ∃ c, s.getLast? = some c ∧ c.isDigit = true

theorem EndsInDigit.behind (h : EndsInDigit s) (front : List Char) : EndsInDigit (front ++ s) := by
  obtain ⟨c, hc, hdigit⟩ := h
  exact ⟨c, by rw [List.getLast?_append, hc, Option.some_or], hdigit⟩

theorem endsInDigit_padded (width n : Nat) : EndsInDigit (padded width n) :=
  ⟨_, List.getLast?_eq_getLast_of_ne_nil (padded_ne_nil width n),
    digits_padded width n _ (List.getLast_mem _)⟩

theorem endsInDigit_clockText (c : Clock) : EndsInDigit (clockText c) := by
  unfold clockText fractionText
  split
  · rw [List.append_nil]
    exact ((endsInDigit_padded 2 c.second).behind [':']).behind _
  · exact ((endsInDigit_padded 6 c.microsecond).behind ['.']).behind _

theorem endsInDigit_amountText (offset : Int) : EndsInDigit (amountText offset) := by
  unfold amountText
  split
  · exact ((endsInDigit_padded 2 _).behind [':']).behind _
  · exact endsInDigit_clockText _

theorem endsInDigit_toIso (t : Timestamp) : EndsInDigit t.toIso := by
  have htime : EndsInDigit (clockText t.clock ++ (t.offset.map offsetText).getD []) := by
    cases t.offset with
    | none =>
      rw [Option.map_none, Option.getD_none, List.append_nil]
      exact endsInDigit_clockText t.clock
    | some offset =>
      rw [Option.map_some, Option.getD_some, offsetText_eq]
      exact ((endsInDigit_amountText offset).behind [_]).behind _
  rw [toIso_eq]
  exact (htime.behind ['T']).behind _

theorem isBlank_of_isDigit {x : Char} (h : x.isDigit = true) : isBlank x = false := by
  have hlow : 48 ≤ x.toNat := by
    simp only [Char.isDigit, Bool.and_eq_true, decide_eq_true_eq] at h
    exact UInt32.le_iff_toNat_le.mp h.1
  have hhigh : x.toNat ≤ 57 := by
    simp only [Char.isDigit, Bool.and_eq_true, decide_eq_true_eq] at h
    exact UInt32.le_iff_toNat_le.mp h.2
  simp only [isBlank, Bool.or_eq_false_iff, Bool.and_eq_false_imp, decide_eq_true_eq,
    decide_eq_false_iff_not, beq_eq_false_iff_ne]
  omega

theorem trimmed_toIso (t : Timestamp) : Trimmed t.toIso where
  head x hx := by
    obtain ⟨y, ys, hyear⟩ := List.exists_cons_of_ne_nil (padded_ne_nil 4 t.year)
    have hdigit := digits_padded 4 t.year y
    rw [hyear] at hdigit
    simp [Timestamp.toIso, hyear] at hx
    subst hx
    exact isBlank_of_isDigit (hdigit List.mem_cons_self)
  last x hx := by
    obtain ⟨y, hy, hdigit⟩ := endsInDigit_toIso t
    obtain rfl := Option.some.inj (hy.symm.trans hx)
    exact isBlank_of_isDigit hdigit

theorem expandZulu_toIso (t : Timestamp) : expandZulu t.toIso = t.toIso := by
  obtain ⟨y, hy, hdigit⟩ := endsInDigit_toIso t
  refine if_neg ?_
  rw [hy]
  rintro h
  obtain rfl := Option.some.inj h
  exact absurd hdigit (by decide)

/-- What a cell holds that a timestamp was written into. -/
theorem timestampOf_text_eq (h : t.Valid) :
    timestampOf t.text = some { t with offset := some (keptOffset (t.offset.getD 0)) } := by
  have hne : t.text.isEmpty = false := by
    obtain ⟨y, hy, -⟩ := endsInDigit_toIso t
    rw [Bool.eq_false_iff, Ne, String.isEmpty_iff, Timestamp.text, String.ofList_eq_empty_iff]
    intro hnil
    rw [hnil] at hy
    cases hy
  rw [timestampOf, hne, Timestamp.text, String.toList_ofList, trim_of_trimmed (trimmed_toIso t),
    expandZulu_toIso, ofIso?_toIso h]
  cases ho : t.offset with
  | none => rfl
  | some offset => rfl

/-! ## What is read -/

/-- No distance from UTC, or one of a second at least. -/
def IsKept (offset : Int) : Prop := offset = 0 ∨ micro ≤ offset.natAbs

theorem keptOffset_eq_iff : keptOffset offset = offset ↔ IsKept offset := by
  unfold keptOffset IsKept micro
  split
  · omega
  · omega

theorem keptOffset_of_not (h : ¬IsKept offset) : keptOffset offset = 0 :=
  if_pos (Nat.lt_of_not_le fun hle => h (.inr hle))

/-- No reading gives an offset that is too small. -/
theorem isKept_offsetOf (negative : Bool) (c : Clock) : IsKept (offsetOf negative c) := by
  unfold offsetOf
  dsimp only
  split
  · exact .inl rfl
  · right
    unfold micro at *
    split
    · omega
    · omega

theorem isKept_of_readTime? {read : Option Int} (h : readTime? s = some (c, read)) :
    ∀ offset ∈ read, IsKept offset := by
  unfold readTime? at h
  simp only [Option.bind_eq_bind, Option.bind_eq_some_iff] at h
  obtain ⟨⟨clock, complete⟩, -, h⟩ := h
  split at h
  · split at h
    · obtain ⟨-, rfl⟩ := Prod.mk.inj (Option.some.inj h)
      intro offset hoffset
      cases hoffset
    · cases h
  · split at h
    · obtain ⟨-, rfl⟩ := Prod.mk.inj (Option.some.inj h)
      intro offset hoffset
      obtain rfl := Option.some.inj hoffset
      exact .inl rfl
    · cases h
  · obtain ⟨⟨amount, complete⟩, -, h⟩ := Option.bind_eq_some_iff.mp h
    split at h
    · obtain ⟨-, rfl⟩ := Prod.mk.inj (Option.some.inj h)
      intro offset hoffset
      obtain rfl := Option.some.inj hoffset
      exact isKept_offsetOf _ amount
    · cases h

theorem ofParts?_eq_some {date : Nat × Nat × Nat} {offset : Option Int}
    (h : Timestamp.ofParts? date c offset = some t) : t.Valid ∧ t.offset = offset := by
  unfold Timestamp.ofParts? at h
  dsimp only at h
  split at h
  · rename_i hvalid
    obtain rfl := Option.some.inj h
    exact ⟨hvalid, rfl⟩
  · cases h

/-- Whatever is read is valid. -/
theorem of_ofIso? (h : Timestamp.ofIso? s = some t) :
    t.Valid ∧ ∀ offset ∈ t.offset, IsKept offset := by
  unfold Timestamp.ofIso? at h
  split at h
  · cases h
  · simp only [Option.bind_eq_bind, Option.bind_eq_some_iff] at h
    obtain ⟨date, -, h⟩ := h
    split at h
    · obtain ⟨hvalid, hoffset⟩ := ofParts?_eq_some h
      refine ⟨hvalid, fun offset ho => ?_⟩
      rw [hoffset] at ho
      cases ho
    · obtain ⟨⟨clock, read⟩, hread, h⟩ := Option.bind_eq_some_iff.mp h
      obtain ⟨hvalid, hoffset⟩ := ofParts?_eq_some h
      rw [hoffset]
      exact ⟨hvalid, isKept_of_readTime? hread⟩

/-- A cell with a timestamp holds a valid one that knows its offset. -/
theorem of_timestampOf {cell : String} (h : timestampOf cell = some t) :
    t.Valid ∧ ∃ offset, t.offset = some offset ∧ IsKept offset := by
  unfold timestampOf at h
  split at h
  · cases h
  · obtain ⟨read, hread, rfl⟩ := Option.map_eq_some_iff.mp h
    obtain ⟨⟨hdate, hhour, hminute, hsecond, hmicro, hoffset⟩, hkept⟩ := of_ofIso? hread
    cases ho : read.offset with
    | none =>
      refine ⟨⟨hdate, hhour, hminute, hsecond, hmicro, ?_⟩, 0, ?_, .inl rfl⟩
      · simp [Timestamp.orUtc, ho, ValidOffset]
      · simp [Timestamp.orUtc, ho]
    | some offset =>
      refine ⟨⟨hdate, hhour, hminute, hsecond, hmicro, ?_⟩, offset, ?_, hkept offset ho⟩
      · simpa [Timestamp.orUtc, ho] using hoffset offset ho
      · simp [Timestamp.orUtc, ho]

/-- **Timestamps survive being written.** What a cell is read as is valid and knows its offset, and it
is read again from the text that the command prints for it. A valid timestamp with an offset comes
back as it is exactly if that offset is kept, and in UTC otherwise; one without an offset comes back
in UTC. -/
theorem timestampOf_text (t : Timestamp) :
    (∀ cell, timestampOf cell = some t →
      t.Valid ∧ (∃ offset, t.offset = some offset ∧ IsKept offset) ∧
      timestampOf t.text = some t ∧
      ∀ c : Candidate, c.publishedAt = some t →
        c.toJson.get? "published_at" = some (.str t.text)) ∧
    (∀ offset, t.Valid → t.offset = some offset →
      (timestampOf t.text = some t ↔ IsKept offset) ∧
      (¬IsKept offset → timestampOf t.text = some { t with offset := some 0 })) ∧
    (t.Valid → t.offset = none → timestampOf t.text = some t.orUtc) := by
  refine ⟨fun cell hcell => ?_, fun offset hvalid ho => ?_, fun hvalid ho => ?_⟩
  · obtain ⟨hvalid, offset, ho, hkept⟩ := of_timestampOf hcell
    refine ⟨hvalid, ⟨offset, ho, hkept⟩, ?_, fun c hc => ?_⟩
    · rw [timestampOf_text_eq hvalid, ho, Option.getD_some, keptOffset_eq_iff.mpr hkept, ← ho]
    · rw [Candidate.toJson, hc]
      rfl
  · have hread := timestampOf_text_eq hvalid
    rw [ho, Option.getD_some] at hread
    constructor
    · rw [hread, ← keptOffset_eq_iff, Option.some.injEq]
      constructor
      · intro heq
        have hoffset := congrArg Timestamp.offset heq
        exact Option.some.inj (hoffset.trans ho)
      · intro hkept
        rw [hkept, ← ho]
    · intro hnot
      rw [hread, keptOffset_of_not hnot]
  · rw [timestampOf_text_eq hvalid, Timestamp.orUtc, ho]
    rfl

/-- Half past noon and a second, half a minute and a bit behind UTC. -/
def oddTime : Timestamp := ⟨2024, 3, 6, 12, 30, 1, 500000, some (-59000001)⟩

/-- The last microsecond that can be told. -/
def lastTime : Timestamp := ⟨9999, 12, 31, 23, 59, 59, 999999, none⟩

/-- A microsecond ahead of UTC. -/
def nearlyUtc : Timestamp := ⟨2000, 1, 1, 0, 0, 0, 0, some 1⟩

/-- A week date with a comma, and a time whose offset is not known. -/
theorem timestampOf_text_of_odd_times :
    (timestampOf " 2024W103x123001,5-000059.000001" = some oddTime ∧
      timestampOf oddTime.text = some oddTime) ∧
    (oddTime.Valid ∧ oddTime.offset = some (-59000001) ∧ IsKept (-59000001)) ∧
    (nearlyUtc.Valid ∧ nearlyUtc.offset = some 1 ∧ ¬IsKept 1 ∧
      timestampOf nearlyUtc.text = some { nearlyUtc with offset := some 0 }) ∧
    lastTime.Valid ∧ lastTime.offset = none ∧ timestampOf lastTime.text = some lastTime.orUtc := by
  have hcell : timestampOf " 2024W103x123001,5-000059.000001" = some oddTime := by decide +kernel
  have hodd : oddTime.Valid := by decide
  have hnear : nearlyUtc.Valid := by decide
  have hlast : lastTime.Valid := by decide
  have hsmall : ¬IsKept 1 := by
    unfold IsKept micro
    omega
  obtain ⟨hcells, haware, -⟩ := timestampOf_text oddTime
  obtain ⟨-, hlost, -⟩ := timestampOf_text nearlyUtc
  obtain ⟨-, -, hnaive⟩ := timestampOf_text lastTime
  have hread := (hcells _ hcell).2.2.1
  exact ⟨⟨hcell, hread⟩, ⟨hodd, rfl, ((haware _ hodd rfl).1).mp hread⟩,
    ⟨hnear, rfl, hsmall, (hlost _ hnear rfl).2 hsmall⟩, hlast, rfl, hnaive hlast rfl⟩

/-- An offset of a microsecond is lost. -/
theorem timestampOf_text_of_a_microsecond :
    nearlyUtc.Valid ∧ nearlyUtc.text = "2000-01-01T00:00:00+00:00:00.000001" ∧
    timestampOf nearlyUtc.text = some { nearlyUtc with offset := some 0 } ∧
    timestampOf nearlyUtc.text ≠ some nearlyUtc := by
  decide +kernel

end TrackerSearch.Time
