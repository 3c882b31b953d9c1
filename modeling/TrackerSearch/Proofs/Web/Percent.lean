import TrackerSearch.Proofs.Text.Letter
import TrackerSearch.Proofs.Text.Utf8
import TrackerSearch.Web.Percent

/-!
# Escaped texts

An escaped text is made of unreserved characters and escapes, whatever it was made from, and it is
read back as what it was made from.
-/
namespace TrackerSearch.Web

open TrackerSearch.Text

variable {c : Char} {s t : List Char}

/-- Unreserved characters and escapes of two hexadecimal digits. -/
inductive IsEscaped : List Char → Prop where
  | nil : IsEscaped []
  | plain {c : Char} {s : List Char} : isUnreserved c = true → IsEscaped s → IsEscaped (c :: s)
  | escape {a b : Char} {s : List Char} : (hexDigit? a).isSome = true →
      (hexDigit? b).isSome = true → IsEscaped s → IsEscaped ('%' :: a :: b :: s)

theorem IsEscaped.append (hs : IsEscaped s) (ht : IsEscaped t) : IsEscaped (s ++ t) := by
  induction hs with
  | nil => exact ht
  | plain hc _ ih => exact .plain hc ih
  | escape ha hb _ ih => exact .escape ha hb ih

theorem hexDigit?_upperHex : ∀ d < 16, hexDigit? (upperHex d) = some d := by decide

theorem toNat_lt_of_le {d : Char} (h : c.val ≤ d.val) (hd : d.toNat < 128) : c.toNat < 128 :=
  Nat.lt_of_le_of_lt (UInt32.le_iff_toNat_le.mp h) hd

theorem toNat_lt_of_isUnreserved (h : isUnreserved c = true) : c.toNat < 128 := by
  delta isUnreserved Char.isAlphanum Char.isAlpha Char.isUpper Char.isLower Char.isDigit at h
  simp only [Bool.or_eq_true, Bool.and_eq_true, decide_eq_true_eq, beq_iff_eq] at h
  rcases h with (((((h | h) | h) | rfl) | rfl) | rfl) | rfl
  · exact toNat_lt_of_le h.2 (by decide)
  · exact toNat_lt_of_le h.2 (by decide)
  · exact toNat_lt_of_le h.2 (by decide)
  all_goals decide

theorem ne_percent_of_isUnreserved (h : isUnreserved c = true) : c ≠ '%' := by
  rintro rfl
  exact absurd h (by decide)

theorem toNat_lt_of_hexDigit? (h : (hexDigit? c).isSome = true) : c.toNat < 128 := by
  unfold hexDigit? at h
  split at h
  · rename_i hc
    exact toNat_lt_of_le hc.2 (by decide)
  · split at h
    · rename_i hc
      exact toNat_lt_of_le hc.2 (by decide)
    · split at h
      · rename_i hc
        exact toNat_lt_of_le hc.2 (by decide)
      · cases h

theorem isUnreserved_of_hexDigit? (h : (hexDigit? c).isSome = true) : isUnreserved c = true :=
  forall_ascii (p := fun c => (hexDigit? c).isSome = true → isUnreserved c = true) (by decide)
    (toNat_lt_of_hexDigit? h) h

theorem IsEscaped.mem (hs : IsEscaped s) : ∀ c ∈ s, isUnreserved c = true ∨ c = '%' := by
  induction hs with
  | nil => simp
  | plain hc _ ih => exact List.forall_mem_cons.mpr ⟨.inl hc, ih⟩
  | escape ha hb _ ih =>
    have hdigits := List.forall_mem_cons.mpr ⟨.inl (isUnreserved_of_hexDigit? hb), ih⟩
    exact List.forall_mem_cons.mpr
      ⟨.inr rfl, List.forall_mem_cons.mpr ⟨.inl (isUnreserved_of_hexDigit? ha), hdigits⟩⟩

theorem IsEscaped.isAscii (hs : IsEscaped s) : IsAscii s := by
  intro c hc
  rcases hs.mem c hc with h | rfl
  · exact toNat_lt_of_isUnreserved h
  · decide

/-! ## Escaping -/

theorem escapeByte_isEscaped (b : UInt8) : IsEscaped (escapeByte b) := by
  have hb := b.toNat_lt
  refine .escape ?_ ?_ .nil
  · rw [hexDigit?_upperHex _ (by omega)]; rfl
  · rw [hexDigit?_upperHex _ (by omega)]; rfl

theorem escapeChar_isEscaped (c : Char) : IsEscaped (escapeChar c) := by
  unfold escapeChar
  split
  · rename_i hc
    exact .plain hc .nil
  · induction utf8OfChar c with
    | nil => exact .nil
    | cons b bs ih => exact (escapeByte_isEscaped b).append ih

/-- Escaping leaves no other character behind. -/
theorem percentEncode_isEscaped (s : List Char) : IsEscaped (percentEncode s) := by
  induction s with
  | nil => exact .nil
  | cons c s ih => exact (escapeChar_isEscaped c).append ih

/-! ## Reading back -/

theorem percentBytes_escapeByte (b : UInt8) (s : List Char) :
    percentBytes (escapeByte b ++ s) = b :: percentBytes s := by
  have hb := b.toNat_lt
  have hvalue : 16 * (b.toNat / 16) + b.toNat % 16 = b.toNat := by omega
  simp only [escapeByte, List.cons_append, List.nil_append, percentBytes,
    hexDigit?_upperHex (b.toNat / 16) (by omega), hexDigit?_upperHex (b.toNat % 16) (by omega),
    hvalue, UInt8.ofNat_toNat]

theorem percentBytes_cons (hc : c ≠ '%') (s : List Char) :
    percentBytes (c :: s) = UInt8.ofNat c.toNat :: percentBytes s := by
  rw [percentBytes]
  exact fun _ _ _ h => absurd h hc

theorem percentBytes_escapeChar (c : Char) (s : List Char) :
    percentBytes (escapeChar c ++ s) = utf8OfChar c ++ percentBytes s := by
  unfold escapeChar
  split
  · rename_i hc
    have hascii := toNat_lt_of_isUnreserved hc
    rw [List.cons_append, List.nil_append, percentBytes_cons (ne_percent_of_isUnreserved hc),
      utf8OfChar, if_pos hascii]
    rfl
  · induction utf8OfChar c with
    | nil => rfl
    | cons b bs ih =>
      rw [List.flatMap_cons, List.append_assoc, percentBytes_escapeByte, ih, List.cons_append]

theorem percentBytes_percentEncode (s : List Char) : percentBytes (percentEncode s) = utf8 s := by
  induction s with
  | nil => rfl
  | cons c s ih =>
    rw [percentEncode, List.flatMap_cons, percentBytes_escapeChar, ← percentEncode, ih, utf8, utf8,
      List.flatMap_cons]

/-- An ASCII text is one stretch of bytes. -/
theorem percentDecodeFrom_ascii (hs : IsAscii s) (stretch : List Char) :
    percentDecodeFrom stretch s = utf8Lossy (percentBytes (stretch.reverse ++ s)) := by
  induction s generalizing stretch with
  | nil => rw [percentDecodeFrom, List.append_nil]
  | cons c s ih =>
    obtain ⟨hc, hs⟩ := List.forall_mem_cons.mp hs
    rw [percentDecodeFrom, if_pos hc, ih hs]
    simp

/-- Escaping loses nothing. -/
theorem percentDecode_percentEncode (s : List Char) : percentDecode (percentEncode s) = s := by
  rw [percentDecode, percentDecodeFrom_ascii (percentEncode_isEscaped s).isAscii, List.reverse_nil,
    List.nil_append, percentBytes_percentEncode, utf8Lossy_utf8]

end TrackerSearch.Web
