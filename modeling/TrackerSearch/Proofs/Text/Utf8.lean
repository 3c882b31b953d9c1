import TrackerSearch.Text.Utf8

/-!
# Reading back UTF-8

The bytes of a text are read back as that text; nothing in them counts as malformed.
-/
namespace TrackerSearch.Text

variable {b value lo hi more : Nat} {rest : List UInt8}

theorem toNat_ofNat_byte (hb : b < 256) : (UInt8.ofNat b).toNat = b := by
  rw [UInt8.toNat_ofNat', Nat.mod_eq_of_lt hb]

/-- The code points of characters. -/
theorem toNat_bounds (c : Char) : c.toNat < 0xD800 ∨ 0xDFFF < c.toNat ∧ c.toNat < 0x110000 :=
  c.valid

theorem utf8Chars_lead {s : Utf8State} (hb : b < 256) (hl : utf8Lead b = .go s) :
    utf8Chars .start (UInt8.ofNat b :: rest) = utf8Chars s rest := by
  rw [utf8Chars, toNat_ofNat_byte hb, hl]

/-- A continuation byte before the last one. -/
theorem utf8Chars_inside (hb : b < 256) (hlo : lo ≤ b) (hhi : b ≤ hi) :
    utf8Chars (.inside (more + 2) value lo hi) (UInt8.ofNat b :: rest) =
      utf8Chars (.inside (more + 1) (value * 64 + (b - 0x80)) 0x80 0xBF) rest := by
  rw [utf8Chars, toNat_ofNat_byte hb, if_pos ⟨hlo, hhi⟩]

/-- The last byte of a character. -/
theorem utf8Chars_last (hb : b < 256) (hlo : lo ≤ b) (hhi : b ≤ hi) :
    utf8Chars (.inside 1 value lo hi) (UInt8.ofNat b :: rest) =
      some (Char.ofNat (value * 64 + (b - 0x80))) :: utf8Chars .start rest := by
  rw [utf8Chars, toNat_ofNat_byte hb, if_pos ⟨hlo, hhi⟩]

theorem utf8Chars_utf8OfChar (c : Char) (rest : List UInt8) :
    utf8Chars .start (utf8OfChar c ++ rest) = some c :: utf8Chars .start rest := by
  have hn := toNat_bounds c
  have hc := Char.ofNat_toNat c
  unfold utf8OfChar
  generalize c.toNat = n at hn hc ⊢
  simp only
  split
  · rename_i h1
    rw [List.cons_append, List.nil_append, utf8Chars, toNat_ofNat_byte (by omega), utf8Lead,
      if_pos h1, hc]
  · split
    · have hl : utf8Lead (0xC0 + n / 64) = .go (.inside 1 (n / 64) 0x80 0xBF) := by
        rw [utf8Lead, if_neg (by omega), if_neg (by omega), if_pos (by omega),
          Nat.add_sub_cancel_left]
      have hvalue : n / 64 * 64 + (0x80 + n % 64 - 0x80) = n := by omega
      simp only [List.cons_append, List.nil_append]
      rw [utf8Chars_lead (by omega) hl, utf8Chars_last (by omega) (by omega) (by omega), hvalue, hc]
    · split
      · -- The bounds of the second byte leave out longer forms than needed and surrogates.
        have hl : utf8Lead (0xE0 + n / 4096) = .go (.inside 2 (n / 4096)
            (if 0xE0 + n / 4096 = 0xE0 then 0xA0 else 0x80)
            (if 0xE0 + n / 4096 = 0xED then 0x9F else 0xBF)) := by
          rw [utf8Lead, if_neg (by omega), if_neg (by omega), if_neg (by omega), if_pos (by omega),
            Nat.add_sub_cancel_left]
        have hvalue : (n / 4096 * 64 + (0x80 + n / 64 % 64 - 0x80)) * 64 + (0x80 + n % 64 - 0x80) =
            n := by omega
        simp only [List.cons_append, List.nil_append]
        rw [utf8Chars_lead (by omega) hl, utf8Chars_inside (by omega) (by split <;> omega)
          (by split <;> omega), utf8Chars_last (by omega) (by omega) (by omega), hvalue, hc]
      · -- Here they leave out longer forms than needed and what lies beyond the last code point.
        have hl : utf8Lead (0xF0 + n / 262144) = .go (.inside 3 (n / 262144)
            (if 0xF0 + n / 262144 = 0xF0 then 0x90 else 0x80)
            (if 0xF0 + n / 262144 = 0xF4 then 0x8F else 0xBF)) := by
          rw [utf8Lead, if_neg (by omega), if_neg (by omega), if_neg (by omega), if_neg (by omega),
            if_pos (by omega), Nat.add_sub_cancel_left]
        have hvalue : ((n / 262144 * 64 + (0x80 + n / 4096 % 64 - 0x80)) * 64 +
            (0x80 + n / 64 % 64 - 0x80)) * 64 + (0x80 + n % 64 - 0x80) = n := by omega
        simp only [List.cons_append, List.nil_append]
        rw [utf8Chars_lead (by omega) hl, utf8Chars_inside (by omega) (by split <;> omega)
          (by split <;> omega), utf8Chars_inside (by omega) (by omega) (by omega),
          utf8Chars_last (by omega) (by omega) (by omega), hvalue, hc]

theorem utf8Chars_utf8 (s : List Char) : utf8Chars .start (utf8 s) = s.map some := by
  induction s with
  | nil => rfl
  | cons c s ih => rw [utf8, List.flatMap_cons, utf8Chars_utf8OfChar, ← utf8, ih, List.map_cons]

theorem utf8Lossy_utf8 (s : List Char) : utf8Lossy (utf8 s) = s := by
  rw [utf8Lossy, utf8Chars_utf8, List.map_map]
  exact List.map_id s

end TrackerSearch.Text
