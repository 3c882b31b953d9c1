import Mathlib.Data.List.Basic
import TrackerSearch.Number.Binary64
import TrackerSearch.Proofs.Text.Letter
import TrackerSearch.Time.Iso

/-!
# The characters of numbers

Numbers are written with digits, signs, a point and the letters of an exponent or a name. A minus
sign inside a number always goes along with a point or a letter.
-/
namespace TrackerSearch.Number

open Text

variable {s t : List Char} {c : Char}

theorem toList_toString_nat (n : Nat) : (toString n).toList = Nat.toDigits 10 n := by
  rw [Nat.toString_eq_ofList_toDigits, String.toList_ofList]

theorem toList_toString_ofNat (n : Nat) :
    (toString (Int.ofNat n)).toList = Nat.toDigits 10 n :=
  toList_toString_nat n

theorem toList_toString_negSucc (n : Nat) :
    (toString (Int.negSucc n)).toList = '-' :: Nat.toDigits 10 (n + 1) := by
  change ("-" ++ toString (n + 1)).toList = _
  rw [String.toList_append, toList_toString_nat]
  rfl

/-- The value of a numeral, digit by digit. -/
theorem foldl_toDigits (n : Nat) :
    (Nat.toDigits 10 n).foldl (fun n c => n * 10 + (c.toNat - 48)) 0 = n := by
  have hvalue := @Nat.ofDigitChars_ten_toDigits n
  rw [Nat.ofDigitChars] at hvalue
  refine Eq.trans ?_ hvalue
  congr 1
  funext m c
  rw [Nat.mul_comm]
  rfl

/-- A text of digits only. -/
def Digits (s : List Char) : Prop := ∀ c ∈ s, c.isDigit = true

theorem digits_toDigits (n : Nat) : Digits (Nat.toDigits 10 n) := fun _ hc =>
  Nat.isDigit_of_mem_toDigits (by decide) (by decide) hc

theorem digits_replicate (n : Nat) : Digits (List.replicate n '0') := by
  intro c hc
  rw [List.eq_of_mem_replicate hc]
  decide

theorem Digits.append (hs : Digits s) (ht : Digits t) : Digits (s ++ t) :=
  List.forall_mem_append.mpr ⟨hs, ht⟩

theorem Digits.of_subset (ht : Digits t) (hsub : s ⊆ t) : Digits s := fun c hc => ht c (hsub hc)

theorem digits_padded (width n : Nat) : Digits (Time.padded width n) :=
  (digits_replicate _).append (digits_toDigits n)

theorem padded_ne_nil (width n : Nat) : Time.padded width n ≠ [] := by
  unfold Time.padded
  exact List.append_ne_nil_of_right_ne_nil _ Nat.toDigits_ne_nil

theorem Digits.minus_not_mem (h : Digits s) : '-' ∉ s := fun hm => by
  have := h '-' hm
  revert this
  decide

/-- The characters of numbers and of truth values. -/
def isNumberChar (c : Char) : Bool := c.isDigit || "+-.aefilnrstu".toList.contains c

/-- A text of such characters; a minus sign inside it is not alone between the digits. -/
structure NumberWord (s : List Char) : Prop where
  chars : ∀ c ∈ s, isNumberChar c = true
  sign : '-' ∈ s.tail → ∃ c ∈ s, c.isDigit = false ∧ c ≠ '-'

theorem Digits.isNumberChar (h : Digits s) : ∀ c ∈ s, isNumberChar c = true := fun c hc => by
  rw [Number.isNumberChar, h c hc]
  rfl

theorem NumberWord.of_mem (hchars : ∀ c ∈ s, isNumberChar c = true) (hc : c ∈ s)
    (hother : c.isDigit = false ∧ c ≠ '-') : NumberWord s where
  chars := hchars
  sign _ := ⟨c, hc, hother⟩

theorem numberWord_int (n : Int) : NumberWord (toString n).toList := by
  cases n with
  | ofNat n =>
    rw [toList_toString_ofNat]
    have hdigits := digits_toDigits n
    exact ⟨hdigits.isNumberChar, fun h => absurd (List.mem_of_mem_tail h) hdigits.minus_not_mem⟩
  | negSucc n =>
    rw [toList_toString_negSucc]
    have hdigits := digits_toDigits (n + 1)
    exact ⟨List.forall_mem_cons.mpr ⟨by decide, hdigits.isNumberChar⟩,
      fun h => absurd h hdigits.minus_not_mem⟩

/-- A sign in front of a text with a point or a letter. -/
theorem NumberWord.signed (negative : Bool) (h : ∀ c ∈ s, Number.isNumberChar c = true) (hc : c ∈ s)
    (hother : c.isDigit = false ∧ c ≠ '-') :
    NumberWord ((if negative then "-" else "") ++ String.ofList s).toList := by
  rw [String.toList_append, String.toList_ofList]
  refine .of_mem (List.forall_mem_append.mpr ⟨?_, h⟩) (List.mem_append_right _ hc) hother
  cases negative <;> exact forall_mem_of_all (by decide)

theorem numberWord_float (x : Binary64) : NumberWord x.text.toList := by
  cases x with
  | nan => exact .of_mem (c := 'n') (forall_mem_of_all (by decide)) (by decide) (by decide)
  | infinite negative =>
    cases negative
    · exact .of_mem (c := 'n') (forall_mem_of_all (by decide)) (by decide) (by decide)
    · exact .of_mem (c := 'n') (forall_mem_of_all (by decide)) (by decide) (by decide)
  | finite negative m e =>
    unfold Binary64.text
    dsimp only
    have hdigits := digits_toDigits (Binary64.shortest m e).1
    split
    · exact .signed (s := ['0', '.', '0']) negative (forall_mem_of_all (by decide)) (c := '.')
        (by decide) (by decide)
    · split
      · split
        · refine .signed negative ?_ (c := '.') (by simp) (by decide)
          refine List.forall_mem_append.mpr ⟨?_, hdigits.isNumberChar⟩
          exact List.forall_mem_cons.mpr ⟨by decide,
            List.forall_mem_cons.mpr ⟨by decide, (digits_replicate _).isNumberChar⟩⟩
        · refine .signed negative ?_ (c := '.') (by simp) (by decide)
          refine List.forall_mem_append.mpr ⟨?_, List.forall_mem_cons.mpr ⟨by decide, ?_⟩⟩
          · exact ((hdigits.of_subset (List.take_subset ..)).append
              (digits_replicate _)).isNumberChar
          · split
            · exact forall_mem_of_all (by decide)
            · exact (hdigits.of_subset (List.drop_subset ..)).isNumberChar
      · refine .signed negative ?_ (c := 'e') (by simp) (by decide)
        have hpower := (digits_toDigits (Binary64.shortest m e).2.natAbs).isNumberChar
        refine List.forall_mem_append.mpr ⟨List.forall_mem_append.mpr ⟨?_, ?_⟩, ?_⟩
        · exact (hdigits.of_subset (List.take_subset ..)).isNumberChar
        · split
          · exact List.forall_mem_cons.mpr ⟨by decide,
              (hdigits.of_subset (List.drop_subset ..)).isNumberChar⟩
          · simp
        · refine List.forall_mem_cons.mpr ⟨by decide, List.forall_mem_cons.mpr ⟨?_, ?_⟩⟩
          · split <;> decide
          · split
            · exact List.forall_mem_cons.mpr ⟨by decide, hpower⟩
            · exact hpower

end TrackerSearch.Number
