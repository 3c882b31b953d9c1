import Mathlib.Data.List.Basic
import TrackerSearch.Proofs.Web.Percent
import TrackerSearch.Proofs.Text.Pieces

/-!
# Form encoding

Names and values in form encoding can be read back, in their order and as often as they stand there,
and so can what was put behind them. A pair with an empty value counts as one.
-/
namespace TrackerSearch.Web

open TrackerSearch.Text

variable {c : Char} {s t : List Char} {pairs : List (List Char × List Char)}

/-- The name and the value in a piece of a query; without a sign of equality the value is empty. -/
def pairOf (piece : List Char) : List Char × List Char :=
  (formDecode (piece.takeWhile (· != '=')), formDecode ((piece.dropWhile (· != '=')).drop 1))

/-- All pairs of a query, those with an empty value among them. -/
def formPairs (query : List Char) : List (List Char × List Char) :=
  ((splitBy (· == '&') query).filter (!·.isEmpty)).map pairOf

/-! ## One name or value -/

/-- A character as it stands in a form, before blanks become signs of addition. -/
def blankOrEscaped (c : Char) : List Char := if c = ' ' then [' '] else escapeChar c

theorem mem_escapeChar {x : Char} (h : x ∈ escapeChar c) : isUnreserved x = true ∨ x = '%' :=
  (escapeChar_isEscaped c).mem x h

/-- The only characters of a form apart from the separators. -/
theorem mem_formEncode {x : Char} (h : x ∈ formEncode s) :
    isUnreserved x = true ∨ x = '%' ∨ x = '+' := by
  obtain ⟨c, -, hx⟩ := List.mem_flatMap.mp h
  by_cases hc : c = ' '
  · rw [if_pos hc, List.mem_singleton] at hx
    exact .inr (.inr hx)
  · rw [if_neg hc] at hx
    rcases mem_escapeChar hx with hu | hp
    · exact .inl hu
    · exact .inr (.inl hp)

theorem not_mem_formEncode {x : Char} (hu : isUnreserved x = false) (hp : x ≠ '%') (hadd : x ≠ '+') :
    x ∉ formEncode s := by
  intro h
  rcases mem_formEncode h with h | h | h
  · rw [hu] at h
    cases h
  · exact hp h
  · exact hadd h

/-- No sign of addition in a form comes from one in the text. -/
theorem blanks_formEncode (s : List Char) :
    (formEncode s).map (fun c => if c = '+' then ' ' else c) = s.flatMap blankOrEscaped := by
  rw [formEncode, List.map_flatMap]
  congr 1
  funext c
  unfold blankOrEscaped
  by_cases hc : c = ' '
  · rw [if_pos hc, if_pos hc]
    rfl
  · rw [if_neg hc, if_neg hc]
    have hkeep : ∀ x ∈ escapeChar c, (if x = '+' then ' ' else x) = x := by
      intro x hx
      refine if_neg ?_
      rintro rfl
      rcases mem_escapeChar hx with h | h
      · exact absurd h (by decide)
      · exact absurd h (by decide)
    rw [List.map_congr_left hkeep, List.map_id']

theorem percentBytes_blankOrEscaped (c : Char) (s : List Char) :
    percentBytes (blankOrEscaped c ++ s) = utf8OfChar c ++ percentBytes s := by
  unfold blankOrEscaped
  by_cases hc : c = ' '
  · rw [if_pos hc, hc, List.cons_append, percentBytes_cons (by decide)]
    rfl
  · rw [if_neg hc, percentBytes_escapeChar]

theorem isAscii_blankOrEscaped (s : List Char) : IsAscii (s.flatMap blankOrEscaped) := by
  intro x hx
  obtain ⟨c, -, hx⟩ := List.mem_flatMap.mp hx
  unfold blankOrEscaped at hx
  by_cases hc : c = ' '
  · rw [if_pos hc, List.mem_singleton] at hx
    rw [hx]
    decide
  · rw [if_neg hc] at hx
    rcases mem_escapeChar hx with hu | rfl
    · exact toNat_lt_of_isUnreserved hu
    · decide

/-- The form encoding loses nothing. -/
theorem formDecode_formEncode (s : List Char) : formDecode (formEncode s) = s := by
  have hbytes : percentBytes (s.flatMap blankOrEscaped) = utf8 s := by
    induction s with
    | nil => rfl
    | cons c s ih =>
      rw [List.flatMap_cons, percentBytes_blankOrEscaped, ih, utf8, utf8, List.flatMap_cons]
  rw [formDecode, blanks_formEncode, percentDecode, percentDecodeFrom_ascii
    (isAscii_blankOrEscaped s), List.reverse_nil, List.nil_append, hbytes, utf8Lossy_utf8]

/-- Unreserved characters, signs of addition and escapes of two hexadecimal digits. -/
inductive IsFormEncoded : List Char → Prop where
  | nil : IsFormEncoded []
  | blank {s : List Char} : IsFormEncoded s → IsFormEncoded ('+' :: s)
  | plain {c : Char} {s : List Char} : isUnreserved c = true → IsFormEncoded s →
      IsFormEncoded (c :: s)
  | escape {a b : Char} {s : List Char} : (hexDigit? a).isSome = true →
      (hexDigit? b).isSome = true → IsFormEncoded s → IsFormEncoded ('%' :: a :: b :: s)

theorem IsFormEncoded.append (hs : IsFormEncoded s) (ht : IsFormEncoded t) :
    IsFormEncoded (s ++ t) := by
  induction hs with
  | nil => exact ht
  | blank _ ih => exact .blank ih
  | plain hc _ ih => exact .plain hc ih
  | escape ha hb _ ih => exact .escape ha hb ih

/-- An escaped text is one in form encoding that has no blank. -/
theorem IsEscaped.isFormEncoded (hs : IsEscaped s) : IsFormEncoded s := by
  induction hs with
  | nil => exact .nil
  | plain hc _ ih => exact .plain hc ih
  | escape ha hb _ ih => exact .escape ha hb ih

theorem formEncode_isFormEncoded (s : List Char) : IsFormEncoded (formEncode s) := by
  induction s with
  | nil => exact .nil
  | cons c s ih =>
    rw [formEncode, List.flatMap_cons, ← formEncode]
    by_cases hc : c = ' '
    · rw [if_pos hc]
      exact .blank ih
    · rw [if_neg hc]
      exact (escapeChar_isEscaped c).isFormEncoded.append ih

/-! ## Pairs -/

/-- Two queries with an ampersand between them have the pairs of both. -/
theorem formPairs_append (s t : List Char) :
    formPairs (s ++ '&' :: t) = formPairs s ++ formPairs t := by
  rw [formPairs, splitBy_append (by decide), List.filter_append, List.map_append]
  rfl

theorem pairOf_formEncode (name value : List Char) :
    pairOf (formEncode name ++ '=' :: formEncode value) = (name, value) := by
  have hname : '=' ∉ formEncode name :=
    not_mem_formEncode (by decide) (by decide) (by decide)
  rw [pairOf, takeWhile_ne_append hname, dropWhile_ne_append hname, List.drop_one, List.tail_cons,
    formDecode_formEncode, formDecode_formEncode]

/-- A pair as a piece of a query. -/
def pieceOf (pair : List Char × List Char) : List Char :=
  formEncode pair.1 ++ '=' :: formEncode pair.2

theorem formText_eq (pairs : List (List Char × List Char)) :
    formText pairs = joinWith ['&'] (pairs.map pieceOf) := rfl

/-- A query in form encoding falls into one piece for each pair. -/
theorem splitBy_formText (hne : pairs ≠ []) :
    splitBy (fun x => x == '&') (formText pairs) = pairs.map pieceOf := by
  rw [formText_eq]
  refine splitBy_joinWith (mt List.map_eq_nil_iff.mp hne) fun piece hpiece => ?_
  obtain ⟨pair, -, rfl⟩ := List.mem_map.mp hpiece
  have hencoded (s : List Char) : '&' ∉ formEncode s :=
    not_mem_formEncode (by decide) (by decide) (by decide)
  rw [pieceOf, List.mem_append, List.mem_cons]
  rintro (h | h | h)
  · exact hencoded _ h
  · cases h
  · exact hencoded _ h

theorem formText_cons_cons (name value : List Char) (next : List Char × List Char) :
    formText ((name, value) :: next :: pairs) =
      formEncode name ++ '=' :: formEncode value ++ '&' :: formText (next :: pairs) := by
  simp [formText, joinWith]

/-- The only characters of a query in form encoding. -/
theorem mem_formText {x : Char} (h : x ∈ formText pairs) :
    isUnreserved x = true ∨ x = '%' ∨ x = '+' ∨ x = '=' ∨ x = '&' := by
  have hpair : ∀ name value : List Char, x ∈ formEncode name ++ '=' :: formEncode value →
      isUnreserved x = true ∨ x = '%' ∨ x = '+' ∨ x = '=' ∨ x = '&' := by
    intro name value hx
    rw [List.mem_append, List.mem_cons] at hx
    rcases hx with hx | rfl | hx
    · rcases mem_formEncode hx with h | h | h
      · exact .inl h
      · exact .inr (.inl h)
      · exact .inr (.inr (.inl h))
    · exact .inr (.inr (.inr (.inl rfl)))
    · rcases mem_formEncode hx with h | h | h
      · exact .inl h
      · exact .inr (.inl h)
      · exact .inr (.inr (.inl h))
  induction pairs with
  | nil => cases h
  | cons pair pairs ih =>
    obtain ⟨name, value⟩ := pair
    cases pairs with
    | nil => exact hpair name value h
    | cons next pairs =>
      rw [formText_cons_cons, List.mem_append, List.mem_cons] at h
      rcases h with h | rfl | h
      · exact hpair name value h
      · exact .inr (.inr (.inr (.inr rfl)))
      · exact ih h

/-- Pairs in form encoding are read back as they are. -/
theorem formPairs_formText (pairs : List (List Char × List Char)) :
    formPairs (formText pairs) = pairs := by
  by_cases hne : pairs = []
  · subst hne
    rfl
  · have hkeep : ∀ piece ∈ pairs.map pieceOf, (!piece.isEmpty) = true := by
      intro piece hpiece
      obtain ⟨pair, -, rfl⟩ := List.mem_map.mp hpiece
      simp [pieceOf]
    rw [formPairs, splitBy_formText hne, List.filter_eq_self.mpr hkeep, List.map_map]
    exact (List.map_congr_left fun pair _ => pairOf_formEncode pair.1 pair.2).trans (List.map_id pairs)

/-! ## Pairs with a value -/

theorem queryPairs_append (s t : List Char) :
    queryPairs (s ++ '&' :: t) = queryPairs s ++ queryPairs t := by
  rw [queryPairs, splitBy_append (by decide), List.filterMap_append]
  rfl

theorem formEncode_eq_nil_iff : formEncode s = [] ↔ s = [] := by
  constructor
  · intro h
    rw [← formDecode_formEncode s, h]
    rfl
  · rintro rfl
    rfl

/-- Of pairs in form encoding those with a value are read back. -/
theorem queryPairs_formText (pairs : List (List Char × List Char)) :
    queryPairs (formText pairs) = pairs.filter fun pair => !pair.2.isEmpty := by
  by_cases hne : pairs = []
  · subst hne
    rfl
  · rw [queryPairs, splitBy_formText hne, List.filterMap_map, ← List.filterMap_eq_filter]
    refine List.filterMap_congr fun pair _ => ?_
    have hname : '=' ∉ formEncode pair.1 :=
      not_mem_formEncode (by decide) (by decide) (by decide)
    simp only [Function.comp_apply, pieceOf, takeWhile_ne_append hname, dropWhile_ne_append hname,
      List.drop_one, List.tail_cons, formDecode_formEncode]
    by_cases hvalue : pair.2 = []
    · simp [hvalue, formEncode_eq_nil_iff, Option.guard]
    · simp [hvalue, formEncode_eq_nil_iff, Option.guard]

end TrackerSearch.Web
