import TrackerSearch.Proofs.Text.Pieces
import TrackerSearch.Template.Render

/-!
# Cutting templates

Where literals hold no opening braces and actions no closing ones, a template is cut into the parts
that it was put together from.
-/
namespace TrackerSearch.Template

open TrackerSearch.Text

variable {literal inner s : List Char}

theorem cutAt?_openBraces_iff : cutAt? openBraces s = none ↔ ¬openBraces <:+: s :=
  cutAt?_eq_none_iff (by decide)

theorem cutAt?_closeBraces_iff : cutAt? closeBraces s = none ↔ ¬closeBraces <:+: s :=
  cutAt?_eq_none_iff (by decide)

theorem segments_of_literal (h : ¬openBraces <:+: s) : segments s = ([], s) := by
  rw [segments]
  split
  · rfl
  · rename_i hc
    rw [cutAt?_openBraces_iff.mpr h] at hc
    cases hc

/-- Opening braces that nothing closes are part of the last literal. -/
theorem segments_of_unclosed {rest : List Char} (hopen : cutAt? openBraces s = some (literal, rest))
    (hclose : cutAt? closeBraces rest = none) : segments s = ([], s) := by
  rw [segments]
  split
  · rfl
  · rename_i h
    obtain ⟨rfl, rfl⟩ := Prod.mk.inj (Option.some.inj (h.symm.trans hopen))
    split
    · rfl
    · rename_i h'
      cases h'.symm.trans hclose

theorem segments_of_closed {rest rest' : List Char}
    (hopen : cutAt? openBraces s = some (literal, rest))
    (hclose : cutAt? closeBraces rest = some (inner, rest')) :
    segments s = ((literal, Action.ofInner inner) :: (segments rest').1, (segments rest').2) := by
  rw [segments]
  split
  · rename_i h
    cases h.symm.trans hopen
  · rename_i h
    obtain ⟨rfl, rfl⟩ := Prod.mk.inj (Option.some.inj (h.symm.trans hopen))
    split
    · rename_i h'
      cases h'.symm.trans hclose
    · rename_i h'
      obtain ⟨rfl, rfl⟩ := Prod.mk.inj (Option.some.inj (h'.symm.trans hclose))
      rfl

/-- An action behind a literal is cut off. -/
theorem segments_of_action (hno : ¬openBraces <:+: literal)
    (hlast : literal.getLast? ≠ some '\x7b') (hin : ¬closeBraces <:+: inner)
    (hend : inner.getLast? ≠ some '\x7d') (rest : List Char) :
    segments (literal ++ openBraces ++ inner ++ closeBraces ++ rest) =
      ((literal, Action.ofInner inner) :: (segments rest).1, (segments rest).2) := by
  have hopen : cutAt? openBraces (literal ++ openBraces ++ inner ++ closeBraces ++ rest) =
      some (literal, inner ++ closeBraces ++ rest) := by
    have := cutAt?_pair (cutAt?_openBraces_iff.mpr hno) hlast (inner ++ closeBraces ++ rest)
    simpa [openBraces] using this
  have hclose : cutAt? closeBraces (inner ++ closeBraces ++ rest) = some (inner, rest) := by
    have := cutAt?_pair (cutAt?_closeBraces_iff.mpr hin) hend rest
    simpa [closeBraces] using this
  exact segments_of_closed hopen hclose

/-! ## What is left over -/

/-- The first stretch of a text from opening braces to the next closing ones, or to the end if there
are none. -/
structure FirstLeftover (s fragment : List Char) : Prop where
  opens : openBraces <+: fragment
  /-- No opening braces start before it. -/
  first : ∃ pre post, s = pre ++ fragment ++ post ∧ ¬openBraces <:+: pre ++ ['\x7b'] ∧
    (closeBraces <:+ fragment ∨ post = [])
  /-- Closing braces stand at its end only. -/
  closes : ¬closeBraces <:+: fragment.dropLast

theorem leftover?_of_none (h : ¬openBraces <:+: s) : leftover? s = none := by
  rw [leftover?, cutAt?_openBraces_iff.mpr h]

theorem leftover?_spec (h : openBraces <:+: s) :
    ∃ fragment, leftover? s = some fragment ∧ FirstLeftover s fragment := by
  cases hcut : cutAt? openBraces s with
  | none => exact absurd h (cutAt?_openBraces_iff.mp hcut)
  | some cut =>
    obtain ⟨pre, post⟩ := cut
    obtain ⟨hs, hfirst⟩ := cutAt?_eq_some (by decide) hcut
    have hdrop : s.drop pre.length = openBraces ++ post := by
      rw [hs, List.append_assoc, List.drop_left]
    cases hclose : cutAt? closeBraces (openBraces ++ post) with
    | none =>
      refine ⟨openBraces ++ post, by simp only [leftover?, hcut, hdrop, hclose],
        List.prefix_append .., ⟨pre, [], by simp [hs], hfirst, .inr rfl⟩, fun hin => ?_⟩
      exact cutAt?_closeBraces_iff.mp hclose (hin.trans (List.dropLast_prefix _).isInfix)
    | some inside =>
      obtain ⟨inside, rest⟩ := inside
      obtain ⟨hrest, hnext⟩ := cutAt?_eq_some (by decide) hclose
      refine ⟨inside ++ closeBraces, by simp only [leftover?, hcut, hdrop, hclose], ?_,
        ⟨pre, rest, by rw [hs, List.append_assoc, hrest]; simp, hfirst,
          .inl (List.suffix_append ..)⟩, ?_⟩
      · -- The closing braces that were found are none of the opening ones.
        match inside, hrest with
        | [], hrest => cases hrest
        | [_], hrest => cases hrest
        | _ :: _ :: inside, hrest =>
          cases hrest
          exact List.prefix_append openBraces (inside ++ closeBraces)
      · rwa [List.dropLast_append_of_ne_nil (by decide)]

end TrackerSearch.Template
