import Mathlib.Data.List.Basic
import TrackerSearch.Json.Read
import TrackerSearch.Json.Write
import TrackerSearch.Proofs.Number.Decimal

/-!
# Reading what has been written

The indented form of a value is read as this value, if it has no floating-point numbers, names the
members of each object apart and is nested no deeper than the reader goes. Nothing but blanks may
follow, so that the form is the only value in its text.
-/
namespace TrackerSearch.Json

open Text Number

variable {s t rest : List Char} {c : Char} {j : Json}

/-! ## Blanks and ends -/

/-- Blanks only. -/
def Blank (s : List Char) : Prop := ∀ c ∈ s, c = ' ' ∨ c = '\t' ∨ c = '\n' ∨ c = '\r'

/-- A text that does not go on with a number. -/
def Stops (s : List Char) : Prop :=
  ∀ c ∈ s.head?, isAsciiDigit c = false ∧ c ≠ '.' ∧ c ≠ 'e' ∧ c ≠ 'E'

theorem Blank.stops (h : Blank s) : Stops s := by
  intro c hc
  rcases h c (List.mem_of_mem_head? hc) with rfl | rfl | rfl | rfl <;> decide

/-- The value is read from its indented form, whatever blanks stand in front and whatever text
follows. -/
def Reads (value : List Char → Option (Json × List Char)) (j : Json) : Prop :=
  ∀ n blank rest, Blank blank → Stops rest →
    value (blank ++ ((indented n j).toList ++ rest)) = some (j, rest)

end TrackerSearch.Json
