import TrackerSearch.Filter.Apply
import TrackerSearch.Proofs.Web.Form

/-!
# Encoding and decoding as filters

A value that a chain of filters puts into form encoding can be read back by the filter behind it,
whatever the value is. The other way around this is true only of texts that the first filter could
have written; decoding takes many more.
-/
namespace TrackerSearch.Filter

open TrackerSearch.Text TrackerSearch.Web

variable {v w : List Char}

/-- The filter that puts a value into form encoding; it looks at none of its arguments. -/
def encoding (args : List String) : FilterSpec := { kind := .known .urlEncode, args := args }

/-- The filter that reads form encoding. -/
def decoding (args : List String) : FilterSpec := { kind := .known .urlDecode, args := args }

theorem apply_encoding (args : List String) (v : List Char) :
    apply (encoding args) (some v) = pure (some (formEncode v)) := rfl

theorem apply_decoding (args : List String) (v : List Char) :
    apply (decoding args) (some v) = pure (some (formDecode v)) := rfl

/-- A filter that reports nothing hands its value on. -/
theorem applyAll_cons_of_pure {spec : FilterSpec} {value value' : Option (List Char)}
    (h : apply spec value = pure value') (specs : List FilterSpec) :
    applyAll (spec :: specs) value = applyAll specs value' := by
  rw [applyAll, h, Traced.pure_bind]

theorem encodes_iff {args : List String} {u : List Char} :
    apply (encoding args) (some u) = pure (some v) ↔ formEncode u = v := by
  rw [apply_encoding]
  constructor
  · intro h
    exact Option.some.inj (Except.ok.inj (congrArg Traced.outcome h))
  · rintro rfl
    rfl

/-- The texts that encoding writes are those that it restores after they were decoded. -/
theorem formEncode_formDecode_iff : formEncode (formDecode w) = w ↔ ∃ v, formEncode v = w := by
  constructor
  · intro h
    exact ⟨formDecode w, h⟩
  · rintro ⟨v, rfl⟩
    rw [formDecode_formEncode]

/-- **Decoding undoes encoding.** Every value is restored, and none is lost or reported on the way;
what stands in between has no other characters than form encoding allows. A text is restored by
decoding and then encoding it exactly if it is the encoded form of a value. -/
theorem decoding_encoding (args args' : List String) (v : List Char) :
    applyAll [encoding args, decoding args'] (some v) = pure (some v) ∧
    (∃ w, apply (encoding args) (some v) = pure (some w) ∧ IsFormEncoded w) ∧
    (applyAll [decoding args', encoding args] (some v) = pure (some v) ↔
      ∃ u, apply (encoding args) (some u) = pure (some v)) := by
  have hround : applyAll [encoding args, decoding args'] (some v) = pure (some v) := by
    rw [applyAll_cons_of_pure (apply_encoding args v), applyAll_cons_of_pure (apply_decoding args' _),
      formDecode_formEncode]
    rfl
  have hback : applyAll [decoding args', encoding args] (some v) =
      apply (encoding args) (some (formDecode v)) := by
    rw [applyAll_cons_of_pure (apply_decoding args' v), applyAll_cons_of_pure (apply_encoding args _)]
    rfl
  refine ⟨hround, ⟨formEncode v, apply_encoding args v, formEncode_isFormEncoded v⟩, ?_⟩
  rw [hback]
  simp only [encodes_iff]
  exact formEncode_formDecode_iff

end TrackerSearch.Filter
