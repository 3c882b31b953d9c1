import TrackerSearch.Proofs.Definition.Identifier

/-!
# Identifiers that are seen before loading

A definition is looked for by the identifier that is seen in its file without a check of the rest.
In a file that loads, bare or wrapped as a resource, this is the identifier of the definition, or
none is seen. None is seen where the identifier is blank, and where it is given as bytes, which
loading takes for the text that they encode (`peekId_of_loaded`). The second one is a gap:
a definition of that kind is loaded and cannot be asked for (`peekId_of_binaryFile`).
-/
namespace TrackerSearch.Definition

open Text

variable {document : Document} {content : Except FileFault (List Char)} {d : Definition}
  {id : String}

/-! ## What is seen -/

theorem identifier?_ne_blank (value : Document) : identifier? value ≠ some "" := by
  cases value with
  | str s =>
    rw [identifier?]
    split
    · simp
    · rename_i hne
      simpa [String.isEmpty_iff] using hne
  | _ => simp [identifier?]

theorem idOfDocument?_ne_blank (document : Document) : idOfDocument? document ≠ some "" := by
  cases document with
  | map entries =>
    intro h
    rw [idOfDocument?] at h
    split at h
    · obtain ⟨value, -, hvalue⟩ := Option.bind_eq_some_iff.mp h
      exact identifier?_ne_blank value hvalue
    · cases h
  | _ => simp [idOfDocument?]

theorem idOfDocument?_of_hasBytesId (h : HasBytesId document) : idOfDocument? document = none := by
  cases document with
  | map entries =>
    obtain ⟨inner, data, hu, hid⟩ := h
    rw [idOfDocument?_of_unwrap hu, hid]
    rfl
  | _ => cases h

/-- The identifier in a file is given as bytes. -/
def GivesBytesId (content : Except FileFault (List Char)) : Prop :=
  ∃ text document, content = .ok text ∧ Yaml.read text = .ok document ∧ HasBytesId document

theorem peekId_of_givesBytesId (h : GivesBytesId content) : peekId content = .ok none := by
  obtain ⟨text, document, rfl, hread, hbytes⟩ := h
  rw [peekId_of_read hread, idOfDocument?_of_hasBytesId hbytes]

/-! ## What is seen and what is loaded -/

/-- **The identifier that is seen is the one that is loaded.** If a file loads, an identifier that
is seen in it is that of its definition, and it is seen unless it is blank or given as bytes. -/
theorem peekId_of_loaded (hl : (load content).outcome = .ok d) :
    (∀ id, peekId content = .ok (some id) → id = d.id) ∧
      (peekId content = .ok (some d.id) ↔ d.id ≠ "" ∧ ¬GivesBytesId content) ∧
      (peekId content ≠ .ok (some d.id) → peekId content = .ok none) := by
  have hcases := peekId_of_load hl
  refine ⟨fun id hid => (id_of_peekId hl hid).symm, ⟨fun hseen => ⟨?_, ?_⟩, ?_⟩, ?_⟩
  · intro hblank
    obtain ⟨text, document, rfl, hread, -⟩ := load_eq_ok.mp hl
    rw [peekId_of_read hread, hblank] at hseen
    exact idOfDocument?_ne_blank document (Except.ok.inj hseen)
  · intro hbytes
    rw [peekId_of_givesBytesId hbytes] at hseen
    cases hseen
  · rintro ⟨hblank, hbytes⟩
    rcases hcases with hseen | ⟨-, hwhy⟩
    · exact hseen
    · exact absurd hwhy (not_or.mpr ⟨hblank, hbytes⟩)
  · intro hnot
    rcases hcases with hseen | ⟨hnone, -⟩
    · exact absurd hseen hnot
    · exact hnone

/-- A file whose identifier is given as a text, wrapped as a resource without a name. -/
def wrappedFile : List Char :=
  "kind: Indexer\napiVersion: v1\nspec: \x7bid: ' x ', name: X\x7d\n".toList

theorem peekId_of_wrappedFile : ∃ d, (load (.ok wrappedFile)).outcome = .ok d ∧ d.id = "x" ∧
    (∀ id, peekId (.ok wrappedFile) = .ok (some id) → id = d.id) ∧
      (peekId (.ok wrappedFile) = .ok (some d.id) ↔ d.id ≠ "" ∧ ¬GivesBytesId (.ok wrappedFile)) ∧
      (peekId (.ok wrappedFile) ≠ .ok (some d.id) → peekId (.ok wrappedFile) = .ok none) := by
  have hid : (load (.ok wrappedFile)).outcome.map (·.id) = .ok "x" := by decide +kernel
  obtain ⟨d, hload, hd⟩ := except_map_eq_ok.mp hid
  exact ⟨d, hload, hd, peekId_of_loaded hload⟩

/-- A file whose identifier is given as the bytes of a text. -/
def binaryFile : List Char := "id: !!binary Zm9v\nname: X\n".toList

/-- The file loads, with an identifier that is not seen in it. -/
theorem peekId_of_binaryFile : ∃ d, (load (.ok binaryFile)).outcome = .ok d ∧ d.id = "foo" ∧
    peekId (.ok binaryFile) = .ok none := by
  have hid : (load (.ok binaryFile)).outcome.map (·.id) = .ok "foo" := by decide +kernel
  obtain ⟨d, hload, hd⟩ := except_map_eq_ok.mp hid
  exact ⟨d, hload, hd, by decide +kernel⟩

end TrackerSearch.Definition
