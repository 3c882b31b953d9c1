import TrackerSearch.Definition.Load
import TrackerSearch.Proofs.Document.Checked

/-!
# Identifiers of definitions

The identifier that is read off a file without a check of the rest is the one that its definition
has once it is loaded. The other way round, a definition that is loaded can be found in its file
unless its identifier is blank or given as bytes (`peekId_of_load`).
-/
namespace TrackerSearch

open Text

namespace Definition

variable {document : Document} {entries inner : List (Document × Document)}
  {content : Except FileFault (List Char)} {d : Definition} {id : String}

/-! ## Definitions that are read -/

theorem unwrap_of_bare (h : isResource entries = false) : unwrap entries = .ok entries := by
  rw [unwrap, if_neg (by rw [h]; exact Bool.false_ne_true)]

theorem ofDocument_eq_ok : ofDocument document = .ok d ↔ ∃ entries inner,
    document = .map entries ∧ unwrap entries = .ok inner ∧ read (.map inner) = .ok d := by
  cases document with
  | map entries =>
    have hchecked : ofDocument (.map entries) = .ok d ↔
        ((unwrap entries).andThen fun inner => read (.map inner)) = .ok d := by
      rw [ofDocument, ← Checked.toExcept_eq_ok]
      cases ((unwrap entries).andThen fun inner => read (.map inner)).toExcept <;>
        simp [mapError_ok, mapError_error]
    rw [hchecked, Checked.andThen_eq_ok]
    constructor
    · rintro ⟨inner, hu, hr⟩
      exact ⟨entries, inner, rfl, hu, hr⟩
    · rintro ⟨_, inner, hentries, hu, hr⟩
      cases hentries
      exact ⟨inner, hu, hr⟩
  | _ => simp [ofDocument]

/-- What is loaded is read off a document. -/
theorem load_eq_ok : (load content).outcome = .ok d ↔ ∃ text document,
    content = .ok text ∧ Yaml.read text = .ok document ∧ ofDocument document = .ok d := by
  constructor
  · intro h
    cases content with
    | error fault => cases h
    | ok text =>
      simp only [load, ofText] at h
      split at h
      case h_1 | h_2 | h_3 => cases h
      case h_4 document hread =>
        refine ⟨text, document, rfl, hread, ?_⟩
        split at h
        · cases h
        · rename_i d' hd
          rw [hd, Except.ok.inj h]
  · rintro ⟨text, document, rfl, hread, hd⟩
    simp only [load, ofText, hread, hd]
    rfl

/-- A definition that is read has the identifier of its document, without blanks around it. -/
theorem read_holds (entries : List (Document × Document)) :
    (read (.map entries)).Holds fun d => ∃ value s, Document.find? entries "id" = some value ∧
      value.asString = .ok s ∧ d.id = stripped s := by
  unfold read Document.asRecord
  -- The identifier is the first of fifteen fields; the others do not matter.
  iterate 14 refine .seq ?_
  refine .map fun id hid => ?_
  obtain ⟨value, hvalue, hcheck⟩ := Document.required_eq_ok.mp hid
  obtain ⟨s, hs, hid⟩ := Checked.andThen_eq_ok.mp hcheck
  have hfind : Document.find? entries "id" = some value := by
    unfold Document.fieldValue? at hvalue
    cases hf : Document.find? entries "id" with
    | some value' => simpa [hf] using hvalue
    | none => simp [hf] at hvalue
  split at hid
  · cases hid
  · obtain rfl := Checked.ok.inj hid
    intros
    exact ⟨value, s, hfind, hs, rfl⟩

/-! ## Identifiers that are found without a check -/

theorem idOfDocument?_of_unwrap (h : unwrap entries = .ok inner) :
    idOfDocument? (.map entries) = (Document.find? inner "id").bind identifier? := by
  simp only [idOfDocument?, h, Checked.toExcept]

theorem peekId_of_read {text : List Char} (h : Yaml.read text = .ok document) :
    peekId (.ok text) = .ok (idOfDocument? document) := by
  rw [peekId, h]

theorem identifier?_eq {value : Document} {id s : String} (hid : identifier? value = some id)
    (hs : value.asString = .ok s) : id = stripped s := by
  cases value with
  | str t =>
    obtain rfl := Checked.ok.inj hs
    simp only [identifier?] at hid
    split at hid
    · cases hid
    · exact (Option.some.inj hid).symm
  | _ => cases hid

/-- A definition in a document has the identifier that is found there without a check. -/
theorem id_of_idOfDocument? (hd : ofDocument document = .ok d)
    (hid : idOfDocument? document = some id) : d.id = id := by
  obtain ⟨entries, inner, rfl, hu, hr⟩ := ofDocument_eq_ok.mp hd
  obtain ⟨value, s, hvalue, hs, hdid⟩ := read_holds inner d hr
  rw [idOfDocument?_of_unwrap hu, hvalue] at hid
  rw [hdid, identifier?_eq hid hs]

/-- What is loaded from a file has the identifier that was seen in the file before. -/
theorem id_of_peekId (hl : (load content).outcome = .ok d)
    (hp : peekId content = .ok (some id)) : d.id = id := by
  obtain ⟨text, document, rfl, hread, hd⟩ := load_eq_ok.mp hl
  rw [peekId_of_read hread] at hp
  exact id_of_idOfDocument? hd (Except.ok.inj hp)

/-- The identifier in a document is given as bytes. -/
def HasBytesId : Document → Prop
  | .map entries => ∃ inner bytes, unwrap entries = .ok inner ∧
      Document.find? inner "id" = some (.bytes bytes)
  | _ => False

/-- The identifier of a definition is found without a check, unless it is blank or given as
bytes. -/
theorem idOfDocument?_of_ofDocument (hd : ofDocument document = .ok d) :
    idOfDocument? document = some d.id ∨
      (idOfDocument? document = none ∧ (d.id = "" ∨ HasBytesId document)) := by
  obtain ⟨entries, inner, rfl, hu, hr⟩ := ofDocument_eq_ok.mp hd
  obtain ⟨value, s, hvalue, hs, hid⟩ := read_holds inner d hr
  rw [idOfDocument?_of_unwrap hu, hvalue, Option.bind_some, hid]
  cases value with
  | str t =>
    obtain rfl := Checked.ok.inj hs
    rw [identifier?]
    split
    · rename_i hblank
      exact .inr ⟨rfl, .inl (String.isEmpty_iff.mp hblank)⟩
    · exact .inl rfl
  | bytes data => exact .inr ⟨rfl, .inr ⟨inner, data, hu, hvalue⟩⟩
  | _ => cases hs

/-- What is loaded from a file is found in it by its identifier, unless that is blank or given as
bytes. -/
theorem peekId_of_load (hl : (load content).outcome = .ok d) :
    peekId content = .ok (some d.id) ∨
      (peekId content = .ok none ∧
        (d.id = "" ∨ ∃ text document, content = .ok text ∧ Yaml.read text = .ok document ∧
          HasBytesId document)) := by
  obtain ⟨text, document, rfl, hread, hd⟩ := load_eq_ok.mp hl
  rw [peekId_of_read hread]
  rcases idOfDocument?_of_ofDocument hd with hid | ⟨hid, hblank | hbytes⟩
  · exact .inl (by rw [hid])
  · exact .inr ⟨by rw [hid], .inl hblank⟩
  · exact .inr ⟨by rw [hid], .inr ⟨text, document, rfl, hread, hbytes⟩⟩

end Definition
end TrackerSearch
