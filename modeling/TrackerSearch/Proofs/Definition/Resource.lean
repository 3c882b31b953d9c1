import TrackerSearch.Proofs.Definition.Identifier
import TrackerSearch.Proofs.Definition.Overlay
import TrackerSearch.Proofs.Document.Entries

/-!
# Resources

A resource wraps a definition, and its name stands in for an identifier that is missing. So a
resource is read as the bare document is, or as the bare document with the name of the resource as
its identifier, whether it is loaded or only looked at for its identifier
(`sameReading_resource`).
-/
namespace TrackerSearch

namespace Document

variable {t : Table Document} {key : String} {d : Document}

/-! ## Mappings with text keys -/

/-- The entries of a mapping with text keys. -/
def entriesOf (t : Table Document) : List (Document × Document) :=
  t.map fun entry => (str entry.1, entry.2)

theorem insert_entriesOf (t : Table Document) (key : String) (d : Document) :
    insert (entriesOf t) (str key) d = entriesOf (insertKey t key d) := by
  by_cases hmem : key ∈ t.map (·.1)
  · have hexists : ∃ entry ∈ entriesOf t, sameKey entry.1 (str key) = true := by
      obtain ⟨entry, hentry, rfl⟩ := List.mem_map.mp hmem
      exact ⟨_, List.mem_map_of_mem hentry, sameKey_str_self _⟩
    rw [insert_of_mem hexists, Table.insertKey_of_mem hmem, entriesOf, entriesOf, List.map_map,
      List.map_map]
    refine List.map_congr_left fun entry _ => ?_
    by_cases hk : entry.1 = key <;> simp [hk, sameKey]
  · have hnone : ¬∃ entry ∈ entriesOf t, sameKey entry.1 (str key) = true := by
      rintro ⟨_, hentry, hsame⟩
      obtain ⟨entry, hmember, rfl⟩ := List.mem_map.mp hentry
      obtain rfl := str.inj (sameKey_str_iff.mp hsame)
      exact hmem (List.mem_map_of_mem hmember)
    rw [insert_of_not_mem hnone, Table.insertKey_of_not_mem hmem, entriesOf, entriesOf,
      List.map_append]
    rfl

theorem checkEntries_entriesOf (t : Table Document) : checkEntries .ok (entriesOf t) = .ok t := by
  induction t with
  | nil => rfl
  | cons entry t ih =>
    rw [entriesOf, List.map_cons, checkEntries]
    rw [entriesOf] at ih
    rw [ih]
    rfl

/-- A mapping with distinct text keys is read as it is. -/
theorem asTable_entriesOf (h : t.Distinct) : asTable .ok (map (entriesOf t)) = .ok t := by
  rw [asTable, checkEntries_entriesOf]
  exact congrArg Checked.ok (Table.tableOf_of_distinct h)

end Document

namespace Definition

open Document

variable {version name : String} {metadata spec : Table Document}

/-- A mapping wrapped as a resource. -/
def resource (version : String) (metadata spec : Table Document) : List (Document × Document) :=
  [(.str "apiVersion", .str version), (.str "kind", .str resourceKind),
    (.str "metadata", .map (entriesOf metadata)), (.str "spec", .map (entriesOf spec))]

/-- Does a mapping go without an identifier? -/
def lacksId (spec : Table Document) : Bool := ((spec.lookup? "id").getD .null).isFalsy

theorem readResource_resource (hmetadata : metadata.Distinct) (hspec : spec.Distinct)
    (version : String) : readResource (resource version metadata spec) = .ok (metadata, spec) := by
  have hapi : fieldValue? (resource version metadata spec) "apiVersion" "api_version" =
      some (.str version) := rfl
  have hkind : fieldValue? (resource version metadata spec) "kind" "kind" =
      some (.str resourceKind) := rfl
  have hmeta : fieldValue? (resource version metadata spec) "metadata" "metadata" =
      some (.map (entriesOf metadata)) := rfl
  have hfield : fieldValue? (resource version metadata spec) "spec" "spec" =
      some (.map (entriesOf spec)) := rfl
  simp only [readResource, required, orElse, hapi, hkind, hmeta, hfield,
    asTable_entriesOf hmetadata, asTable_entriesOf hspec]
  rfl

/-! ## What a resource is unwrapped to -/

theorem isResource_resource (version : String) (metadata spec : Table Document) :
    isResource (resource version metadata spec) = true := rfl

/-- A resource without a name, or of a mapping with an identifier, is unwrapped to the mapping. -/
theorem unwrap_resource_of_kept (hmetadata : metadata.Distinct) (hspec : spec.Distinct)
    (version : String)
    (hkept : lacksId spec = false ∨ ∀ name, metadata.lookup? "name" ≠ some (.str name)) :
    unwrap (resource version metadata spec) = .ok (entriesOf spec) := by
  rw [unwrap, if_pos (isResource_resource version metadata spec),
    readResource_resource hmetadata hspec, Checked.map]
  dsimp only
  split
  · rename_i name hname
    rcases hkept with hid | hnone
    · rw [lacksId] at hid
      rw [hid]
      rfl
    · exact absurd hname (hnone name)
  · rfl

/-- A resource with a name gives it to a mapping without an identifier. -/
theorem unwrap_resource_of_name (hmetadata : metadata.Distinct) (hspec : spec.Distinct)
    (version : String) (hlacks : lacksId spec = true)
    (hname : metadata.lookup? "name" = some (.str name)) :
    unwrap (resource version metadata spec) =
      .ok (entriesOf (insertKey spec "id" (.str name))) := by
  rw [lacksId] at hlacks
  rw [unwrap, if_pos (isResource_resource version metadata spec),
    readResource_resource hmetadata hspec, Checked.map]
  dsimp only
  rw [hname, ← insert_entriesOf]
  dsimp only
  rw [hlacks, if_pos rfl]
  rfl

/-- A mapping that is not a resource does not become one by an identifier. -/
theorem isResource_insert_id (spec : Table Document) (d : Document) :
    isResource (entriesOf (insertKey spec "id" d)) = isResource (entriesOf spec) := by
  unfold isResource
  rw [← insert_entriesOf, find?_insert_of_ne (by simp), find?_insert_of_ne (by simp)]

/-! ## Two documents that are read as one -/

/-- Two documents are read in the same way: they stand for one definition, or are refused for the
same reasons, and show the same identifier to who looks for it only; and so do their files. -/
structure SameReading (a b : Document) : Prop where
  parsed : ofDocument a = ofDocument b
  seen : idOfDocument? a = idOfDocument? b
  loaded : ∀ {text text' : List Char}, Yaml.read text = .ok a → Yaml.read text' = .ok b →
    load (.ok text) = load (.ok text') ∧ peekId (.ok text) = peekId (.ok text')

theorem SameReading.of_eq {a b : Document} (hparsed : ofDocument a = ofDocument b)
    (hseen : idOfDocument? a = idOfDocument? b) : SameReading a b where
  parsed := hparsed
  seen := hseen
  loaded ha hb := by
    refine ⟨?_, by rw [peekId_of_read ha, peekId_of_read hb, hseen]⟩
    simp only [load, ofText, ha, hb, hparsed]

/-- The entries behind the wrapping are all that is read. -/
theorem sameReading_of_unwrap {a b : List (Document × Document)} (h : unwrap a = unwrap b) :
    SameReading (.map a) (.map b) := by
  refine .of_eq ?_ ?_
  · rw [ofDocument, ofDocument, h]
  · rw [idOfDocument?, idOfDocument?, h]

/-- **A resource is read as what it wraps.** Take a mapping that is no resource itself. Wrapped as a
resource it is read as it is, if it has an identifier or the resource has no name; otherwise it is
read with the name of the resource as its identifier, in the place of the empty one or behind all
other keys. -/
theorem sameReading_resource (version : String) (hmetadata : metadata.Distinct)
    (hspec : spec.Distinct) (hbare : isResource (entriesOf spec) = false) :
    ((lacksId spec = false ∨ ∀ name, metadata.lookup? "name" ≠ some (.str name)) →
      SameReading (.map (resource version metadata spec)) (.map (entriesOf spec))) ∧
    ∀ name, lacksId spec = true → metadata.lookup? "name" = some (.str name) →
      SameReading (.map (resource version metadata spec))
        (.map (entriesOf (insertKey spec "id" (.str name)))) := by
  constructor
  · intro hkept
    apply sameReading_of_unwrap
    rw [unwrap_resource_of_kept hmetadata hspec version hkept, unwrap_of_bare hbare]
  · intro name hlacks hname
    apply sameReading_of_unwrap
    rw [unwrap_resource_of_name hmetadata hspec version hlacks hname,
      unwrap_of_bare ((isResource_insert_id _ _).trans hbare)]

theorem sameReading_of_namedResource :
    SameReading
      (.map (resource "v1" [("name", .str "rk")] [("id", .int 0), ("name", .str "X")]))
      (.map (entriesOf [("id", .str "rk"), ("name", .str "X")])) ∧
    SameReading
      (.map (resource "v1" [("name", .str "rk")] [("name", .str "X"), ("id", .str "x")]))
      (.map (entriesOf [("name", .str "X"), ("id", .str "x")])) :=
  ⟨(sameReading_resource "v1" (by decide) (by decide) rfl).2 "rk" rfl rfl,
    (sameReading_resource "v1" (by decide) (by decide) rfl).1 (.inl rfl)⟩

end Definition
end TrackerSearch
