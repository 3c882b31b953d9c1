import TrackerSearch.Config.Basic

/-!
# Layers of settings

Settings come from several layers: the defaults, a file, the environment and the command line. A
layer may give a setting under its section, under its flat key, or both; `sectioned` brings a layer
into the shape of sections, and `merge` lays one layer over another.
-/
namespace TrackerSearch

/-- The entries of a mapping. -/
abbrev Entries := List (Document × Document)

namespace Config

/-- The value under a key. -/
def lookUp (entries : Entries) (key : Document) : Option Document :=
  (entries.find? fun (k, _) => Document.sameKey k key).map (·.2)

mutual

/-- Lay a value over another: mappings are merged, anything else is replaced. -/
def overlay (below : Option Document) : Document → Document
  | .map entries =>
    match below with
    | some (.map lower) => .map (merge lower entries)
    | _ => .map entries
  | d => d

/-- Lay the entries of a mapping over those of another. -/
def merge (lower : Entries) : Entries → Entries
  | [] => lower
  | (k, v) :: rest => merge (Document.insert lower k (overlay (lookUp lower k) v)) rest

end

/-- The entries of a section, if it is a mapping. -/
def sectionOf (entries : Entries) (name : String) : Option Entries :=
  match Document.find? entries name with
  | some (.map inner) => some inner
  | _ => none

/-- Put a value at the place of a setting. -/
def put (entries : Entries) (s : Setting) (d : Document) : Entries :=
  match s.place with
  | (none, key) => Document.insert entries (.str key) d
  | (some name, key) =>
    let inner := (sectionOf entries name).getD []
    Document.insert entries (.str name) (.map (Document.insert inner (.str key) d))

/-- A layer by sections: what is under a flat key goes to its place. A section that is no mapping is
left out, and so is everything that is not known. -/
def sectioned (data : Entries) : Entries :=
  let blocks : Entries := sections.filterMap fun name =>
    (sectionOf data name).map fun inner => (.str name, .map inner)
  Setting.all.foldl (fun out s =>
    match Document.find? data s.flatKey with
    | some d => put out s d
    | none => out) blocks

/-- The value at the place of a setting. -/
def get? (entries : Entries) (s : Setting) : Option Document :=
  match s.place with
  | (none, key) => Document.find? entries key
  | (some name, key) => (sectionOf entries name).bind (Document.find? · key)

/-- The lowest layer. -/
def defaults : Entries := Setting.all.foldl (fun out s => put out s s.default) []

/-- The layers one over the other, the lowest first. -/
def stack (layers : List Entries) : Entries :=
  layers.foldl (fun below layer => merge below (sectioned layer)) []

end Config
end TrackerSearch
