import TrackerSearch.Failure
import TrackerSearch.Html.Page
import TrackerSearch.Text.Charset

/-!
# Pages as they arrive

A page arrives as text or as bytes; bytes are read in the encoding that is given or that the page
itself tells.
-/
namespace TrackerSearch.Page

/-- A page before it is read. -/
inductive Source where
  | text (content : List Char)
  | bytes (content : List UInt8)

/-- The text of a page. -/
def Source.decoded (encoding : Option String) : Source → List Char
  | .text s => s
  | .bytes b => Text.decodePage encoding b

/-- The tree of a page, at its top. -/
def Source.read (encoding : Option String) (s : Source) : Except Failure Html.Place :=
  match Html.ofText? (s.decoded encoding) with
  | some e => .ok ⟨e, []⟩
  | none => .error .unreadableDocument

end TrackerSearch.Page
