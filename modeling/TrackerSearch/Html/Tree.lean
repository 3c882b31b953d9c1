/-!
# Trees of elements

A page is a tree of elements and pieces of text. A `Place` is an element together with the way up
to the root, so that the parent and the siblings of an element can be asked for; its `path` tells
the elements of one tree apart.
-/
namespace TrackerSearch.Html

/-- What a piece of text is: plain text, the content of an element whose text is not shown, or no
content at all. -/
inductive TextKind where
  | plain
  | style
  | script
  | template
  | ruby
  | rubyParenthesis
  | comment
  | doctype
  deriving Repr, DecidableEq

/-- The value of an attribute: one text, or the words of an attribute that is a set of words. -/
inductive AttrValue where
  | single (value : String)
  | several (values : List String)
  deriving Repr, DecidableEq

/-- The value as one text. -/
def AttrValue.text : AttrValue → String
  | single v => v
  | several vs => " ".intercalate vs

abbrev Attrs := List (String × AttrValue)

inductive Node where
  | text (kind : TextKind) (content : String)
  | element (tag : String) (attrs : Attrs) (children : List Node)
  deriving Repr

structure Element where
  tag : String
  attrs : Attrs := []
  children : List Node := []
  deriving Repr

namespace Element

/-- The name of the element that holds a whole page. -/
def documentTag : String := "[document]"

def isDocument (e : Element) : Bool := e.tag == documentTag

/-- The value of an attribute. -/
def attr? (e : Element) (name : String) : Option AttrValue :=
  (e.attrs.find? (·.1 == name)).map (·.2)

/-- The value of an attribute as one text, empty if there is none. -/
def attrText (e : Element) (name : String) : String := ((e.attr? name).map (·.text)).getD ""

def hasAttr (e : Element) (name : String) : Bool := (e.attr? name).isSome

end Element

namespace Node

def element? : Node → Option Element
  | text .. => none
  | element tag attrs children => some ⟨tag, attrs, children⟩

end Node

/-- The way from an element up to the root: every ancestor with the position at which the way
enters it, the nearest one first. -/
abbrev Ascent := List (Element × Nat)

/-- An element inside a tree. -/
structure Place where
  here : Element
  up : Ascent := []
  deriving Repr

mutual

/-- The elements of a node in document order, each with the way up. -/
def Node.places (up : Ascent) : Node → List Place
  | .text .. => []
  | .element tag attrs children =>
    ⟨⟨tag, attrs, children⟩, up⟩ :: Node.placesIn ⟨tag, attrs, children⟩ up 0 children

/-- The elements among the children of `parent` from a position on, and below them. -/
def Node.placesIn (parent : Element) (up : Ascent) (pos : Nat) : List Node → List Place
  | [] => []
  | node :: rest =>
    Node.places ((parent, pos) :: up) node ++ Node.placesIn parent up (pos + 1) rest

end

namespace Place

/-- The positions that lead from the root to the element. Two elements of one tree with the same
path are the same. -/
def path (p : Place) : List Nat := (p.up.map (·.2)).reverse

def parent? (p : Place) : Option Place :=
  match p.up with
  | [] => none
  | (e, _) :: up => some ⟨e, up⟩

/-- The ancestors along an ascent, the nearest first. -/
def ancestorsOf : Ascent → List Place
  | [] => []
  | (e, _) :: up => ⟨e, up⟩ :: ancestorsOf up

/-- The ancestors, the nearest first. -/
def ancestors (p : Place) : List Place := ancestorsOf p.up

/-- The root of the tree. -/
def root (p : Place) : Place := p.ancestors.getLastD p

/-- The elements among the children. -/
def children (p : Place) : List Place :=
  p.here.children.zipIdx.filterMap fun (node, i) => node.element?.map (⟨·, (p.here, i) :: p.up⟩)

/-- The elements below, in document order. -/
def descendants (p : Place) : List Place := Node.placesIn p.here p.up 0 p.here.children

/-- The nodes before the element under the same parent, the nearest first. -/
def nodesBefore (p : Place) : List Node :=
  match p.up with
  | [] => []
  | (e, i) :: _ => (e.children.take i).reverse

/-- The nodes behind the element under the same parent. -/
def nodesAfter (p : Place) : List Node :=
  match p.up with
  | [] => []
  | (e, i) :: _ => e.children.drop (i + 1)

/-- The elements under the same parent, the element itself among them; a root stands alone. -/
def family (p : Place) : List Place :=
  match p.parent? with
  | none => [p]
  | some parent => parent.children

/-- The position under the parent. -/
def position (p : Place) : Nat :=
  match p.up with
  | [] => 0
  | (_, i) :: _ => i

/-- The sibling elements before the element, the nearest first. -/
def before (p : Place) : List Place := (p.family.filter (·.position < p.position)).reverse

/-- The sibling elements behind the element. -/
def after (p : Place) : List Place := p.family.filter (p.position < ·.position)

end Place

/-! ## Text -/

mutual

/-- The pieces of text in a node, in document order, each with its path. -/
def Node.pieces (path : List Nat) : Node → List (List Nat × TextKind × String)
  | .text kind content => [(path, kind, content)]
  | .element _ _ children => Node.piecesIn path 0 children

/-- The pieces of text in the children from a position on. -/
def Node.piecesIn (path : List Nat) (pos : Nat) : List Node → List (List Nat × TextKind × String)
  | [] => []
  | node :: rest => Node.pieces (path ++ [pos]) node ++ Node.piecesIn path (pos + 1) rest

end

namespace Element

/-- The pieces of text in an element; their paths lead from the element to them. -/
def pieces (e : Element) : List (List Nat × TextKind × String) := Node.piecesIn [] 0 e.children

/-- The kind of text that an element shows: for the elements whose text is kept apart their own
kind, for all others plain text. -/
def shownKind (tag : String) : TextKind :=
  match tag with
  | "rt" => .ruby
  | "rp" => .rubyParenthesis
  | "style" => .style
  | "script" => .script
  | "template" => .template
  | _ => .plain

/-- The text that an element shows. -/
def text (e : Element) : String :=
  String.join ((e.pieces.filter (·.2.1 = shownKind e.tag)).map (·.2.2))

end Element

/-! ## Removing -/

mutual

/-- Leave out the elements at the given paths, and everything in them. -/
def Node.prune (doomed : List Nat → Bool) (path : List Nat) : Node → Option Node
  | .text kind content => some (.text kind content)
  | .element tag attrs children =>
    if doomed path then none else some (.element tag attrs (Node.pruneIn doomed path 0 children))

/-- `prune` for the children from a position on. -/
def Node.pruneIn (doomed : List Nat → Bool) (path : List Nat) (pos : Nat) : List Node → List Node
  | [] => []
  | node :: rest =>
    (Node.prune doomed (path ++ [pos]) node).toList ++ Node.pruneIn doomed path (pos + 1) rest

end

/-- An element without the elements at the given paths below it. -/
def Element.prune (doomed : List Nat → Bool) (e : Element) : Element :=
  { e with children := Node.pruneIn doomed [] 0 e.children }

end TrackerSearch.Html
