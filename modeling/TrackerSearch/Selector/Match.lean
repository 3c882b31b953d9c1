import TrackerSearch.Selector.Basic
import TrackerSearch.Selector.Input
import TrackerSearch.Text.Blank
import TrackerSearch.Text.Direction

/-!
# Which elements a selector describes

`Selector.holds scope s p` says that the element at `p` fulfils the selector, `scope` being the path
of the element that the selection starts from. `Place.select` lists the elements below a place that
do, in document order and each once.
-/
namespace TrackerSearch

open Text Html

namespace Html

/-- Content that elements of the kind of frames hide. -/
def isFrame (tag : String) : Bool := tag == "iframe"

mutual

/-- The pieces of text in a node that are content, without those in frames. -/
def Node.content : Node → List String
  | .text kind content => if kind = .comment ∨ kind = .doctype then [] else [content]
  | .element tag _ children => if isFrame tag then [] else Node.contentIn children

def Node.contentIn : List Node → List String
  | [] => []
  | node :: rest => node.content ++ Node.contentIn rest

end

mutual

/-- The direction of the first character in a node that has one, without elements that decide for
themselves. -/
def Node.direction? : Node → Option Bool
  | .text kind content =>
    if kind = .comment ∨ kind = .doctype then none else runsLeftward? content.toList
  | .element tag attrs children =>
    let known := ["ltr", "rtl", "auto"].contains
      (asciiLowered ((Element.mk tag attrs children).attrText "dir"))
    if known || ["bdi", "script", "style", "textarea", "iframe"].contains tag then none
    else Node.directionIn children

def Node.directionIn : List Node → Option Bool
  | [] => none
  | node :: rest =>
    match node.direction? with
    | some d => some d
    | none => Node.directionIn rest

end

namespace Element

/-- The text of an element, without that in frames. -/
def content (e : Element) : List String := if isFrame e.tag then [] else Node.contentIn e.children

/-- The pieces of text directly in an element. -/
def ownContent (e : Element) : List String :=
  if isFrame e.tag then []
  else e.children.filterMap fun n =>
    match n with
    | .text kind content => if kind = .comment ∨ kind = .doctype then none else some content
    | .element .. => none

def isEmpty (e : Element) : Bool :=
  isFrame e.tag || e.children.all fun n =>
    match n with
    | .text kind content =>
      kind = .comment || kind = .doctype || (AttrDemand.wordsOf content.toList).isEmpty
    | .element .. => false

end Element

namespace Place

/-- Is an element the root of its page? It must be the first element of the page, and have no
element and no text beside it. -/
def isRoot (p : Place) : Bool :=
  let top := p.root.here
  let first := if top.isDocument then p.up.length = 1 && p.before.isEmpty else p.up.isEmpty
  first && (p.nodesBefore ++ p.nodesAfter).all fun n =>
    match n with
    | .text kind content => kind = .comment || kind = .doctype || (words content.toList).isEmpty
    | .element .. => false

/-- The path of the element that a selection starts from: of a whole page, its first element. -/
def scopePath (p : Place) : List Nat :=
  if p.here.isDocument && p.up.isEmpty then (p.children.head?.map (·.path)).getD [] else p.path

/-- The places that a combinator leads to from an element. -/
def along (c : Combinator) (p : Place) : List Place :=
  match c with
  | .descendant => p.descendants
  | .child => p.children
  | .sibling => p.after
  | .next => p.after.take 1

/-- The places from which a combinator leads to an element. -/
def against (c : Combinator) (p : Place) : List Place :=
  match c with
  | .descendant => p.ancestors
  | .child => p.parent?.toList
  | .sibling => p.before
  | .next => p.before.take 1

/-- The language of an element: the nearest one that is given; an empty one only if no other is. -/
def lang? (p : Place) : Option String :=
  let given := (p :: p.ancestors).filterMap fun q => (q.here.attr? "lang").map (·.text)
  (given.find? (!·.isEmpty)).orElse fun _ => given.getLast?.orElse fun _ => pageLang?
where
  /-- The language that the head of the page tells. -/
  pageLang? : Option String := do
    let top := p.root
    let html ← top.children.find? (·.here.tag == "html")
    let head ← html.children.find? (·.here.tag == "head")
    head.children.findSome? fun m =>
      if m.here.tag == "meta" && asciiLowered (m.here.attrText "http-equiv") == "content-language"
      then (m.here.attr? "content").bind fun v => if v.text.isEmpty then none else some v.text
      else none

/-- The nearest form around an element, or else the outermost element. -/
def form (p : Place) : Place :=
  (p.ancestors.find? (·.here.tag == "form")).getD p.root

/-- Is an element the first submit button of its form? -/
def isFirstSubmit (p : Place) : Bool :=
  match p.ancestors.find? (·.here.tag == "form") with
  | none => false
  | some f =>
    let inside := f.descendants.takeWhile (·.here.tag != "form")
    let submit := inside.find? fun q =>
      ["input", "button"].contains q.here.tag && asciiLowered (q.here.attrText "type") == "submit"
    submit.any (·.path == p.path)

/-- Is no other radio button of the same name in the same form checked? -/
def isGroupUnset (p : Place) : Bool :=
  let name := p.here.attrText "name"
  !p.form.descendants.any fun q =>
    q.path != p.path && q.here.tag == "input" &&
      asciiLowered (q.here.attrText "type") == "radio" &&
      (q.here.attr? "name").map (·.text) == some name && q.here.hasAttr "checked" &&
      q.form.path == p.form.path

/-- The first value of an input of text, or the text of a text area. -/
def typedText? (p : Place) : Option (List Char) :=
  if p.here.tag == "textarea" then some (String.join p.here.ownContent).toList
  else if p.here.tag == "input" &&
      ["text", "search", "tel", "url", "email"].contains (asciiLowered (p.here.attrText "type"))
  then some (p.here.attrText "value").toList
  else none

/-- What an element itself says about its direction: a direction, that its parent decides, or that
there is none. -/
inductive DirectionStep where
  | is (rtl : Bool)
  | inherit

/-- How an element decides on its direction. -/
def directionStep (p : Place) : DirectionStep :=
  let given := asciiLowered (p.here.attrText "dir")
  let otherwise : DirectionStep := if p.isRoot then .is false else .inherit
  let byContent : DirectionStep :=
    match Node.directionIn p.here.children with
    | some d => .is d
    | none => otherwise
  match given with
  | "ltr" => .is false
  | "rtl" => .is true
  | "auto" =>
    match p.typedText? with
    | some [] => otherwise
    | some text => .is ((runsLeftward? text).getD false)
    | none => byContent
  | _ =>
    if p.isRoot then .is false
    else if p.here.tag == "input" && asciiLowered (p.here.attrText "type") == "tel" then .is false
    else if p.here.tag == "bdi" then byContent
    else .inherit

/-- Does an element run from right to left? No answer outside of a page. -/
def direction? (p : Place) : Option Bool :=
  (p :: p.ancestors).findSome? fun q =>
    match q.directionStep with
    | .is d => some d
    | .inherit => none

end Place
end Html

namespace Selector

/-- Is `position`, counted from one, of the form `step * n + offset` with `n ≥ 0`? -/
def isCounted (step offset : Int) (position : Nat) : Bool :=
  let d := (position : Int) - offset
  if step = 0 then d = 0 else d % step = 0 && 0 ≤ d / step

/-- Is an element at a counted position among the siblings with a property that it has itself? -/
def isNth (fromEnd : Bool) (step offset : Int) (counts : Place → Bool) (p : Place) : Bool :=
  let rest := (if fromEnd then p.after else p.before).filter counts
  isCounted step offset (rest.length + 1)

/-- Does a language tag fall into a language range? A `*` stands for any subtag; subtags between
those of the range may follow, except single letters. -/
def inRange (range tag : String) : Bool :=
  let ranges := collapse (splitBy (· == '-') (lower range.toList))
  let subtags := splitBy (· == '-') (lower tag.toList)
  match ranges, subtags with
  | [[]], [[]] => true
  | first :: more, s :: rest =>
    let primary := if first == ['*'] then !(rest.isEmpty && s.isEmpty) else first == s
    primary && follows more rest
  | _, _ => false
where
  /-- A range without the stars behind its first subtag; a star at the end leaves a subtag open that
  no tag has. -/
  collapse : List (List Char) → List (List Char)
    | [] => []
    | first :: more =>
      first :: more.filter (· ≠ ['*']) ++ if more.getLast? = some ['*'] then [[]] else []
  /-- Do the subtags contain those of the range in order? -/
  follows : List (List Char) → List (List Char) → Bool
    | [], _ => true
    | _ :: _, [] => false
    | r :: more, s :: rest =>
      if r.isEmpty then false
      else if s == r then follows more rest
      else if s.length = 1 then false
      else follows (r :: more) rest

/-- Does the element at a place fulfil a selector? -/
def holds (scope : List Nat) : Selector → Place → Bool
  | .anything, _ => true
  | .nothing, _ => false
  | .both a b, p => a.holds scope p && b.holds scope p
  | .either a b, p => a.holds scope p || b.holds scope p
  | .not a, p => !a.holds scope p
  | .tag name, p => p.here.tag == name
  | .id value, p => (p.here.attr? "id").any (·.text == value)
  | .hasClass name, p =>
    match p.here.attr? "class" with
    | some (.several names) => names.contains name
    | some (.single value) => (AttrDemand.wordsOf value.toList).contains name.toList
    | none => false
  | .attr name demand, p =>
    match p.here.attr? name with
    | none => false
    | some v => demand.all (·.holds v.text)
  | .reachedBy c s, p => (p.against c).any fun q => s.holds scope q
  | .reaches c s, p => (p.along c).any fun q => s.holds scope q
  | .nth fromEnd step offset s, p =>
    s.holds scope p && isNth fromEnd step offset (fun q => s.holds scope q) p
  | .nthOfTag fromEnd step offset, p =>
    isNth fromEnd step offset (fun q => q.here.tag == p.here.tag) p
  | .root, p => p.isRoot
  | .scope, p => p.path == scope && !(p.here.isDocument && p.up.isEmpty)
  | .empty, p => p.here.isEmpty
  | .containsText own texts, p =>
    let pieces := if own then p.here.ownContent else [String.join p.here.content]
    texts.any fun t => pieces.any fun s => occursIn t.toList s.toList
  | .lang ranges, p => p.lang?.any fun tag => ranges.any (inRange · tag)
  | .direction rtl, p => p.direction? == some rtl
  | .defined, p => !p.here.tag.toList.contains '-' || p.here.tag.toList.contains ':'
  | .firstSubmit, p => p.isFirstSubmit
  | .groupUnset, p => p.isGroupUnset
  | .withoutText, p => ["", "\n"].contains (String.join p.here.content)
  | .ranged inside, p => insideBounds? p.here == some inside

end Selector

/-- The elements below a place that fulfil a selector, in document order. -/
def Html.Place.select (p : Place) (s : Selector) : List Place :=
  p.descendants.filter (s.holds p.scopePath)

/-- The first element below a place that fulfils a selector. -/
def Html.Place.selectFirst? (p : Place) (s : Selector) : Option Place :=
  p.descendants.find? (s.holds p.scopePath)

end TrackerSearch
