import TrackerSearch.Html.Token
import TrackerSearch.Html.Tree
import TrackerSearch.Text.Blank

/-!
# Pages

The tree of a page is built tag by tag. Tags that are left out are supplied: a page has an `html`
element with a `head` or a `body`, an element that cannot contain a new one ends before it, and an
end tag ends what is still open inside its element, unless that weighs more. Text that consists of
blanks is kept as a single one.
-/
namespace TrackerSearch.Html

open TrackerSearch.Text

/-- Elements that never have content. -/
def isVoid (tag : String) : Bool :=
  ["area", "base", "basefont", "br", "col", "frame", "hr", "img", "input", "isindex", "link",
    "meta", "param"].contains tag

/-- The elements that end an open element, per open element. -/
def endedByTable : List (String × List String) := [
  ("a", ["a", "fieldset", "table", "td", "th"]),
  ("address", ["dd", "dl", "dt", "form", "li", "ul"]),
  ("b", ["center", "p", "td", "th"]),
  ("big", ["p"]),
  ("caption", ["col", "colgroup", "tbody", "tfoot", "thead", "tr"]),
  ("col", ["col", "colgroup", "tbody", "tfoot", "thead", "tr"]),
  ("colgroup", ["colgroup", "tbody", "tfoot", "thead", "tr"]),
  ("dd", ["dt"]),
  ("dir", ["dd", "dl", "dt", "form", "ul"]),
  ("dl", ["form", "li"]),
  ("dt", ["dd", "dl"]),
  ("font", ["center", "td", "th"]),
  ("form", ["form"]),
  ("h1", ["fieldset", "form", "li", "p", "table"]),
  ("h2", ["fieldset", "form", "li", "p", "table"]),
  ("h3", ["fieldset", "form", "li", "p", "table"]),
  ("h4", ["fieldset", "form", "li", "p", "table"]),
  ("h5", ["fieldset", "form", "li", "p", "table"]),
  ("h6", ["fieldset", "form", "li", "p", "table"]),
  ("head", ["a", "abbr", "acronym", "address", "b", "bdo", "big", "blockquote", "body", "br",
    "center", "cite", "code", "dd", "dfn", "dir", "div", "dl", "dt", "em", "fieldset", "font",
    "form", "frameset", "h1", "h2", "h3", "h4", "h5", "h6", "hr", "i", "iframe", "img", "kbd", "li",
    "listing", "map", "menu", "ol", "p", "pre", "q", "s", "samp", "small", "span", "strike",
    "strong", "sub", "sup", "table", "tt", "u", "ul", "var", "xmp"]),
  ("hr", ["form"]),
  ("i", ["center", "p"]),
  ("legend", ["fieldset"]),
  ("li", ["li"]),
  ("link", ["body", "frameset"]),
  ("listing", ["dd", "dl", "dt", "fieldset", "form", "li", "table", "ul"]),
  ("menu", ["dd", "dl", "dt", "form", "ul"]),
  ("ol", ["form"]),
  ("option", ["optgroup", "option"]),
  ("p", ["address", "blockquote", "body", "caption", "center", "col", "colgroup", "dd", "dir",
    "div", "dl", "dt", "frameset", "h1", "h2", "h3", "h4", "h5", "h6", "head", "hr", "li",
    "listing", "menu", "ol", "p", "pre", "table", "tbody", "td", "tfoot", "th", "title", "tr", "ul",
    "xmp"]),
  ("pre", ["dd", "dl", "dt", "fieldset", "form", "li", "table", "ul"]),
  ("s", ["p"]),
  ("script", ["noscript"]),
  ("small", ["p"]),
  ("span", ["td", "th"]),
  ("strike", ["p"]),
  ("style", ["body", "frameset"]),
  ("tbody", ["tbody", "tfoot"]),
  ("td", ["tbody", "td", "tfoot", "th", "tr"]),
  ("tfoot", ["tbody"]),
  ("th", ["tbody", "td", "tfoot", "th", "tr"]),
  ("thead", ["tbody", "tfoot"]),
  ("title", ["body", "frameset"]),
  ("tr", ["tbody", "tfoot", "tr"]),
  ("tt", ["p"]),
  ("u", ["p", "td", "th"]),
  ("ul", ["address", "form", "menu", "ol", "pre"]),
  ("xmp", ["dd", "dl", "dt", "fieldset", "form", "li", "table", "ul"])]

/-- Does an open element end where a new one starts? -/
def endsBefore (open_ new : String) : Bool :=
  match endedByTable.find? (·.1 == open_) with
  | some (_, closers) => closers.contains new
  | none => false

/-- How much an element weighs against end tags outside it. -/
def weight (tag : String) : Nat :=
  match tag with
  | "div" => 150
  | "td" | "th" => 160
  | "tr" => 170
  | "thead" | "tbody" | "tfoot" => 180
  | "table" => 190
  | "head" | "body" => 200
  | "html" => 220
  | _ => 100

/-- Attributes whose value is a set of words. -/
def isWordSet (tag attr : String) : Bool :=
  ["class", "accesskey", "dropzone"].contains attr ||
    match tag with
    | "a" | "link" => ["rel", "rev"].contains attr
    | "td" | "th" => attr == "headers"
    | "form" => attr == "accept-charset"
    | "object" => attr == "archive"
    | "area" => attr == "rel"
    | "icon" => attr == "sizes"
    | "iframe" => attr == "sandbox"
    | "output" => attr == "for"
    | _ => false

/-- The name of an attribute without the namespace that may stand before it in braces. A brace that
opens has to close. -/
def attrName? (written : String) : Option String :=
  match written.toList with
  | '\x7b' :: s => (cutAt? ['\x7d'] s).map fun (_, name) => String.ofList name
  | _ => some written

/-- The attributes of an element, as they are written in its tag. -/
def attrsOf (tag : String) (written : List (String × String)) : Attrs :=
  written.map fun (name, value) =>
    let name := (attrName? name).getD name
    (name, if isWordSet tag name then .several ((words value.toList).map String.ofList)
      else .single value)

/-- An element that has not ended yet; the last child comes first. -/
structure OpenElement where
  tag : String
  attrs : Attrs := []
  children : List Node := []

def OpenElement.node (e : OpenElement) : Node := .element e.tag e.attrs e.children.reverse

/-- How far a page has come. -/
inductive Progress where
  | nothing
  | head
  | body
  deriving Repr, DecidableEq

/-- A page of which the first tokens have been read. -/
structure Draft where
  /-- The open elements, the innermost first. -/
  stack : List OpenElement := []
  /-- What has ended outside of all elements, the last one first. -/
  done : List Node := []
  /-- The text since the last tag or comment, backwards. -/
  pending : List Char := []
  progress : Progress := .nothing
  /-- How many `html`, `head` and `body` tags were out of place. -/
  misplaced : Nat := 0
  /-- Has anything but blanks, comments and the document type been read? -/
  started : Bool := false

namespace Draft

def current? (d : Draft) : Option String := d.stack.head?.map (·.tag)

def has (d : Draft) (tag : String) : Bool := d.stack.any (·.tag == tag)

/-- Add a node to the innermost open element. -/
def add (d : Draft) (n : Node) : Draft :=
  match d.stack with
  | [] => { d with done := n :: d.done }
  | e :: rest => { d with stack := { e with children := n :: e.children } :: rest }

/-- The kind of the text inside the open elements. -/
def textKind (d : Draft) : TextKind :=
  ((d.stack.map fun e => Element.shownKind e.tag).find? (· ≠ .plain)).getD .plain

/-- Text as it is kept: blanks alone shrink to one, unless line breaks are to be shown. -/
def kept (d : Draft) (text : List Char) : List Char :=
  if text.all isSpace && !d.has "pre" && !d.has "textarea" then
    if text.contains '\n' then ['\n'] else [' ']
  else text

/-- Turn the pending text into a node. -/
def flush (d : Draft) : Draft :=
  if d.pending.isEmpty then d
  else
    ({ d with pending := [] } : Draft).add
      (.text d.textKind (String.ofList (d.kept d.pending.reverse)))

/-- Start an element. -/
def push (d : Draft) (tag : String) (attrs : Attrs) : Draft :=
  let d := d.flush
  { d with
    stack := { tag, attrs } :: d.stack
    progress :=
      if tag == "body" then .body
      else if tag == "head" ∧ d.progress = .nothing then .head
      else d.progress }

/-- End the innermost element. -/
def pop (d : Draft) : Draft :=
  let d := d.flush
  match d.stack with
  | [] => d
  | e :: rest => ({ d with stack := rest } : Draft).add e.node

/-- End the innermost elements as long as there are such that a new one ends; `fuel` bounds their
number. -/
def endBefore (new : String) : Nat → Draft → Draft
  | 0, d => d
  | fuel + 1, d =>
    match d.current? with
    | some tag => if endsBefore tag new then endBefore new fuel d.pop else d
    | none => d

/-- End elements up to and including the innermost one with a tag. -/
def popThrough (tag : String) : Nat → Draft → Draft
  | 0, d => d
  | fuel + 1, d =>
    if d.current? == some tag then d.pop else popThrough tag fuel d.pop

/-- Elements that belong into the head of a page. -/
def isHeadPart (tag : String) : Bool :=
  ["script", "style", "meta", "link", "title", "base"].contains tag

/-- Supply the elements that a new element has to be in. -/
def supply (d : Draft) (new : String) : Draft :=
  if new == "html" then d
  else
    let d := if d.stack.isEmpty then d.push "html" [] else d
    if new == "body" || new == "head" then d
    else if d.stack.length ≤ 1 && isHeadPart new then
      if d.progress = .nothing then d.push "head" [] else d
    else if ["noframes", "frame", "frameset"].contains new then d
    else if d.progress = .body || d.has "body" || d.has "head" then d
    else d.push "body" []

/-- Is a tag out of place? -/
def isMisplaced (d : Draft) (tag : String) : Bool :=
  (tag == "html" && !d.stack.isEmpty) || (tag == "head" && d.stack.length ≠ 1) ||
    (tag == "body" && d.has "body")

def startTag (d : Draft) (tag : String) (attrs : List (String × String)) (closed : Bool) : Draft :=
  let d := (endBefore tag d.stack.length d).supply tag
  if d.isMisplaced tag then { d with misplaced := d.misplaced + 1 }
  else
    let d := d.push tag (attrsOf tag attrs)
    if closed || isVoid tag then d.pop else d

def endTag (d : Draft) (tag : String) : Draft :=
  if 0 < d.misplaced && ["html", "head", "body"].contains tag then
    { d with misplaced := d.misplaced - 1 }
  else if d.has tag then
    let inside := d.stack.takeWhile (·.tag ≠ tag)
    if inside.any (weight tag < weight ·.tag) then d
    else popThrough tag d.stack.length d
  else d

/-- Add text; outside of the body, text other than blanks starts one. -/
def text (d : Draft) (content : List Char) : Draft :=
  let emit (d : Draft) (s : List Char) : Draft := { d with pending := s.reverse ++ d.pending }
  if [none, some "html", some "head"].contains d.current? then
    let d := emit d (content.takeWhile isSpace)
    match content.dropWhile isSpace with
    | [] => d
    | rest =>
      let d := if d.current? == some "head" then endBefore "p" d.stack.length d else d
      emit (d.supply "p") rest
  else emit d content

/-- A node that is no element, at the place where the page is. -/
def aside (d : Draft) (kind : TextKind) (content : List Char) : Draft :=
  d.flush.add (.text kind (String.ofList content))

def step (d : Draft) (t : Token) : Draft :=
  match t with
  | .comment content => d.aside .comment content
  | .doctype content => d.aside .doctype content
  | .text content =>
    let content := if d.started then content
      else content.dropWhile fun c => isSpace c && c ≠ '\x0c'
    if content.isEmpty then d else ({ d with started := true } : Draft).text content
  | .startTag tag attrs closed => ({ d with started := true } : Draft).startTag tag attrs closed
  | .endTag tag => ({ d with started := true } : Draft).endTag tag

/-- End every element that is still open. -/
def finish : Nat → Draft → Draft
  | 0, d => d.flush
  | fuel + 1, d => finish fuel d.pop

end Draft

/-- The tree of a sequence of tokens, under an element that stands for the page. -/
def ofTokens (ts : List Token) : Element :=
  let d := ts.foldl Draft.step {}
  ⟨Element.documentTag, [], (Draft.finish d.stack.length d).done.reverse⟩

/-- Can the attributes of a token be named? -/
def Token.isReadable : Token → Bool
  | .startTag _ attrs _ => attrs.all fun a => (attrName? a.1).isSome
  | _ => true

/-- The tree of a page. A mark of the byte order at its start is left out. -/
def ofText? (page : List Char) : Option Element :=
  let ts := tokens (match page with
    | '\uFEFF' :: rest => rest
    | page => page)
  if ts.all (·.isReadable) then some (ofTokens ts) else none

end TrackerSearch.Html
