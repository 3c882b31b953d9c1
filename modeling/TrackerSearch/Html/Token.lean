import TrackerSearch.Html.Reference
import TrackerSearch.Text.Pieces

/-!
# Tags, text and comments

Every text is a sequence of tokens. A `<` that starts neither a tag nor a declaration is text; a
tag that is not closed before the end of the text is none. Inside some elements the text goes on up
to the end tag of the element.
-/
namespace TrackerSearch.Html

open TrackerSearch.Text

inductive Token where
  | text (content : List Char)
  | startTag (name : String) (attrs : List (String × String)) (closed : Bool)
  | endTag (name : String)
  | comment (content : List Char)
  | doctype (content : List Char)
  deriving Repr, DecidableEq

/-- The blanks between the parts of a tag. -/
def isSpace (c : Char) : Bool := c = ' ' || c = '\t' || c = '\n' || c = '\x0c' || c = '\r'

def isAsciiLetter (c : Char) : Bool := ('a' ≤ c && c ≤ 'z') || ('A' ≤ c && c ≤ 'Z')

/-- What is in the text of an element. -/
inductive ContentModel where
  /-- Tags, comments and references. -/
  | markup
  /-- References, up to the end tag. -/
  | references
  /-- Plain text, up to the end tag. -/
  | raw
  /-- A script, up to the end tag that is not inside a comment with a script in it. -/
  | script
  /-- Plain text up to the end of the page. -/
  | everything
  deriving Repr, DecidableEq

def contentModel (tag : String) : ContentModel :=
  match tag with
  | "title" | "textarea" => .references
  | "style" | "xmp" | "iframe" | "noembed" | "noframes" => .raw
  | "script" => .script
  | "plaintext" => .everything
  | _ => .markup

/-- What of a page comes before the end tag of a name, and the page from that tag on. -/
def untilEndTag (name : List Char) : List Char → List Char × List Char
  | [] => ([], [])
  | c :: s =>
    if endsHere name (c :: s) then ([], c :: s)
    else
      let (content, rest) := untilEndTag name s
      (c :: content, rest)
where
  /-- Does the end tag of a name stand at the start? -/
  endsHere (name s : List Char) : Bool :=
    opensWith ('<' :: '/' :: name) s
  /-- Is the start, in lower case, this lead and the end of a name? -/
  opensWith (lead s : List Char) : Bool :=
    (s.take lead.length).map asciiLower == lead &&
      match s.drop lead.length with
      | c :: _ => isSpace c || c = '/' || c = '>'
      | [] => false

/-- Where in a script the text is: outside a comment, in a comment, or in a script inside it. -/
inductive ScriptDepth where
  | plain
  | escaped
  | doublyEscaped
  deriving Repr, DecidableEq

/-- What of a page belongs to a script, and the page from its end tag on. -/
def untilScriptEnd : ScriptDepth → List Char → List Char × List Char
  | _, [] => ([], [])
  | depth, c :: s =>
    let lead := untilEndTag.opensWith
    let next : Option ScriptDepth :=
      match depth with
      | .plain =>
        if lead "</script".toList (c :: s) then none
        else some (if startsWith "<!--".toList (c :: s) then .escaped else .plain)
      | .escaped =>
        if lead "</script".toList (c :: s) then none
        else if lead "<script".toList (c :: s) then some .doublyEscaped
        else some (if startsWith "-->".toList (c :: s) then .plain else .escaped)
      | .doublyEscaped =>
        if lead "</script".toList (c :: s) then some .escaped
        else some (if startsWith "-->".toList (c :: s) then .plain else .doublyEscaped)
    match next with
    | none => ([], c :: s)
    | some depth =>
      let (content, rest) := untilScriptEnd depth s
      (c :: content, rest)

/-- The content of a comment and what follows it; the text starts behind the opening dashes. -/
def commentEnd : List Char → List Char × List Char
  | '>' :: rest => ([], rest)
  | '-' :: '>' :: rest => ([], rest)
  | s => go s
where
  go : List Char → List Char × List Char
    | [] => ([], [])
    | '-' :: '-' :: '>' :: rest => ([], rest)
    | '-' :: '-' :: '!' :: '>' :: rest => ([], rest)
    | c :: s => let (content, rest) := go s; (c :: content, rest)

/-- The text before the next `>`, and behind it. -/
def declarationEnd (s : List Char) : List Char × List Char :=
  (s.takeWhile (· ≠ '>'), (s.dropWhile (· ≠ '>')).drop 1)

/-- The rest of a tag, behind its name. -/
structure TagRest where
  attrs : List (String × String)
  closed : Bool
  /-- What follows the tag; nothing if the tag does not end. -/
  rest : Option (List Char)

/-- A value behind an equals sign, and what follows it. -/
def attrValue : List Char → List Char × List Char
  | '"' :: s => (s.takeWhile (· ≠ '"'), (s.dropWhile (· ≠ '"')).drop 1)
  | '\'' :: s => (s.takeWhile (· ≠ '\''), (s.dropWhile (· ≠ '\'')).drop 1)
  | s => (s.takeWhile fun c => !isSpace c && c ≠ '>', s.dropWhile fun c => !isSpace c && c ≠ '>')

/-- The attributes of a tag; `fuel` bounds their number. -/
def tagRest : Nat → List Char → TagRest
  | 0, _ => ⟨[], false, none⟩
  | _ + 1, [] => ⟨[], false, none⟩
  | _ + 1, '>' :: s => ⟨[], false, some s⟩
  | _ + 1, '/' :: '>' :: s => ⟨[], true, some s⟩
  | fuel + 1, c :: s =>
    if isSpace c || c = '/' then tagRest fuel s
    else
      let ends (c : Char) : Bool := isSpace c || c = '/' || c = '>' || c = '='
      let name := c :: s.takeWhile (!ends ·)
      let (value, rest) :=
        match (s.dropWhile (!ends ·)).dropWhile isSpace with
        | '=' :: s => attrValue (s.dropWhile isSpace)
        | s => ([], s)
      let t := tagRest fuel rest
      { t with attrs :=
          (String.ofList (name.map asciiLower), String.ofList (decodeReferences true value)) :: t.attrs }

/-- The first attribute of every name. -/
def firstOfEachName (attrs : List (String × String)) : List (String × String) :=
  attrs.foldl (fun acc a => if acc.any (·.1 == a.1) then acc else acc ++ [a]) []

/-- The name of a tag, and what follows it. -/
def tagName (s : List Char) : String × List Char :=
  let ends (c : Char) : Bool := isSpace c || c = '/' || c = '>'
  (String.ofList ((s.takeWhile (!ends ·)).map asciiLower), s.dropWhile (!ends ·))

/-- The text of an element whose content is not markup, and the page behind it. -/
def contentOf (model : ContentModel) (name : String) (s : List Char) : List Char × List Char :=
  match model with
  | .markup => ([], s)
  | .references =>
    let (content, rest) := untilEndTag name.toList s
    (decodeReferences false content, rest)
  | .raw => untilEndTag name.toList s
  | .script => untilScriptEnd .plain s
  | .everything => (s, [])

/-- The tokens of a page; `fuel` bounds its length. -/
def tokensWith : Nat → List Char → List Token
  | 0, _ => []
  | _ + 1, [] => []
  | fuel + 1, '<' :: s =>
    match s with
    | '!' :: '-' :: '-' :: s =>
      let (content, rest) := commentEnd s
      .comment content :: tokensWith fuel rest
    | '!' :: s =>
      let (content, rest) := declarationEnd s
      (if (s.take 7).map asciiLower == "doctype".toList then .doctype (content.drop 7)
        else .comment content) :: tokensWith fuel rest
    | '?' :: _ =>
      let (content, rest) := declarationEnd s
      .comment content :: tokensWith fuel rest
    | ['/'] => [.text ['<', '/']]
    | '/' :: '>' :: s => tokensWith fuel s
    | '/' :: c :: s =>
      if isAsciiLetter c then
        let (name, rest) := tagName (c :: s)
        match (tagRest rest.length rest).rest with
        | none => []
        | some rest => .endTag name :: tokensWith fuel rest
      else
        let (content, rest) := declarationEnd (c :: s)
        .comment content :: tokensWith fuel rest
    | c :: _ =>
      if isAsciiLetter c then
        let (name, rest) := tagName s
        let t := tagRest rest.length rest
        match t.rest with
        | none => []
        | some rest =>
          let tag := Token.startTag name (firstOfEachName t.attrs) t.closed
          let (content, rest) := contentOf (if t.closed then .markup else contentModel name) name rest
          if content.isEmpty then tag :: tokensWith fuel rest
          else tag :: .text content :: tokensWith fuel rest
      else .text ['<'] :: tokensWith fuel s
    | [] => [.text ['<']]
  | fuel + 1, s =>
    .text (decodeReferences false (s.takeWhile (· ≠ '<'))) :: tokensWith fuel (s.dropWhile (· ≠ '<'))

/-- A page with line feeds as its only line ends, and without NUL characters. -/
def normalizeLines : List Char → List Char
  | [] => []
  | '\r' :: '\n' :: s => '\n' :: normalizeLines s
  | '\r' :: s => '\n' :: normalizeLines s
  | '\x00' :: s => '\uFFFD' :: normalizeLines s
  | c :: s => c :: normalizeLines s

/-- The tokens of a page. -/
def tokens (page : List Char) : List Token :=
  let page := normalizeLines page
  tokensWith (page.length + 1) page

end TrackerSearch.Html
