import TrackerSearch.Yaml.Scalar

/-!
# Nodes

The tokens of a text form one tree of scalars, sequences and mappings. An alias stands for the node
with its anchor; one for a node that it lies in makes a text circular. Tokens are asked for one after
the other, so that a text is refused for what stands before an error in its row.
-/
namespace TrackerSearch.Yaml

inductive Node where
  | scalar (tag : Tag) (text : String)
  | sequence (tag : Tag) (items : List Node)
  | mapping (tag : Tag) (entries : List (Node × Node))
  deriving Repr

/-- The tokens that are left, and the nodes with an anchor so far; one that is not complete has
none. -/
structure Reading where
  tokens : List Token
  anchors : List (String × Option Node) := []

namespace Reading

def drop (r : Reading) : Reading := { r with tokens := r.tokens.tail }

/-- Give an anchor its node. -/
def bind (r : Reading) (anchor : Option String) (n : Option Node) : Reading :=
  match anchor with
  | none => r
  | some name => { r with anchors := (name, n) :: r.anchors }

end Reading

/-- The handles that tags can start with. -/
abbrev Handles := List (String × String)

def defaultHandles : Handles := [("!", "!"), ("!!", knownLead)]

/-- The first of some tokens that are left. Behind the last one stands the error of the row, if it
has one. -/
def firstOf (error? : Option Error) : List Token → Result Token
  | t :: _ => .ok t
  | [] =>
    match error? with
    | some e => .error e
    | none => .ok .streamEnd

/-- What the nodes of a document are read with: its handles and the error behind its tokens. -/
structure Scope where
  handles : Handles
  error? : Option Error

def Scope.head (w : Scope) (r : Reading) : Result Token := firstOf w.error? r.tokens

/-- A scalar that is left out. -/
def emptyNode : Node := .scalar .null ""

/-- What stands before the content of a node. -/
structure Properties where
  anchor : Option String := none
  /-- The tag in full. -/
  tag : Option String := none

namespace Properties

/-- The tag in full. -/
def resolve (handles : Handles) (handle : Option String) (suffix : String) : Result String :=
  match handle with
  | none => .ok suffix
  | some h =>
    match handles.find? (·.1 == h) with
    | some (_, lead) => .ok (lead ++ suffix)
    | none => refuse

/-- Read an anchor and a tag, in either order. -/
def read (w : Scope) (r : Reading) : Result (Properties × Reading) := do
  match ← w.head r with
  | .anchor a =>
    match ← w.head r.drop with
    | .tag h s => return ({ anchor := a, tag := ← resolve w.handles h s }, r.drop.drop)
    | _ => return ({ anchor := a }, r.drop)
  | .tag h s =>
    match ← w.head r.drop with
    | .anchor a => return ({ anchor := a, tag := ← resolve w.handles h s }, r.drop.drop)
    | _ => return ({ tag := ← resolve w.handles h s }, r.drop)
  | _ => return ({}, r)

/-- The tag of a node, `default` if none is given. -/
def tagOr (p : Properties) (default : Tag) : Tag :=
  match p.tag with
  | none | some "!" => default
  | some t => .ofText t

/-- The kind of a scalar. -/
def scalarTag (p : Properties) (text : String) (plain : Bool) : Tag :=
  match p.tag with
  | none => if plain then plainTag text else .str
  | some "!" => plainTag text
  | some t => .ofText t

end Properties

/-- Does the value of an entry of a mapping end before this token? -/
def endsEntry (t : Token) : Bool := t = .key || t = .value || t = .blockEnd

def endsFlowEntry (t : Token) : Bool := t = .flowEntry || t = .flowSequenceEnd

def endsFlowPair (t : Token) : Bool := t = .flowEntry || t = .flowMappingEnd

mutual

/-- Read a node; `block` admits block collections, `loose` sequences that are not indented. -/
def readNode (w : Scope) (block loose : Bool) : Nat → Reading → Result (Node × Reading)
  | 0, _ => refuse
  | fuel + 1, r => do
    match ← w.head r with
    | .alias name =>
      match r.anchors.find? (·.1 == name) with
      | some (_, some n) => return (n, r.drop)
      | some (_, none) => .error .circular
      | none => refuse
    | _ =>
      let (p, r) ← Properties.read w r
      let t ← w.head r
      if p.anchor.any fun a => r.anchors.any (·.1 == a) then refuse
      else
        let r := r.bind p.anchor none
        let sequence (read : Result (List Node × Reading)) : Result (Node × Reading) := do
          let (items, r) ← read
          return (.sequence (p.tagOr .sequence) items, r)
        let mapping (read : Result (List (Node × Node) × Reading)) : Result (Node × Reading) := do
          let (entries, r) ← read
          return (.mapping (p.tagOr .mapping) entries, r)
        let (n, r) ←
          match t with
          | .scalar text plain => .ok (Node.scalar (p.scalarTag text plain) text, r.drop)
          | .flowSequence => sequence (readFlowItems w true fuel r.drop)
          | .flowMapping => mapping (readFlowEntries w true fuel r.drop)
          | .blockSequence =>
            if block then sequence (readBlockItems w fuel r.drop) else refuse
          | .blockMapping =>
            if block then mapping (readBlockEntries w fuel r.drop) else refuse
          | t =>
            if loose && t = .blockEntry then sequence (readLooseItems w fuel r)
            else if p.anchor.isSome || p.tag.isSome then
              .ok (.scalar (p.scalarTag "" true) "", r)
            else refuse
        return (n, r.bind p.anchor (some n))

/-- Read a node, or nothing before a token that `ends` tells. -/
def readOptional (w : Scope) (block loose : Bool) (ends : Token → Bool) :
    Nat → Reading → Result (Node × Reading)
  | 0, _ => refuse
  | fuel + 1, r => do
    if ends (← w.head r) then return (emptyNode, r) else readNode w block loose fuel r

/-- Read the value of an entry, which may be missing. -/
def readValue (w : Scope) (block : Bool) (ends : Token → Bool) :
    Nat → Reading → Result (Node × Reading)
  | 0, _ => refuse
  | fuel + 1, r => do
    if (← w.head r) = .value then readOptional w block block ends fuel r.drop
    else return (emptyNode, r)

/-- The entries of a block sequence. -/
def readBlockItems (w : Scope) : Nat → Reading → Result (List Node × Reading)
  | 0, _ => refuse
  | fuel + 1, r => do
    match ← w.head r with
    | .blockEntry =>
      let ends (t : Token) : Bool := t = .blockEntry || t = .blockEnd
      let (n, r) ← readOptional w true false ends fuel r.drop
      let (rest, r) ← readBlockItems w fuel r
      return (n :: rest, r)
    | .blockEnd => return ([], r.drop)
    | _ => refuse

/-- The entries of a sequence that is indented like the mapping around it. -/
def readLooseItems (w : Scope) : Nat → Reading → Result (List Node × Reading)
  | 0, _ => refuse
  | fuel + 1, r => do
    match ← w.head r with
    | .blockEntry =>
      let ends (t : Token) : Bool := t = .blockEntry || endsEntry t
      let (n, r) ← readOptional w true false ends fuel r.drop
      let (rest, r) ← readLooseItems w fuel r
      return (n :: rest, r)
    | _ => return ([], r)

/-- The entries of a block mapping. -/
def readBlockEntries (w : Scope) : Nat → Reading → Result (List (Node × Node) × Reading)
  | 0, _ => refuse
  | fuel + 1, r => do
    match ← w.head r with
    | .key =>
      let (k, r) ← readOptional w true true endsEntry fuel r.drop
      let (v, r) ← readValue w true endsEntry fuel r
      let (rest, r) ← readBlockEntries w fuel r
      return ((k, v) :: rest, r)
    | .blockEnd => return ([], r.drop)
    | _ => refuse

/-- The entries of a sequence in brackets; an entry with a key is a mapping of its own. -/
def readFlowItems (w : Scope) (first : Bool) : Nat → Reading → Result (List Node × Reading)
  | 0, _ => refuse
  | fuel + 1, r => do
    let t ← w.head r
    if t = .flowSequenceEnd then return ([], r.drop)
    else if !first && t ≠ .flowEntry then refuse
    else
      let r := if first then r else r.drop
      match ← w.head r with
      | .key =>
        let ends (t : Token) : Bool := t = .value || endsFlowEntry t
        let (k, r) ← readOptional w false false ends fuel r.drop
        let (v, r) ← readValue w false endsFlowEntry fuel r
        let (rest, r) ← readFlowItems w false fuel r
        return (.mapping .mapping [(k, v)] :: rest, r)
      | .flowSequenceEnd => return ([], r.drop)
      | _ =>
        let (n, r) ← readNode w false false fuel r
        let (rest, r) ← readFlowItems w false fuel r
        return (n :: rest, r)

/-- The entries of a mapping in braces; the value of an entry may be missing. -/
def readFlowEntries (w : Scope) (first : Bool) :
    Nat → Reading → Result (List (Node × Node) × Reading)
  | 0, _ => refuse
  | fuel + 1, r => do
    let t ← w.head r
    if t = .flowMappingEnd then return ([], r.drop)
    else if !first && t ≠ .flowEntry then refuse
    else
      let r := if first then r else r.drop
      match ← w.head r with
      | .key =>
        let ends (t : Token) : Bool := t = .value || endsFlowPair t
        let (k, r) ← readOptional w false false ends fuel r.drop
        let (v, r) ← readValue w false endsFlowPair fuel r
        let (rest, r) ← readFlowEntries w false fuel r
        return ((k, v) :: rest, r)
      | .flowMappingEnd => return ([], r.drop)
      | _ =>
        let (k, r) ← readNode w false false fuel r
        let (rest, r) ← readFlowEntries w false fuel r
        return ((k, emptyNode) :: rest, r)

end

/-- What the directives before a document say; `fuel` bounds their number. -/
def readDirectives (error? : Option Error) :
    Nat → Bool → Handles → List Token → Result (Handles × List Token)
  | 0, _, _, _ => refuse
  | fuel + 1, versioned, handles, ts => do
    match ← firstOf error? ts with
    | .version major =>
      if versioned || major ≠ 1 then refuse
      else readDirectives error? fuel true handles ts.tail
    | .tagHandle h lead =>
      if handles.any (·.1 == h) then refuse
      else readDirectives error? fuel versioned (handles ++ [(h, lead)]) ts.tail
    | .directive => readDirectives error? fuel versioned handles ts.tail
    | _ => return (handles, ts)

/-- Does a token start a document with directives or a mark, or end the text? -/
def startsDocument : Token → Bool
  | .version _ | .tagHandle .. | .directive | .documentStart | .streamEnd => true
  | _ => false

namespace Row

/-- The root of a document, behind which there is no other one. -/
def finish (row : Row) (found : Node × Reading) : Result (Option Node) := do
  let ts := found.2.tokens.dropWhile (· = .documentEnd)
  if (← firstOf row.error? ts) = .streamEnd then return some found.1
  else
    let _ ← readDirectives row.error? (ts.length + 1) false [] ts
    refuse

/-- The root of the only document of a row of tokens, if there is one. -/
def root (row : Row) : Result (Option Node) := do
  let fuel := 4 * row.tokens.length + 8
  if !startsDocument (← firstOf row.error? row.tokens) then
    row.finish (← readNode ⟨defaultHandles, row.error?⟩ true false fuel { tokens := row.tokens })
  else
    let ts := row.tokens.dropWhile (· = .documentEnd)
    if (← firstOf row.error? ts) = .streamEnd then return none
    else
      let (own, ts) ← readDirectives row.error? (ts.length + 1) false [] ts
      if (← firstOf row.error? ts) = .documentStart then
        let ends (t : Token) : Bool := startsDocument t || t = .documentEnd
        row.finish (← readOptional ⟨own ++ defaultHandles, row.error?⟩ true false ends fuel
          { tokens := ts.tail })
      else refuse

end Row

end TrackerSearch.Yaml
