import TrackerSearch.Number.Integer
import TrackerSearch.Regex.Match
import TrackerSearch.Regex.Parse

/-!
# Replacement texts

Definitions write references to groups as `$1` or `${name}`. Such a text is first put into the
notation `\g<name>`, with every backslash doubled, and that notation is then read against a pattern.
Main functions: `expandReferences`, `readPieces` and `replaceMatches`.
-/
namespace TrackerSearch.Regex

open TrackerSearch.Text

/-- The name in a reference at the start of `s`, which follows a dollar sign, and what comes after
the reference. -/
def referenceName? (s : List Char) : Option (List Char × List Char) :=
  match s with
  | '\x7b' :: s =>
    let name := s.takeWhile isWord
    match s.dropWhile isWord with
    | '\x7d' :: rest => if name.isEmpty then none else some (name, rest)
    | _ => none
  | s =>
    let name := s.takeWhile isDigit
    if name.isEmpty then none else some (name, s.dropWhile isDigit)

/-- A replacement text cut at its references. -/
inductive Part where
  | literal (c : Char)
  | reference (name : List Char)
  deriving Repr, DecidableEq

theorem length_of_referenceName? {s name rest : List Char}
    (h : referenceName? s = some (name, rest)) : rest.length < s.length + 1 := by
  have drops (p : Char → Bool) (l : List Char) : (l.dropWhile p).length ≤ l.length :=
    (List.dropWhile_sublist p).length_le
  unfold referenceName? at h
  split at h
  · rename_i s
    have := drops isWord s
    split at h
    · rename_i hd
      simp only at h
      split at h
      · simp at h
      · simp only [Option.some.injEq, Prod.mk.injEq] at h
        rw [hd] at this
        simp only [List.length_cons] at this ⊢
        rw [← h.2]; omega
    · simp at h
  · simp only at h
    split at h
    · simp at h
    · simp only [Option.some.injEq, Prod.mk.injEq] at h
      rw [← h.2]
      exact Nat.lt_succ_of_le (drops isDigit _)

/-- The parts of a replacement text, left to right. -/
def parts : List Char → List Part
  | [] => []
  | c :: s =>
    if c = '$' then
      match h : referenceName? s with
      | some (name, rest) =>
        have : rest.length < s.length + 1 := length_of_referenceName? h
        .reference name :: parts rest
      | none => .literal c :: parts s
    else .literal c :: parts s
termination_by s => s.length

/-- A part in the backslash notation. -/
def Part.expand : Part → List Char
  | .literal c => if c = '\\' then ['\\', '\\'] else [c]
  | .reference name => '\\' :: 'g' :: '<' :: name ++ ['>']

/-- Put a replacement text into the backslash notation. -/
def expandReferences (s : List Char) : List Char := (parts s).flatMap Part.expand

/-- What a match is replaced by: characters, and texts of groups. -/
inductive Piece where
  | literal (c : Char)
  | group (n : Nat)
  deriving Repr, DecidableEq

/-- The group that a reference names: an identifier is looked up among the names, anything else has
to be the number of a group. -/
def Pattern.groupOf (p : Pattern) (name : List Char) : Except PatternError Nat :=
  if isIdentifier name then
    match p.names.find? (·.1 == name) with
    | some (_, n) => .ok n
    | none => .error .unknownGroupName
  else
    match Number.readInt? name with
    | some n => if n < 0 ∨ (p.groups : Int) < n then .error .malformed else .ok n.toNat
    | none => .error .malformed

/-- Read the backslash notation against a pattern. -/
def Pattern.readPieces (p : Pattern) : List Char → Except PatternError (List Piece)
  | [] => .ok []
  | '\\' :: '\\' :: s => return .literal '\\' :: (← p.readPieces s)
  | '\\' :: 'g' :: '<' :: s => do
    let n ← p.groupOf (s.takeWhile (· != '>'))
    match h : s.dropWhile (· != '>') with
    | [] => throw .malformed
    | _ :: rest =>
      have : rest.length < s.length := by
        have := (List.dropWhile_sublist (l := s) (· != '>')).length_le
        rw [h] at this; simp only [List.length_cons] at this; omega
      return .group n :: (← p.readPieces rest)
  | '\\' :: _ => throw .malformed
  | c :: s => return .literal c :: (← p.readPieces s)
termination_by s => s.length

/-- The text that a match is replaced by; a group that took no part is empty. -/
def Found.fill (m : Found) (text : List Char) (pieces : List Piece) : List Char :=
  pieces.flatMap fun
    | .literal c => [c]
    | .group n => (m.group? text n).getD []

/-- Put together the stretches between matches and the replacements; `offset` is the end of the
match before. -/
def weave (text : List Char) (pieces : List Piece) : Nat → List Found → List Char
  | offset, [] => text.drop offset
  | offset, m :: rest =>
    slice text offset m.first ++ m.fill text pieces ++ weave text pieces m.last.offset rest

/-- Replace every match of a pattern. -/
def Pattern.replaceMatches (p : Pattern) (pieces : List Piece) (text : List Char) : List Char :=
  weave text pieces 0 (p.findAll text)

/-- Compile a pattern, read a replacement text against it, and replace every match. -/
def replace (pattern replacement text : List Char) : Except PatternError (List Char) := do
  let p ← Pattern.compile pattern
  let pieces ← p.readPieces (expandReferences replacement)
  return p.replaceMatches pieces text

end TrackerSearch.Regex
