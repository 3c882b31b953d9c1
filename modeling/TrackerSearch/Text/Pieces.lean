/-!
# Searching, replacing and splitting

Everything works on lists of characters. Occurrences are found left to right and do not overlap.
-/
namespace TrackerSearch.Text

/-- `s` without the leading `lead`, when it starts with it. -/
def dropLead? : List Char → List Char → Option (List Char)
  | [], s => some s
  | _ :: _, [] => none
  | c :: lead, d :: s => if c = d then dropLead? lead s else none

/-- Does `s` start with `lead`? -/
def startsWith (lead s : List Char) : Bool := (dropLead? lead s).isSome

/-- Does `s` end with `tail`? -/
def endsWith (tail s : List Char) : Bool := startsWith tail.reverse s.reverse

/-- The text before the first occurrence of `sep` and the text after it. -/
def cutAt? (sep : List Char) : List Char → Option (List Char × List Char)
  | [] => if sep.isEmpty then some ([], []) else none
  | c :: s =>
    match dropLead? sep (c :: s) with
    | some rest => some ([], rest)
    | none => (cutAt? sep s).map fun (pre, post) => (c :: pre, post)

theorem length_of_dropLead? {lead s r : List Char} (h : dropLead? lead s = some r) :
    r.length + lead.length = s.length := by
  induction lead generalizing s with
  | nil => simp only [dropLead?, Option.some.injEq] at h; simp [h]
  | cons c lead ih =>
    cases s with
    | nil => simp [dropLead?] at h
    | cons d s =>
      simp only [dropLead?] at h
      split at h
      · have := ih h; simp only [List.length_cons]; omega
      · simp at h

theorem length_of_cutAt? {sep s pre post : List Char} (h : cutAt? sep s = some (pre, post)) :
    post.length + pre.length + sep.length = s.length := by
  induction s generalizing pre with
  | nil =>
    simp only [cutAt?] at h
    split at h
    · simp only [Option.some.injEq, Prod.mk.injEq] at h; simp_all
    · simp at h
  | cons c s ih =>
    rw [cutAt?] at h
    split at h
    · rename_i rest hr
      simp only [Option.some.injEq, Prod.mk.injEq] at h
      have := length_of_dropLead? hr
      rw [← h.1, ← h.2]; simp only [List.length_nil]; omega
    · cases hc : cutAt? sep s with
      | none => simp [hc] at h
      | some p =>
        simp only [hc, Option.map_some, Option.some.injEq, Prod.mk.injEq] at h
        have := @ih p.1 (by rw [hc, ← h.2])
        rw [← h.1]; simp only [List.length_cons]; omega

/-- Does `part` occur in `s`? -/
def occursIn (part s : List Char) : Bool := (cutAt? part s).isSome

/-- The pieces of `s` between the occurrences of a separator of at least one character. -/
def splitOn (sep : List Char) (s : List Char) : List (List Char) :=
  match h : cutAt? sep s with
  | none => [s]
  | some (pre, post) =>
    if hs : 0 < sep.length then
      have : post.length < s.length := by have := length_of_cutAt? h; omega
      pre :: splitOn sep post
    else [s]
termination_by s.length

/-- The pieces of `s` between the characters that satisfy `p`. -/
def splitBy (p : Char → Bool) : List Char → List (List Char)
  | [] => [[]]
  | c :: s =>
    if p c then [] :: splitBy p s
    else match splitBy p s with
      | [] => [[c]]
      | piece :: rest => (c :: piece) :: rest

/-- Join pieces with a separator between neighbours. -/
def joinWith (sep : List Char) : List (List Char) → List Char
  | [] => []
  | [piece] => piece
  | piece :: rest => piece ++ sep ++ joinWith sep rest

/-- Replace every occurrence of `old`. An empty `old` occurs before every character and at the
end. -/
def replaceAll (old new s : List Char) : List Char :=
  if old.isEmpty then new ++ s.flatMap (fun c => c :: new)
  else joinWith new (splitOn old s)

/-- `replaceAll` on strings. -/
def replacing (old new s : String) : String :=
  String.ofList (replaceAll old.toList new.toList s.toList)

/-- ASCII lower case; other characters stay. -/
def asciiLower (c : Char) : Char :=
  if 'A' ≤ c ∧ c ≤ 'Z' then Char.ofNat (c.toNat + 32) else c

/-- `asciiLower` on strings. -/
def asciiLowered (s : String) : String := String.ofList (s.toList.map asciiLower)

end TrackerSearch.Text
