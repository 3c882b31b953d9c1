import TrackerSearch.Yaml.Read

/-!
# Plain texts

A text in which one half of a pair of code points is named, which is no character, or in which a
node lies in itself has a value that is no tree of texts. One that is nested very deeply has a value
as far as a reader can follow it. All other texts are plain: their escapes by number are read as the
characters with these numbers (`Plain.escape_eq`).
-/
namespace TrackerSearch.Yaml

/-- A text has an escape with the number of one half of a pair, which is no character. -/
def NamesHalf (text : List Char) : Prop :=
  ∃ mark digits, '\\' :: mark :: digits <:+: text ∧ escapeWidth? mark = some digits.length ∧
    0xD800 ≤ escapeNumber digits ∧ escapeNumber digits ≤ 0xDFFF

theorem escape_of_not_namesHalf {c c' : Cursor} {text : List Char} {width : Nat}
    (hshort : shortEscape? c.head = none) (hwidth : escapeWidth? c.head = some width)
    (hnames : ¬ NamesHalf ('\\' :: c.rest)) (h : escape c = .ok (text, c')) :
    ∃ x : Char, text = [x] ∧ x.toNat = escapeNumber ((c.rest.drop 1).take width) := by
  simp only [escape, hshort, hwidth] at h
  split at h
  · cases h
  rename_i hdigits
  split at h
  · cases h
  split at h
  · cases h
  rename_i hunicode
  obtain ⟨rfl, -⟩ := Prod.mk.inj (Except.ok.inj h)
  have hlength : ((c.rest.drop 1).take width).length = width := by
    simp only [Bool.or_eq_true, decide_eq_true_eq, not_or] at hdigits
    have := List.length_take_le width (c.rest.drop 1)
    omega
  have hprefix : '\\' :: c.head :: (c.rest.drop 1).take width <+: '\\' :: c.rest := by
    cases hrest : c.rest with
    | nil =>
      have hhead : c.head = '\x00' := by simp [Cursor.head, Cursor.peek, hrest]
      rw [hhead] at hwidth
      cases hwidth
    | cons x rest =>
      have hhead : c.head = x := by simp [Cursor.head, Cursor.peek, hrest]
      rw [hhead]
      exact List.cons_prefix_cons.mpr ⟨rfl, List.cons_prefix_cons.mpr ⟨rfl, List.take_prefix ..⟩⟩
  have hhalf : ¬(0xD800 ≤ escapeNumber ((c.rest.drop 1).take width) ∧
      escapeNumber ((c.rest.drop 1).take width) ≤ 0xDFFF) := fun hrange =>
    hnames ⟨c.head, _, hprefix.isInfix, by rw [hwidth, hlength], hrange⟩
  have hvalid : (escapeNumber ((c.rest.drop 1).take width)).isValidChar := by
    simp only [Nat.isValidChar]
    omega
  refine ⟨_, rfl, ?_⟩
  have hchar : Char.ofNat _ = Char.ofNatAux _ hvalid := dif_pos hvalid
  rw [if_pos hvalid, hchar]
  rfl

/-- Does a node in a text lie in itself? -/
def isCircular (text : List Char) : Bool :=
  match read text with
  | .error .circular => true
  | _ => false

/-- How deep collections lie in each other in some tokens, with `depth` of them open in front. -/
def deepest : Nat → List Token → Nat
  | depth, [] => depth
  | depth, t :: ts =>
    match t with
    | .blockSequence | .blockMapping | .flowSequence | .flowMapping => deepest (depth + 1) ts
    | .blockEnd | .flowSequenceEnd | .flowMappingEnd => max depth (deepest (depth - 1) ts)
    | _ => deepest depth ts

/-- As deep as every reader can go. -/
def depthLimit : Nat := 100

/-- A text whose value is a tree of texts that is not too deep. -/
structure Plain (text : List Char) : Prop where
  noHalves : ¬ NamesHalf text
  tree : isCircular text = false
  shallow : deepest 0 (rowOf text).tokens ≤ depthLimit

/-- An escape by number in a plain text is read as the character with that number. -/
theorem Plain.escape_eq {text front : List Char} {c c' : Cursor} {value : List Char} {width : Nat}
    (h : Plain text) (htext : text = front ++ '\\' :: c.rest) (hshort : shortEscape? c.head = none)
    (hwidth : escapeWidth? c.head = some width) (hescape : escape c = .ok (value, c')) :
    ∃ x : Char, value = [x] ∧ x.toNat = escapeNumber ((c.rest.drop 1).take width) := by
  refine escape_of_not_namesHalf hshort hwidth (fun hnames => h.noHalves ?_) hescape
  obtain ⟨mark, digits, hpart, hrange⟩ := hnames
  rw [htext]
  exact ⟨mark, digits, hpart.trans (List.suffix_append ..).isInfix, hrange⟩

end TrackerSearch.Yaml
