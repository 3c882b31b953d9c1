import Mathlib.Data.List.TakeWhile
import Mathlib.Tactic.Choose
import TrackerSearch.Proofs.Regex.Match
import TrackerSearch.Proofs.Text.Blank
import TrackerSearch.Proofs.Text.Pieces
import TrackerSearch.Regex.Replacement
import TrackerSearch.Trace

/-!
# Replacement texts say what they show

A replacement text is put into a notation with backslashes and read again from there. Nothing is lost
or gained on the way: references stand for groups, and every other character for itself, whatever
backslashes, dollars, digits and brackets it stands beside. Main statement:
`replace_of_compiled`.
-/
namespace TrackerSearch.Regex

open TrackerSearch.Text

variable {s name rest text : List Char} {ps : List Part} {p : Pattern} {n : Nat} {c : Char}

/-! ## Cutting at references -/

/-- A text starts with a reference to `name`, and `rest` follows: a dollar with the name in braces,
or a dollar with digits, as many as there are. -/
inductive Refers (name rest : List Char) : List Char → Prop
  | braced : name ≠ [] → (∀ c ∈ name, isWord c = true) →
      Refers name rest ('$' :: '\x7b' :: (name ++ '\x7d' :: rest))
  | numbered : name ≠ [] → (∀ c ∈ name, isDigit c = true) →
      (∀ c ∈ rest.head?, isDigit c = false) → Refers name rest ('$' :: (name ++ rest))

/-- A text cut at its references from left to right: only a character that starts none stands for
itself. -/
inductive Cuts : List Char → List Part → Prop
  | nil : Cuts [] []
  | reference {name rest s : List Char} {ps : List Part} :
      Refers name rest s → Cuts rest ps → Cuts s (.reference name :: ps)
  | literal {c : Char} {s : List Char} {ps : List Part} :
      (∀ name rest, ¬Refers name rest (c :: s)) → Cuts s ps → Cuts (c :: s) (.literal c :: ps)

theorem isWord_closing : isWord '\x7d' = false := by decide +kernel

theorem isDigit_opening : isDigit '\x7b' = false := by decide +kernel

theorem referenceName?_numbered (hs : s.head? ≠ some '\x7b') :
    referenceName? s =
      if (s.takeWhile isDigit).isEmpty then none
      else some (s.takeWhile isDigit, s.dropWhile isDigit) := by
  unfold referenceName?
  split
  · exact absurd rfl hs
  · rfl

theorem referenceName?_eq_some_iff :
    referenceName? s = some (name, rest) ↔ Refers name rest ('$' :: s) := by
  constructor
  · intro h
    unfold referenceName? at h
    split at h
    · rename_i s
      simp only at h
      split at h
      · rename_i rest' hdrop
        split at h
        · cases h
        · rename_i hne
          obtain ⟨rfl, rfl⟩ := Prod.mk.inj (Option.some.inj h)
          rw [List.isEmpty_iff] at hne
          have hbraced : Refers (s.takeWhile isWord) rest'
              ('$' :: '\x7b' :: (s.takeWhile isWord ++ '\x7d' :: rest')) :=
            .braced hne fun c hc => List.mem_takeWhile_imp hc
          rwa [← hdrop, List.takeWhile_append_dropWhile] at hbraced
      · cases h
    · simp only at h
      split at h
      · cases h
      · rename_i hne
        obtain ⟨rfl, rfl⟩ := Prod.mk.inj (Option.some.inj h)
        rw [List.isEmpty_iff] at hne
        have hnumbered : Refers (s.takeWhile isDigit) (s.dropWhile isDigit)
            ('$' :: (s.takeWhile isDigit ++ s.dropWhile isDigit)) :=
          .numbered hne (fun c hc => List.mem_takeWhile_imp hc) fun c hc => head?_dropWhile hc
        rwa [List.takeWhile_append_dropWhile] at hnumbered
  · intro h
    cases h with
    | braced hne hword =>
      have hclosing : ∀ c ∈ ('\x7d' :: rest).head?, isWord c = false := by simp [isWord_closing]
      obtain ⟨htake, hdrop⟩ := takeWhile_dropWhile_append hword hclosing
      simp [referenceName?, htake, hdrop, hne]
    | numbered hne hdigit hrest =>
      obtain ⟨htake, hdrop⟩ := takeWhile_dropWhile_append hdigit hrest
      have hopening : (name ++ rest).head? ≠ some '\x7b' := by
        obtain ⟨d, name, rfl⟩ := List.exists_cons_of_ne_nil hne
        rintro hd
        obtain rfl := Option.some.inj hd
        exact absurd (hdigit _ List.mem_cons_self) (by rw [isDigit_opening]; decide)
      rw [referenceName?_numbered hopening, htake, hdrop]
      simp [hne]

/-- No reference is other than by a dollar sign. -/
theorem Refers.head (h : Refers name rest s) : ∃ t, s = '$' :: t := by
  cases h <;> exact ⟨_, rfl⟩

theorem parts_reference (h : Refers name rest s) : parts s = .reference name :: parts rest := by
  obtain ⟨t, rfl⟩ := h.head
  have hname := referenceName?_eq_some_iff.mpr h
  rw [parts, if_pos rfl]
  split
  · rename_i name' rest' hname'
    obtain ⟨rfl, rfl⟩ := Prod.mk.inj (Option.some.inj (hname'.symm.trans hname))
    rfl
  · rename_i hnone
    cases hnone.symm.trans hname

theorem parts_literal (h : ∀ name rest, ¬Refers name rest (c :: s)) :
    parts (c :: s) = .literal c :: parts s := by
  rw [parts]
  split
  · rename_i hc
    subst hc
    split
    · rename_i hname
      exact absurd (referenceName?_eq_some_iff.mp hname) (h _ _)
    · rfl
  · rfl

theorem cuts_parts (s : List Char) : Cuts s (parts s) := by
  fun_induction parts s with
  | case1 => exact .nil
  | case2 s name rest hname _ ih => exact .reference (referenceName?_eq_some_iff.mp hname) ih
  | case3 s hnone ih =>
    refine .literal (fun name rest hrefers => ?_) ih
    rw [referenceName?_eq_some_iff.mpr hrefers] at hnone
    cases hnone
  | case4 c s hc ih =>
    refine .literal (fun name rest hrefers => ?_) ih
    obtain ⟨t, ht⟩ := hrefers.head
    exact hc (List.cons.inj ht).1

/-- There is one way to cut a text at its references. -/
theorem cuts_iff : Cuts s ps ↔ ps = parts s := by
  constructor
  · intro h
    induction h with
    | nil => rw [parts]
    | reference hrefers _ ih => rw [parts_reference hrefers, ih]
    | literal hno _ ih => rw [parts_literal hno, ih]
  · rintro rfl
    exact cuts_parts s

/-! ## What a reference stands for -/

/-- The group that a name stands for: an identifier is the name of a group, anything else its number
as a numeral, which has no more than `Number.maxDigits` digits. -/
inductive Pattern.Denotes (p : Pattern) (name : List Char) : Nat → Prop
  | named {n : Nat} : isIdentifier name = true → p.names.lookup name = some n → Denotes p name n
  | numbered {n : Nat} : isIdentifier name = false → Number.readInt? name = some (n : Int) →
      n ≤ p.groups → Denotes p name n

theorem lookup_eq_find? (names : List (List Char × Nat)) (name : List Char) :
    names.lookup name = (names.find? (·.1 == name)).map (·.2) := by
  induction names with
  | nil => rfl
  | cons entry names ih =>
    rw [List.lookup_cons, List.find?_cons, BEq.comm]
    cases entry.1 == name with
    | true => rfl
    | false => exact ih

theorem groupOf_eq_ok_iff : p.groupOf name = .ok n ↔ p.Denotes name n := by
  constructor
  · intro h
    unfold Pattern.groupOf at h
    split at h
    · rename_i hid
      split at h
      · rename_i key m hfind
        obtain rfl := Except.ok.inj h
        exact .named hid (by rw [lookup_eq_find?, hfind]; rfl)
      · cases h
    · rename_i hid
      split at h
      · rename_i k hread
        split at h
        · cases h
        · rename_i hrange
          obtain rfl := Except.ok.inj h
          rw [not_or, Int.not_lt, Int.not_lt] at hrange
          refine .numbered (Bool.eq_false_iff.mpr hid) ?_ (by omega)
          rw [hread, Int.toNat_of_nonneg hrange.1]
      · cases h
  · rintro (⟨hid, hlookup⟩ | ⟨hid, hread, hle⟩)
    · rw [lookup_eq_find?] at hlookup
      obtain ⟨⟨key, m⟩, hfind, rfl⟩ := Option.map_eq_some_iff.mp hlookup
      simp [Pattern.groupOf, hid, hfind]
    · have hrange : ¬((n : Int) < 0 ∨ (p.groups : Int) < n) := by omega
      simp only [Pattern.groupOf, hid, hread, Bool.false_eq_true, if_false, if_neg hrange,
        Int.toNat_natCast]

/-! ## Through the notation with backslashes -/

theorem readPieces_literal (hc : c ≠ '\\') (s : List Char) :
    p.readPieces (c :: s) = (do return .literal c :: (← p.readPieces s)) := by
  rw [Pattern.readPieces]
  all_goals
    intros
    exact hc ‹_›

theorem readPieces_reference (h : '>' ∉ name) (s : List Char) :
    p.readPieces ('\\' :: 'g' :: '<' :: (name ++ '>' :: s)) =
      (do return .group (← p.groupOf name) :: (← p.readPieces s)) := by
  rw [Pattern.readPieces, takeWhile_ne_append h]
  congr 1
  funext n
  split
  · rename_i hdrop
    rw [dropWhile_ne_append h] at hdrop
    cases hdrop
  · rename_i rest hdrop
    rw [dropWhile_ne_append h] at hdrop
    obtain ⟨-, rfl⟩ := List.cons.inj hdrop
    rfl

/-- What a part of a replacement text is read as. -/
def Pattern.pieceOf (p : Pattern) : Part → Except PatternError Piece
  | .literal c => .ok (.literal c)
  | .reference name => (p.groupOf name).map .group

/-- The notation is read as the parts that it was made from. -/
theorem readPieces_expand (h : ∀ name, Part.reference name ∈ ps → '>' ∉ name) :
    p.readPieces (ps.flatMap Part.expand) = ps.mapM p.pieceOf := by
  induction ps with
  | nil =>
    rw [List.flatMap_nil, List.mapM_nil, Pattern.readPieces]
    rfl
  | cons part ps ih =>
    have htail := ih fun name hname => h name (List.mem_cons_of_mem _ hname)
    rw [List.flatMap_cons, List.mapM_cons, ← htail]
    cases part with
    | literal c =>
      by_cases hc : c = '\\'
      · subst hc
        rw [Part.expand, if_pos rfl, List.cons_append, List.singleton_append, Pattern.readPieces]
        rfl
      · rw [Part.expand, if_neg hc, List.singleton_append, readPieces_literal hc]
        rfl
    | reference name =>
      have hexpand : (Part.reference name).expand ++ ps.flatMap Part.expand =
          '\\' :: 'g' :: '<' :: (name ++ '>' :: ps.flatMap Part.expand) := by
        simp [Part.expand]
      rw [hexpand, readPieces_reference (h name List.mem_cons_self), Pattern.pieceOf]
      cases p.groupOf name <;> rfl

theorem isWord_angle : isWord '>' = false := by decide +kernel

theorem isDigit_angle : isDigit '>' = false := by decide +kernel

/-- No name of a reference ends the notation. -/
theorem Refers.angle_not_mem (h : Refers name rest s) : '>' ∉ name := by
  cases h with
  | braced _ hword =>
    intro hmem
    exact absurd (hword _ hmem) (by rw [isWord_angle]; decide)
  | numbered _ hdigit _ =>
    intro hmem
    exact absurd (hdigit _ hmem) (by rw [isDigit_angle]; decide)

theorem Cuts.angle_not_mem (h : Cuts s ps) : ∀ name, Part.reference name ∈ ps → '>' ∉ name := by
  induction h with
  | nil =>
    intro name hname
    cases hname
  | reference hrefers _ ih =>
    intro name hname
    rcases List.mem_cons.mp hname with heq | hname
    · obtain rfl := Part.reference.inj heq
      exact hrefers.angle_not_mem
    · exact ih name hname
  | literal _ _ ih =>
    intro name hname
    rcases List.mem_cons.mp hname with heq | hname
    · cases heq
    · exact ih name hname

theorem readPieces_expandReferences (p : Pattern) (s : List Char) :
    p.readPieces (expandReferences s) = (parts s).mapM p.pieceOf :=
  readPieces_expand (cuts_parts s).angle_not_mem

/-! ## Replacing -/

/-- What a match makes of the parts of a replacement text, `group` being the groups that its
references stand for: a group that took no part in the match is empty. -/
def Found.instantiate (m : Found) (text : List Char) (group : List Char → Nat) (ps : List Part) :
    List Char :=
  ps.flatMap fun
    | .literal c => [c]
    | .reference name => (m.group? text (group name)).getD []

/-- Every match in a text replaced: the last text is the one before, which begins at the offset,
with what `f` makes of a match wherever the match lies, and no other change. -/
inductive Replaces (f : Found → List Char) : Nat → List Found → List Char → List Char → Prop
  | rest {offset : Nat} {s : List Char} : Replaces f offset [] s s
  | next {offset : Nat} {m : Found} {found : List Found} {gap matched s t : List Char} :
      m.first = offset + gap.length → m.last.offset = m.first + matched.length →
      Replaces f m.last.offset found s t →
      Replaces f offset (m :: found) (gap ++ matched ++ s) (gap ++ f m ++ t)

/-- The groups of references as pieces. -/
def Part.piece (group : List Char → Nat) : Part → Piece
  | .literal c => .literal c
  | .reference name => .group (group name)

theorem fill_map_piece (m : Found) (text : List Char) (group : List Char → Nat) (ps : List Part) :
    m.fill text (ps.map (Part.piece group)) = m.instantiate text group ps := by
  rw [Found.fill, Found.instantiate, List.flatMap_map]
  congr 1
  funext part
  cases part <;> rfl

theorem mapM_pieceOf {group : List Char → Nat}
    (h : ∀ name, Part.reference name ∈ ps → p.Denotes name (group name)) :
    ps.mapM p.pieceOf = .ok (ps.map (Part.piece group)) := by
  induction ps with
  | nil => rfl
  | cons part ps ih =>
    have hpart : p.pieceOf part = .ok (part.piece group) := by
      cases part with
      | literal c => rfl
      | reference name =>
        rw [Pattern.pieceOf, groupOf_eq_ok_iff.mpr (h name List.mem_cons_self)]
        rfl
    rw [List.mapM_cons, hpart, ih fun name hname => h name (List.mem_cons_of_mem _ hname)]
    rfl

theorem forall_of_mapM_eq_ok {α β ε : Type} {f : α → Except ε β} {xs : List α} {ys : List β}
    (h : xs.mapM f = .ok ys) : ∀ x ∈ xs, ∃ y, f x = .ok y := by
  induction xs generalizing ys with
  | nil =>
    intro x hx
    cases hx
  | cons x xs ih =>
    rw [List.mapM_cons] at h
    obtain ⟨y, hy, h⟩ := except_bind_eq_ok.mp h
    obtain ⟨ys', hys, -⟩ := except_bind_eq_ok.mp h
    exact List.forall_mem_cons.mpr ⟨⟨y, hy⟩, ih hys⟩

/-- Reading succeeds only if every reference stands for a group. -/
theorem exists_denotes_of_mapM {pieces : List Piece} (h : ps.mapM p.pieceOf = .ok pieces)
    (hname : Part.reference name ∈ ps) : ∃ n, p.Denotes name n := by
  obtain ⟨piece, hpiece⟩ := forall_of_mapM_eq_ok h _ hname
  rw [Pattern.pieceOf] at hpiece
  cases hgroup : p.groupOf name with
  | ok n => exact ⟨n, groupOf_eq_ok_iff.mp hgroup⟩
  | error e =>
    rw [hgroup] at hpiece
    cases hpiece

theorem slice_append_drop {lo hi : Nat} (h : lo ≤ hi) (text : List Char) :
    slice text lo hi ++ text.drop hi = text.drop lo := by
  have hdrop : text.drop hi = (text.drop lo).drop (hi - lo) := by
    rw [List.drop_drop, Nat.add_sub_of_le h]
  rw [slice, hdrop, List.take_append_drop]

theorem length_slice {lo hi : Nat} (h : hi ≤ text.length) : (slice text lo hi).length = hi - lo := by
  rw [slice, List.length_take, List.length_drop]
  omega

theorem replaces_weave {pieces : List Piece} {found : List Found} {advance : Bool} {c : Cursor}
    (h : c.In text) (hfound : p.Visits text advance c found) :
    Replaces (·.fill text pieces) c.offset found (text.drop c.offset)
      (weave text pieces c.offset found) := by
  induction hfound with
  | stop => exact .rest
  | @next advance c m found hsearch _ ih =>
    obtain ⟨hoffset, hfirst, hlast, -⟩ := behind_searchFrom h hsearch
    have hend := hlast.length
    have hsource : text.drop c.offset = slice text c.offset m.first ++
        slice text m.first m.last.offset ++ text.drop m.last.offset := by
      rw [List.append_assoc, slice_append_drop hfirst, slice_append_drop hoffset]
    rw [hsource, weave]
    refine .next ?_ ?_ (ih hlast)
    · rw [length_slice (by omega)]
      omega
    · rw [length_slice (by omega)]
      omega

theorem Pattern.Visits.unique {advance : Bool} {c : Cursor} {found found' : List Found}
    (h : p.Visits text advance c found) (h' : p.Visits text advance c found') : found = found' := by
  induction h generalizing found' with
  | stop hnone =>
    cases h' with
    | stop => rfl
    | next hsome => cases hnone.symm.trans hsome
  | next hsome _ ih =>
    cases h' with
    | stop hnone => cases hnone.symm.trans hsome
    | next hsome' hfound =>
      obtain rfl := Option.some.inj (hsome.symm.trans hsome')
      rw [ih hfound]

theorem visits_iff {found : List Found} :
    p.Visits text false (Cursor.start text) found ↔ found = p.findAll text := by
  constructor
  · exact fun h => h.unique (visits_findAll p text)
  · rintro rfl
    exact visits_findAll p text

/-- Replacing is reading the parts of the replacement text and then filling every match in. -/
theorem replace_eq {pattern : List Char} (hp : Pattern.compile pattern = .ok p)
    (replacement text : List Char) :
    replace pattern replacement text =
      ((parts replacement).mapM p.pieceOf).map fun pieces => p.replaceMatches pieces text := by
  rw [replace, hp, ← readPieces_expandReferences]
  rfl

/-- A replacement text says what it shows: if each of its references stands for a group of the
pattern, every match is replaced by the text with the groups of the match in place of the references.
Otherwise there is no result. -/
theorem replace_of_compiled {pattern : List Char} (hp : Pattern.compile pattern = .ok p)
    (replacement text : List Char) :
    (∀ ps, Cuts replacement ps ↔ ps = parts replacement) ∧
    (∀ found, p.Visits text false (Cursor.start text) found ↔ found = p.findAll text) ∧
    ((∃ result, replace pattern replacement text = .ok result) ↔
      ∀ name, Part.reference name ∈ parts replacement → ∃ n, p.Denotes name n) ∧
    ∀ group : List Char → Nat,
      (∀ name, Part.reference name ∈ parts replacement → p.Denotes name (group name)) →
      ∃ result, replace pattern replacement text = .ok result ∧
        Replaces (·.instantiate text group (parts replacement)) 0 (p.findAll text) text result := by
  have hfilled (group : List Char → Nat)
      (hgroup : ∀ name, Part.reference name ∈ parts replacement → p.Denotes name (group name)) :
      ∃ result, replace pattern replacement text = .ok result ∧
        Replaces (·.instantiate text group (parts replacement)) 0 (p.findAll text) text result := by
    have hweave : Replaces (·.fill text ((parts replacement).map (Part.piece group))) 0
        (p.findAll text) text _ := replaces_weave (.start text) (visits_findAll p text)
    simp only [fill_map_piece] at hweave
    refine ⟨_, ?_, hweave⟩
    rw [replace_eq hp, mapM_pieceOf hgroup]
    rfl
  refine ⟨fun ps => cuts_iff, fun found => visits_iff, ⟨?_, ?_⟩, hfilled⟩
  · rintro ⟨result, hresult⟩ name hname
    rw [replace_eq hp] at hresult
    cases hpieces : (parts replacement).mapM p.pieceOf with
    | ok pieces => exact exists_denotes_of_mapM hpieces hname
    | error e =>
      rw [hpieces] at hresult
      cases hresult
  · intro hnames
    choose! group hgroup using hnames
    obtain ⟨result, hresult, -⟩ := hfilled group hgroup
    exact ⟨result, hresult⟩

/-- The pattern `(?P<w>b)|(c)`. -/
def twoGroups : Pattern where
  root := .alt (.group 1 (.set .none false [.char 98])) (.group 2 (.set .none false [.char 99]))
  groups := 2
  names := [(['w'], 1)]

/-- The groups of the names `1`, `w` and `2`. -/
def twoGroupsOf (name : List Char) : Nat := if name = ['2'] then 2 else 1

/-- A named group, a group that takes no part in two of the matches, and characters that would mean
something in the notation with backslashes. -/
theorem replace_of_two_groups :
    Pattern.compile "(?P<w>b)|(c)".toList = .ok twoGroups ∧
    (∀ name, Part.reference name ∈ parts "\\1$1[$\x7bw\x7d]\\g<0>$$2".toList →
      twoGroups.Denotes name (twoGroupsOf name)) ∧
    ∃ result, result = "a\\1b[b]\\g<0>$\\1[]\\g<0>$c\\1b[b]\\g<0>$".toList ∧
      replace "(?P<w>b)|(c)".toList "\\1$1[$\x7bw\x7d]\\g<0>$$2".toList "abcb".toList =
        .ok result ∧
      Replaces (·.instantiate "abcb".toList twoGroupsOf
        (parts "\\1$1[$\x7bw\x7d]\\g<0>$$2".toList)) 0 (twoGroups.findAll "abcb".toList)
        "abcb".toList result := by
  have hp : Pattern.compile "(?P<w>b)|(c)".toList = .ok twoGroups := by decide +kernel
  have hparts : parts "\\1$1[$\x7bw\x7d]\\g<0>$$2".toList =
      [.literal '\\', .literal '1', .reference ['1'], .literal '[', .reference ['w'], .literal ']',
        .literal '\\', .literal 'g', .literal '<', .literal '0', .literal '>', .literal '$',
        .reference ['2']] := by decide +kernel
  have hgroup : ∀ name, Part.reference name ∈ parts "\\1$1[$\x7bw\x7d]\\g<0>$$2".toList →
      twoGroups.Denotes name (twoGroupsOf name) := by
    intro name hname
    simp only [hparts, List.mem_cons, Part.reference.injEq, reduceCtorEq, false_or,
      List.not_mem_nil, or_false] at hname
    rcases hname with rfl | rfl | rfl
    · exact .numbered (by decide +kernel) (by decide +kernel) (by decide)
    · exact .named (by decide +kernel) (by decide)
    · exact .numbered (by decide +kernel) (by decide +kernel) (by decide)
  have hresult : replace "(?P<w>b)|(c)".toList "\\1$1[$\x7bw\x7d]\\g<0>$$2".toList "abcb".toList =
      .ok "a\\1b[b]\\g<0>$\\1[]\\g<0>$c\\1b[b]\\g<0>$".toList := by decide +kernel
  have hreplaced := (replace_of_compiled hp "\\1$1[$\x7bw\x7d]\\g<0>$$2".toList "abcb".toList).2.2.2
    twoGroupsOf hgroup
  obtain ⟨result, hok, hreplaces⟩ := hreplaced
  exact ⟨hp, hgroup, result, Except.ok.inj (hok.symm.trans hresult), hok, hreplaces⟩

end TrackerSearch.Regex
