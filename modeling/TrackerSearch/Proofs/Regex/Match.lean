import TrackerSearch.Regex.Match

/-!
# Matches in order

Matching goes forward: what follows a node is only asked at places behind the one where the node
began, whatever look-arounds and repetitions do in between. So the matches of a pattern lie one
behind the other in the text, and the search for all of them stops only where there is no further one
(`visits_findAll`).
-/
namespace TrackerSearch.Regex

variable {α : Type} {text : List Char} {c c' : Cursor} {caps : Captures} {rest : Rest α} {a : α}
  {p : Pattern} {m : Found} {advance : Bool}

/-! ## Places in a text -/

/-- The cursor stands at a place of the text. -/
structure Cursor.In (text : List Char) (c : Cursor) : Prop where
  whole : c.before.reverse ++ c.after = text
  offset_eq : c.offset = c.before.length

namespace Cursor.In

theorem start (text : List Char) : (Cursor.start text).In text := ⟨rfl, rfl⟩

theorem length (h : c.In text) : c.offset + c.after.length = text.length := by
  have hlength := congrArg List.length h.whole
  rw [List.length_append, List.length_reverse] at hlength
  rw [h.offset_eq]
  exact hlength

theorem drop (h : c.In text) : text.drop c.offset = c.after := by
  have hlength : c.offset = c.before.reverse.length := by rw [h.offset_eq, List.length_reverse]
  rw [← h.whole, hlength, List.drop_left]

theorem next {x : Char} (h : c.In text) (hnext : c.next? = some (x, c')) :
    c'.In text ∧ c'.offset = c.offset + 1 := by
  unfold Cursor.next? at hnext
  split at hnext
  · cases hnext
  · rename_i y after hafter
    obtain ⟨-, rfl⟩ := Prod.mk.inj (Option.some.inj hnext)
    refine ⟨⟨?_, ?_⟩, rfl⟩
    · rw [List.reverse_cons, List.append_assoc, List.singleton_append, ← hafter, h.whole]
    · rw [List.length_cons, ← h.offset_eq]

end Cursor.In

/-! ## Forward -/

/-- What follows the step succeeds at a place that is not in front of the one it began at. -/
def Reaches (text : List Char) (c : Cursor) (rest : Rest α) (a : α) : Prop :=
  ∃ c' caps', c'.In text ∧ c.offset ≤ c'.offset ∧ rest c' caps' = some a

/-- A step that only goes forward. -/
def Forward (text : List Char) (step : Cursor → Captures → Rest α → Option α) : Prop :=
  ∀ c caps rest a, c.In text → step c caps rest = some a → Reaches text c rest a

theorem Reaches.here (h : c.In text) (hrest : rest c caps = some a) : Reaches text c rest a :=
  ⟨c, caps, h, Nat.le_refl _, hrest⟩

theorem Reaches.from (hle : c.offset ≤ c'.offset) (h : Reaches text c' rest a) :
    Reaches text c rest a := by
  obtain ⟨d, caps, hd, hle', hrest⟩ := h
  exact ⟨d, caps, hd, Nat.le_trans hle hle', hrest⟩

theorem Reaches.next {x : Char} (h : c.In text) (hnext : c.next? = some (x, c'))
    (hrest : rest c' caps = some a) : Reaches text c rest a := by
  obtain ⟨hc', hoffset⟩ := h.next hnext
  exact .from (by omega) (.here hc' hrest)

theorem forward_stepOver {fold : Folding} {s : List Char} (h : c.In text)
    (hstep : stepOver fold s c = some c') : c'.In text ∧ c.offset ≤ c'.offset := by
  induction s generalizing c with
  | nil =>
    obtain rfl := Option.some.inj hstep
    exact ⟨h, Nat.le_refl _⟩
  | cons x s ih =>
    rw [stepOver] at hstep
    split at hstep
    · rename_i y d hnext
      obtain ⟨hd, hoffset⟩ := h.next hnext
      split at hstep
      · obtain ⟨hc', hle⟩ := ih hd hstep
        exact ⟨hc', by omega⟩
      · cases hstep
    · cases hstep

variable {body : Cursor → Captures → Rest α → Option α} {min fuel count : Nat} {max last : Option Nat}

theorem forward_loopGreedy (hbody : Forward text body) (h : c.In text)
    (hrun : loopGreedy body rest min max fuel count last c caps = some a) :
    Reaches text c rest a := by
  induction fuel generalizing count last c caps with
  | zero => exact .here h hrun
  | succ fuel ih =>
    -- One more round, and then the rounds behind it.
    have hround {count last} (hrun : body c caps (loopGreedy body rest min max fuel count last) =
        some a) : Reaches text c rest a := by
      obtain ⟨d, caps', hd, hle, hrest⟩ := hbody _ _ _ _ h hrun
      exact .from hle (ih hd hrest)
    rw [loopGreedy] at hrun
    split at hrun
    · exact hround hrun
    · simp only at hrun
      split at hrun
      · rename_i b hagain
        obtain rfl := Option.some.inj hrun
        split at hagain
        · exact hround hagain
        · cases hagain
      · exact .here h hrun

theorem forward_loopLazy (hbody : Forward text body) (h : c.In text)
    (hrun : loopLazy body rest min max fuel count last c caps = some a) :
    Reaches text c rest a := by
  induction fuel generalizing count last c caps with
  | zero => exact .here h hrun
  | succ fuel ih =>
    have hround {count last} (hrun : body c caps (loopLazy body rest min max fuel count last) =
        some a) : Reaches text c rest a := by
      obtain ⟨d, caps', hd, hle, hrest⟩ := hbody _ _ _ _ h hrun
      exact .from hle (ih hd hrest)
    rw [loopLazy] at hrun
    split at hrun
    · exact hround hrun
    · split at hrun
      · rename_i b hrest
        obtain rfl := Option.some.inj hrun
        exact .here h hrest
      · split at hrun
        · exact hround hrun
        · cases hrun

/-- Every node only goes forward. -/
theorem Node.forward (text : List Char) (node : Node) {α : Type} :
    Forward (α := α) text (node.run text) := by
  induction node generalizing α with
  | empty =>
    intro c caps rest a h hrun
    exact .here h hrun
  | any lineBreaks =>
    intro c caps rest a h hrun
    rw [Node.run] at hrun
    split at hrun
    · rename_i x d hnext
      split at hrun
      · exact .next h hnext hrun
      · cases hrun
    · cases hrun
  | set fold negated items =>
    intro c caps rest a h hrun
    rw [Node.run] at hrun
    split at hrun
    · rename_i x d hnext
      split at hrun
      · exact .next h hnext hrun
      · cases hrun
    · cases hrun
  | anchor k =>
    intro c caps rest a h hrun
    rw [Node.run] at hrun
    split at hrun
    · exact .here h hrun
    · cases hrun
  | seq first second hfirst hsecond =>
    intro c caps rest a h hrun
    rw [Node.run] at hrun
    obtain ⟨d, caps', hd, hle, hrest⟩ := hfirst _ _ _ _ h hrun
    exact .from hle (hsecond _ _ _ _ hd hrest)
  | alt first second hfirst hsecond =>
    intro c caps rest a h hrun
    rw [Node.run] at hrun
    split at hrun
    · rename_i b hb
      obtain rfl := Option.some.inj hrun
      exact hfirst _ _ _ _ h hb
    · exact hsecond _ _ _ _ h hrun
  | repeated q min max body hbody =>
    intro c caps rest a h hrun
    cases q with
    | greedy =>
      rw [Node.run] at hrun
      exact forward_loopGreedy hbody h hrun
    | «lazy» =>
      rw [Node.run] at hrun
      exact forward_loopLazy hbody h hrun
    | possessive =>
      rw [Node.run] at hrun
      split at hrun
      · rename_i d caps' hloop
        obtain ⟨e, caps'', he, hle, hfinish⟩ := forward_loopGreedy hbody h hloop
        obtain ⟨rfl, rfl⟩ := Prod.mk.inj (Option.some.inj hfinish)
        exact .from hle (.here he hrun)
      · cases hrun
  | group n body hbody =>
    intro c caps rest a h hrun
    rw [Node.run] at hrun
    obtain ⟨d, caps', hd, hle, hrest⟩ := hbody _ _ _ _ h hrun
    exact .from hle (.here hd hrest)
  | atomic body hbody =>
    intro c caps rest a h hrun
    rw [Node.run] at hrun
    split at hrun
    · rename_i d caps' hinner
      obtain ⟨e, caps'', he, hle, hfinish⟩ := hbody _ _ _ _ h hinner
      obtain ⟨rfl, rfl⟩ := Prod.mk.inj (Option.some.inj hfinish)
      exact .from hle (.here he hrun)
    · cases hrun
  | ahead negated body hbody =>
    intro c caps rest a h hrun
    rw [Node.run] at hrun
    split at hrun
    · split at hrun
      · cases hrun
      · exact .here h hrun
    · split at hrun
      · exact .here h hrun
      · cases hrun
  | behind negated lo hi body hbody =>
    intro c caps rest a h hrun
    rw [Node.run] at hrun
    split at hrun
    · split at hrun
      · cases hrun
      · exact .here h hrun
    · split at hrun
      · exact .here h hrun
      · cases hrun
  | backref fold n =>
    intro c caps rest a h hrun
    rw [Node.run] at hrun
    split at hrun
    · split at hrun
      · rename_i d hstep
        obtain ⟨hd, hle⟩ := forward_stepOver h hstep
        exact .from hle (.here hd hrun)
      · cases hrun
    · cases hrun
  | ifGroup n yes no hyes hno =>
    intro c caps rest a h hrun
    rw [Node.run] at hrun
    split at hrun
    · exact hyes _ _ _ _ h hrun
    · exact hno _ _ _ _ h hrun

/-! ## All matches -/

/-- A match behind an offset. With `advance` set, it reaches beyond that offset. -/
structure Found.Behind (text : List Char) (advance : Bool) (offset : Nat) (m : Found) : Prop where
  offset_le : offset ≤ m.first
  first_le : m.first ≤ m.last.offset
  last_in : m.last.In text
  beyond : advance = true → offset < m.last.offset

theorem behind_matchAt (h : c.In text) (hmatch : p.matchAt text advance c = some m) :
    m.Behind text advance c.offset := by
  obtain ⟨⟨e, caps⟩, hrun, rfl⟩ := Option.map_eq_some_iff.mp hmatch
  obtain ⟨d, caps', hd, hle, haccept⟩ := Node.forward text p.root c [] _ _ h hrun
  simp only at haccept
  split at haccept
  · cases haccept
  · rename_i hmoved
    obtain ⟨rfl, rfl⟩ := Prod.mk.inj (Option.some.inj haccept)
    refine ⟨Nat.le_refl _, hle, hd, fun hadvance => ?_⟩
    exact Nat.lt_of_le_of_ne hle fun heq => hmoved ⟨hadvance, heq.symm⟩

theorem behind_searchFrom {offset : Nat} {before after : List Char}
    (h : (⟨offset, before, after⟩ : Cursor).In text)
    (hsearch : p.searchFrom text advance offset before after = some m) :
    m.Behind text advance offset := by
  induction after generalizing advance offset before with
  | nil => exact behind_matchAt h hsearch
  | cons x after ih =>
    rw [Pattern.searchFrom] at hsearch
    split at hsearch
    · rename_i m' hmatch
      obtain rfl := Option.some.inj hsearch
      exact behind_matchAt h hmatch
    · have hnext : (⟨offset + 1, x :: before, after⟩ : Cursor).In text := (h.next rfl).1
      obtain ⟨hoffset, hfirst, hlast, -⟩ := ih hnext hsearch
      exact ⟨by omega, hfirst, hlast, fun _ => by omega⟩

/-- The matches from a place on: each is the first one behind the match before it, and behind the
last one there is none. -/
inductive Pattern.Visits (p : Pattern) (text : List Char) : Bool → Cursor → List Found → Prop
  | stop {advance : Bool} {c : Cursor} :
      p.searchFrom text advance c.offset c.before c.after = none → Visits p text advance c []
  | next {advance : Bool} {c : Cursor} {m : Found} {found : List Found} :
      p.searchFrom text advance c.offset c.before c.after = some m →
      Visits p text (m.last.offset == m.first) m.last found → Visits p text advance c (m :: found)

/-- Twice the characters left, and one more where an empty match counts: every match lowers this. -/
theorem visits_matchesFrom {fuel : Nat} (h : c.In text)
    (hfuel : 2 * c.after.length + (if advance then 0 else 1) < fuel) :
    p.Visits text advance c (p.matchesFrom text fuel advance c) := by
  induction fuel generalizing advance c with
  | zero => omega
  | succ fuel ih =>
    rw [Pattern.matchesFrom]
    split
    · rename_i hsearch
      exact .stop hsearch
    · rename_i m hsearch
      obtain ⟨hoffset, hfirst, hlast, hbeyond⟩ := behind_searchFrom h hsearch
      refine .next hsearch (ih hlast ?_)
      have hleft := h.length
      have hleft' := hlast.length
      cases advance with
      | true =>
        have hmoved := hbeyond rfl
        split <;> omega
      | false =>
        rw [if_neg Bool.false_ne_true] at hfuel
        by_cases hempty : m.last.offset = m.first
        · rw [if_pos (beq_iff_eq.mpr hempty)]
          omega
        · split <;> omega

/-- The search for all matches misses none. -/
theorem visits_findAll (p : Pattern) (text : List Char) :
    p.Visits text false (Cursor.start text) (p.findAll text) := by
  refine visits_matchesFrom (.start text) ?_
  have hafter : (Cursor.start text).after = text := rfl
  rw [hafter, if_neg Bool.false_ne_true]
  omega

end TrackerSearch.Regex
