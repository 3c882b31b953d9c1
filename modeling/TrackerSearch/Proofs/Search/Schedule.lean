import TrackerSearch.Search.FanOut

/-!
# Schedules of a fan-out

A schedule is any order of begins and ends of searches that the free places allow. `answer` says
how each search counts when it ends, if it ends at all. Whatever the order, the slots are a function
of the moves made so far (`Reached.slots_eq`), and the searches that go on never take more than the
places there are (`Reached.places_eq`). Nothing is said about which of the possible moves comes
next.
-/
namespace TrackerSearch.Search

/-- What can happen next in a fan-out. -/
inductive Move where
  | start (i : Nat)
  | finish (i : Nat)
  deriving Repr, DecidableEq

namespace FanOut

variable {answer : Nat → Option Answer} {places n : Nat} {past moves : List Move} {f g : FanOut}

/-- Make a move, if it is possible. -/
def move? (answer : Nat → Option Answer) (f : FanOut) : Move → Option FanOut
  | .start i => f.start? i
  | .finish i => (answer i).bind (f.finish? i)

/-- Make moves in order, if all of them are possible. -/
def run? (answer : Nat → Option Answer) (f : FanOut) : List Move → Option FanOut
  | [] => some f
  | m :: moves => (f.move? answer m).bind fun g => g.run? answer moves

theorem run?_append (f : FanOut) (moves more : List Move) :
    f.run? answer (moves ++ more) = (f.run? answer moves).bind (·.run? answer more) := by
  induction moves generalizing f with
  | nil => rfl
  | cons m moves ih =>
    simp only [List.cons_append, run?]
    cases f.move? answer m with
    | none => rfl
    | some g => exact ih g

theorem start?_eq_some {i : Nat} :
    f.start? i = some g ↔ 0 < f.free ∧ f.slots[i]? = some .waiting ∧
      g = ⟨f.free - 1, f.slots.set i .searching⟩ := by
  unfold start?
  split
  · rename_i h
    simp only [Option.some.injEq, h, true_and]
    exact eq_comm
  · rename_i h
    simp only [reduceCtorEq, false_iff]
    exact fun hg => h ⟨hg.1, hg.2.1⟩

theorem finish?_eq_some {i : Nat} {a : Answer} :
    f.finish? i a = some g ↔ f.slots[i]? = some .searching ∧
      g = ⟨f.free + 1, f.slots.set i (.ended a)⟩ := by
  unfold finish?
  split
  · rename_i h
    simp only [Option.some.injEq, h, true_and]
    exact eq_comm
  · rename_i h
    simp only [reduceCtorEq, false_iff]
    exact fun hg => h hg.1

/-- What is in slot `i` after some moves. -/
def slotAfter (answer : Nat → Option Answer) (past : List Move) (i : Nat) : Slot :=
  if .finish i ∈ past then .ended ((answer i).getD .nothing)
  else if .start i ∈ past then .searching
  else .waiting

/-- The state of a fan-out of `n` searches after some moves from the start. -/
structure Reached (answer : Nat → Option Answer) (places n : Nat) (past : List Move)
    (f : FanOut) : Prop where
  slots_eq : f.slots = (List.range n).map (slotAfter answer past)
  places_eq : f.free + f.slots.count .searching = places
  begun : ∀ i, .start i ∈ past → i < n
  ended : ∀ i, .finish i ∈ past → .start i ∈ past ∧ (answer i).isSome
  nodup : past.Nodup

theorem reached_initial (answer : Nat → Option Answer) (places n : Nat) :
    Reached answer places n [] (.initial places n) := by
  constructor
  · have h : slotAfter answer [] = fun _ => .waiting := by funext i; simp [slotAfter]
    simp [initial, h, List.map_const']
  · simp [initial, List.count_replicate]
  · intro i hi; simp at hi
  · intro i hi; simp at hi
  · exact .nil

/-- Changing a function at one argument changes its values in one place. -/
private theorem set_map_range {before after : Nat → Slot} {i : Nat}
    (h : ∀ j, j ≠ i → after j = before j) :
    ((List.range n).map before).set i (after i) = (List.range n).map after := by
  apply List.ext_getElem
  · simp
  · intro j hj hj'
    rw [List.getElem_set]
    split
    · rename_i he; simp [he]
    · rename_i he; simp [h j (Ne.symm he)]

theorem count_set {slots : List Slot} {i : Nat} {old : Slot} (new : Slot)
    (h : slots[i]? = some old) :
    (slots.set i new).count .searching + (if old = .searching then 1 else 0) =
      slots.count .searching + (if new = .searching then 1 else 0) := by
  obtain ⟨hi, rfl⟩ := List.getElem?_eq_some_iff.mp h
  have hpos : slots[i] = .searching → 0 < slots.count .searching := fun he =>
    List.count_pos_iff.mpr (he ▸ List.getElem_mem hi)
  rw [List.count_set hi]
  simp only [beq_iff_eq]
  split <;> rename_i he
  · have := hpos he; omega
  · omega

namespace Reached

theorem slot_eq (hf : Reached answer places n past f) (i : Nat) :
    f.slots[i]? = if i < n then some (slotAfter answer past i) else none := by
  rw [hf.slots_eq, List.getElem?_map]
  split
  · rename_i h; rw [List.getElem?_range h]; rfl
  · rename_i h; rw [List.getElem?_eq_none (by simpa using h)]; rfl

theorem length_eq (hf : Reached answer places n past f) : f.slots.length = n := by
  simp [hf.slots_eq]

theorem waiting_iff (hf : Reached answer places n past f) {i : Nat} :
    f.slots[i]? = some .waiting ↔ i < n ∧ .start i ∉ past := by
  have he := hf.ended i
  rw [hf.slot_eq]
  unfold slotAfter
  grind

theorem searching_iff (hf : Reached answer places n past f) {i : Nat} :
    f.slots[i]? = some .searching ↔ .start i ∈ past ∧ .finish i ∉ past := by
  have hb := hf.begun i
  rw [hf.slot_eq]
  unfold slotAfter
  grind

theorem start (hf : Reached answer places n past f) {i : Nat} (h : f.start? i = some g) :
    Reached answer places n (past ++ [.start i]) g := by
  obtain ⟨hfree, hw, rfl⟩ := start?_eq_some.mp h
  obtain ⟨hi, hm⟩ := hf.waiting_iff.mp hw
  have hn : .finish i ∉ past := fun he => hm (hf.ended i he).1
  have hafter : ∀ j, j ≠ i →
      slotAfter answer (past ++ [.start i]) j = slotAfter answer past j := by
    intro j hj
    simp [slotAfter, hj]
  constructor
  · have hs : slotAfter answer (past ++ [.start i]) i = .searching := by simp [slotAfter, hn]
    rw [← set_map_range hafter, hs, hf.slots_eq]
  · have hc := count_set .searching hw
    have hp := hf.places_eq
    simp only [reduceCtorEq, if_false, if_true] at hc
    show f.free - 1 + (f.slots.set i .searching).count .searching = places
    omega
  · intro j hj
    rcases List.mem_append.mp hj with hj | hj
    · exact hf.begun j hj
    · simp only [List.mem_singleton, Move.start.injEq] at hj; omega
  · intro j hj
    simp only [List.mem_append, List.mem_singleton, reduceCtorEq, or_false] at hj
    obtain ⟨hs, ha⟩ := hf.ended j hj
    exact ⟨List.mem_append_left _ hs, ha⟩
  · exact List.nodup_append.mpr ⟨hf.nodup, by simp, by rintro m hm' _ h' rfl; simp_all⟩

theorem finish (hf : Reached answer places n past f) {i : Nat} {a : Answer}
    (ha : answer i = some a) (h : f.finish? i a = some g) :
    Reached answer places n (past ++ [.finish i]) g := by
  obtain ⟨hw, rfl⟩ := finish?_eq_some.mp h
  obtain ⟨hs, hm⟩ := hf.searching_iff.mp hw
  have hafter : ∀ j, j ≠ i →
      slotAfter answer (past ++ [.finish i]) j = slotAfter answer past j := by
    intro j hj
    simp [slotAfter, hj]
  constructor
  · have hs : slotAfter answer (past ++ [.finish i]) i = .ended a := by simp [slotAfter, ha]
    rw [← set_map_range hafter, hs, hf.slots_eq]
  · have hc := count_set (.ended a) hw
    have hp := hf.places_eq
    simp only [reduceCtorEq, if_false, if_true] at hc
    show f.free + 1 + (f.slots.set i (.ended a)).count .searching = places
    omega
  · intro j hj
    simp only [List.mem_append, List.mem_singleton, reduceCtorEq, or_false] at hj
    exact hf.begun j hj
  · intro j hj
    rcases List.mem_append.mp hj with hj | hj
    · obtain ⟨hs, ha⟩ := hf.ended j hj
      exact ⟨List.mem_append_left _ hs, ha⟩
    · simp only [List.mem_singleton, Move.finish.injEq] at hj
      subst hj
      exact ⟨List.mem_append_left _ hs, by simp [ha]⟩
  · exact List.nodup_append.mpr ⟨hf.nodup, by simp, by rintro m hm' _ h' rfl; simp_all⟩

/-- One move leads from what is reached to what is reached. -/
theorem move (hf : Reached answer places n past f) {m : Move} (h : f.move? answer m = some g) :
    Reached answer places n (past ++ [m]) g := by
  cases m with
  | start i => exact hf.start h
  | finish i =>
    obtain ⟨a, ha, hg⟩ := Option.bind_eq_some_iff.mp h
    exact hf.finish ha hg

theorem run (hf : Reached answer places n past f) (h : f.run? answer moves = some g) :
    Reached answer places n (past ++ moves) g := by
  induction moves generalizing past f with
  | nil =>
    obtain rfl := Option.some.inj h
    simpa using hf
  | cons m moves ih =>
    obtain ⟨f', hm, hr⟩ := Option.bind_eq_some_iff.mp h
    simpa using ih (hf.move hm) hr

end Reached

/-- Every state that a schedule leads to is determined by the moves. -/
theorem reached_of_run (h : (initial places n).run? answer moves = some f) :
    Reached answer places n moves f := by
  simpa using (reached_initial answer places n).run h

namespace Reached

theorem isOpen_eq_false_iff (hf : Reached answer places n past f) :
    f.isOpen = false ↔ ∀ i, i < n → .finish i ∈ past := by
  have hslot : ∀ i, (slotAfter answer past i).isOpen = false ↔ .finish i ∈ past := by
    intro i
    unfold slotAfter
    split
    · rename_i h; simp [h, Slot.isOpen]
    · rename_i h; split <;> simp [h, Slot.isOpen]
  simp [isOpen, hf.slots_eq, hslot]

/-- A search begins at most once and ends at most once. -/
theorem length_le (hf : Reached answer places n past f) : past.length ≤ 2 * n := by
  have hsub : past ⊆ (List.range n).map Move.start ++ (List.range n).map Move.finish := by
    intro m hm
    cases m with
    | start i => simpa using hf.begun i hm
    | finish i => simpa using hf.begun i (hf.ended i hm).1
  have hl := List.Nodup.length_le_of_subset hf.nodup hsub
  simp only [List.length_append, List.length_map, List.length_range] at hl
  omega

/-- Where nothing can happen any more, the searches that go on are some of those that never end. -/
theorem searching_le (hf : Reached answer places n past f)
    (hstuck : ∀ m, f.move? answer m = none) :
    f.slots.count .searching ≤ (List.range n).countP fun i => (answer i).isNone := by
  rw [hf.slots_eq, List.count_eq_countP, List.countP_map]
  apply List.countP_mono_left
  intro i hi hs
  have hsl : f.slots[i]? = some .searching := by
    rw [hf.slot_eq, if_pos (List.mem_range.mp hi)]
    simpa using hs
  cases ha : answer i with
  | none => rfl
  | some a =>
    have hm := hstuck (.finish i)
    simp [move?, ha, finish?, hsl] at hm

/-- Where nothing can happen any more, no search waits while some place is not kept by a search that
never ends. -/
theorem not_waiting_of_stuck (hf : Reached answer places n past f)
    (hstuck : ∀ m, f.move? answer m = none)
    (hfree : ((List.range n).countP fun i => (answer i).isNone) < places) (i : Nat) :
    f.slots[i]? ≠ some .waiting := by
  intro hwaiting
  have hle := hf.searching_le hstuck
  have hplaces := hf.places_eq
  have hpos : 0 < f.free := by omega
  have hstart := hstuck (.start i)
  simp [move?, start?, hpos, hwaiting] at hstart

/-- No search waits in vain: while some place is not kept by a search that never ends, a schedule
can go on until every search that ends has ended. -/
theorem finished_of_stuck (hf : Reached answer places n past f)
    (hstuck : ∀ m, f.move? answer m = none)
    (hfree : ((List.range n).countP fun i => (answer i).isNone) < places) {i : Nat} (hi : i < n)
    (ha : (answer i).isSome) : .finish i ∈ past := by
  have hbegun : .start i ∈ past := Decidable.byContradiction fun hm =>
    hf.not_waiting_of_stuck hstuck hfree i (hf.waiting_iff.mpr ⟨hi, hm⟩)
  by_cases hm : .finish i ∈ past
  · exact hm
  · obtain ⟨a, ha⟩ := Option.isSome_iff_exists.mp ha
    have hs := hstuck (.finish i)
    simp [move?, ha, finish?, hf.searching_iff.mpr ⟨hbegun, hm⟩] at hs

end Reached

end FanOut

end TrackerSearch.Search
