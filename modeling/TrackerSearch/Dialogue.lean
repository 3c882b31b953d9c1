import TrackerSearch.Trace

/-!
# Dialogues

A dialogue is a computation that puts questions to a world and goes on with the answers. The world
answers a question on the strength of all questions before it; where it stays silent, the dialogue
waits forever. What was asked and reported on the way is kept, however the dialogue ends.
-/
namespace TrackerSearch

/-- A world: the answer to a question after the questions before it, the first one first; `none` is
silence. -/
abbrev World (Q A : Type) := List Q → Q → Option A

/-- How a computation ends. -/
inductive Ending (ε α : Type) where
  | done (a : α)
  | failed (e : ε)
  | waiting
  deriving Repr

/-- A computation at its end: how it ended, what it reported and what it asked. -/
structure Talk (Q ε α : Type) where
  ending : Ending ε α
  events : List Event := []
  asked : List Q := []

/-- A computation in a world, after the questions that were asked before. -/
def Dialogue (Q A ε α : Type) : Type := World Q A → List Q → Talk Q ε α

namespace Dialogue

variable {Q A ε ε' α β : Type}

instance : Monad (Dialogue Q A ε) where
  pure a := fun _ _ => ⟨.done a, [], []⟩
  bind x f := fun world past =>
    let first := x world past
    match first.ending with
    | .failed e => ⟨.failed e, first.events, first.asked⟩
    | .waiting => ⟨.waiting, first.events, first.asked⟩
    | .done a =>
      let second := f a world (past ++ first.asked)
      ⟨second.ending, first.events ++ second.events, first.asked ++ second.asked⟩

/-- End with a failure. -/
def fail (e : ε) : Dialogue Q A ε α := fun _ _ => ⟨.failed e, [], []⟩

/-- Wait forever. -/
def waitForever : Dialogue Q A ε α := fun _ _ => ⟨.waiting, [], []⟩

/-- Report an event. -/
def report (e : Event) : Dialogue Q A ε Unit := fun _ _ => ⟨.done (), [e], []⟩

/-- Ask a question. -/
def ask (q : Q) : Dialogue Q A ε A := fun world past =>
  match world past q with
  | some a => ⟨.done a, [], [q]⟩
  | none => ⟨.waiting, [], [q]⟩

/-- A computation that asks nothing. -/
def ofTraced (t : Traced ε α) : Dialogue Q A ε α := fun _ _ =>
  match t.outcome with
  | .ok a => ⟨.done a, t.events, []⟩
  | .error e => ⟨.failed e, t.events, []⟩

def ofExcept (r : Except ε α) : Dialogue Q A ε α := ofTraced (Traced.ofExcept r)

/-- The ending as a value; this neither fails nor waits. -/
def attempt (x : Dialogue Q A ε α) : Dialogue Q A ε' (Ending ε α) := fun world past =>
  let talk := x world past
  ⟨.done talk.ending, talk.events, talk.asked⟩

/-- Go on after a failure; waiting stays waiting. -/
def orElse (x : Dialogue Q A ε α) (handle : ε → Dialogue Q A ε' α) : Dialogue Q A ε' α := do
  match ← x.attempt with
  | .done a => pure a
  | .failed e => handle e
  | .waiting => waitForever

/-- Rename the failures. -/
def mapError (f : ε → ε') (x : Dialogue Q A ε α) : Dialogue Q A ε' α := x.orElse fun e => fail (f e)

/-- Run a computation from the start. -/
def run (x : Dialogue Q A ε α) (world : World Q A) : Talk Q ε α := x world []

section Lemmas

variable {x : Dialogue Q A ε α} {f : α → Dialogue Q A ε β} {world : World Q A} {past : List Q}

@[simp] theorem pure_apply (a : α) (world : World Q A) (past : List Q) :
    (pure a : Dialogue Q A ε α) world past = ⟨.done a, [], []⟩ := rfl

@[simp] theorem attempt_apply (x : Dialogue Q A ε α) (world : World Q A) (past : List Q) :
    (x.attempt : Dialogue Q A ε' (Ending ε α)) world past =
      ⟨.done (x world past).ending, (x world past).events, (x world past).asked⟩ := rfl

theorem bind_of_done {a : α} (h : (x world past).ending = .done a) :
    (x >>= f) world past =
      let rest := f a world (past ++ (x world past).asked)
      ⟨rest.ending, (x world past).events ++ rest.events, (x world past).asked ++ rest.asked⟩ := by
  simp only [bind, h]

theorem bind_of_failed {e : ε} (h : (x world past).ending = .failed e) :
    (x >>= f) world past = ⟨.failed e, (x world past).events, (x world past).asked⟩ := by
  simp only [bind, h]

theorem bind_of_waiting (h : (x world past).ending = .waiting) :
    (x >>= f) world past = ⟨.waiting, (x world past).events, (x world past).asked⟩ := by
  simp only [bind, h]

/-- What is done in the end has been done on the way. -/
theorem ending_bind_eq_done {b : β} :
    ((x >>= f) world past).ending = .done b ↔ ∃ a, (x world past).ending = .done a ∧
      (f a world (past ++ (x world past).asked)).ending = .done b := by
  cases h : (x world past).ending with
  | done a => simp [bind_of_done h]
  | failed e => simp [bind_of_failed h]
  | waiting => simp [bind_of_waiting h]

/-- A failure in the end comes from one of the two parts. -/
theorem ending_bind_eq_failed {e : ε} :
    ((x >>= f) world past).ending = .failed e ↔ (x world past).ending = .failed e ∨
      ∃ a, (x world past).ending = .done a ∧
        (f a world (past ++ (x world past).asked)).ending = .failed e := by
  cases h : (x world past).ending with
  | done a => simp [bind_of_done h]
  | failed e => simp [bind_of_failed h]
  | waiting => simp [bind_of_waiting h]

theorem ending_attempt_bind (x : Dialogue Q A ε α) (f : Ending ε α → Dialogue Q A ε' β)
    (world : World Q A) (past : List Q) :
    ((x.attempt >>= f) world past).ending =
      (f (x world past).ending world (past ++ (x world past).asked)).ending := rfl

theorem ofExcept_ok_bind (a : α) (f : α → Dialogue Q A ε β) :
    ((ofExcept (.ok a) : Dialogue Q A ε α) >>= f) = f a := by
  funext world past
  simp [bind, ofExcept, ofTraced, Traced.ofExcept]

theorem ending_ofTraced_eq_done {t : Traced ε α} {a : α} :
    ((ofTraced t : Dialogue Q A ε α) world past).ending = .done a ↔ t.outcome = .ok a := by
  unfold ofTraced
  cases t.outcome <;> simp

end Lemmas

end Dialogue
end TrackerSearch
