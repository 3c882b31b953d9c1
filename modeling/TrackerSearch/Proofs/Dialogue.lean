import TrackerSearch.Dialogue

/-!
# Questions and waiting

What a computation asks only grows while it goes on, and so the first question of a part is the
first one of the whole. Computations that are put together from questions, reports and results do
not wait in a world that answers every question; if its answers do not depend on the questions
before, neither do the computations.
-/
namespace TrackerSearch

deriving instance DecidableEq for Ending

/-- An ending with another name for its failure. -/
def Ending.mapError {ε ε' α : Type} (g : ε → ε') : Ending ε α → Ending ε' α
  | .done a => .done a
  | .failed e => .failed (g e)
  | .waiting => .waiting

/-- An ending with another result. -/
def Ending.map {ε α β : Type} (g : α → β) : Ending ε α → Ending ε β
  | .done a => .done (g a)
  | .failed e => .failed e
  | .waiting => .waiting

namespace Dialogue

variable {Q A ε ε' α β : Type} {x : Dialogue Q A ε α} {f : α → Dialogue Q A ε β}
  {world : World Q A} {past : List Q}

theorem bind_assoc {γ : Type} (x : Dialogue Q A ε α) (f : α → Dialogue Q A ε β)
    (g : β → Dialogue Q A ε γ) : x >>= f >>= g = x >>= fun a => f a >>= g := by
  funext world past
  cases hx : (x world past).ending with
  | done a =>
    rw [bind_of_done hx]
    cases hf : (f a world (past ++ (x world past).asked)).ending with
    | done b =>
      have hxf : ((x >>= f) world past).ending = .done b := by rw [bind_of_done hx, ← hf]
      rw [bind_of_done hxf, bind_of_done hf, bind_of_done hx]
      simp only [List.append_assoc]
    | failed e =>
      have hxf : ((x >>= f) world past).ending = .failed e := by rw [bind_of_done hx, ← hf]
      rw [bind_of_failed hxf, bind_of_failed hf, bind_of_done hx]
    | waiting =>
      have hxf : ((x >>= f) world past).ending = .waiting := by rw [bind_of_done hx, ← hf]
      rw [bind_of_waiting hxf, bind_of_waiting hf, bind_of_done hx]
  | failed e =>
    have hxf : ((x >>= f) world past).ending = .failed e := by rw [bind_of_failed hx]
    rw [bind_of_failed hxf, bind_of_failed hx, bind_of_failed hx]
  | waiting =>
    have hxf : ((x >>= f) world past).ending = .waiting := by rw [bind_of_waiting hx]
    rw [bind_of_waiting hxf, bind_of_waiting hx, bind_of_waiting hx]

/-- A computation goes on asking after its first part. -/
theorem asked_bind_of_done {a : α} (h : (x world past).ending = .done a) :
    ((x >>= f) world past).asked =
      (x world past).asked ++ (f a world (past ++ (x world past).asked)).asked := by
  rw [bind_of_done h]

/-- A second part that asks nothing leaves the questions as they are. -/
theorem asked_bind_of_silent (h : ∀ a past, (f a world past).asked = []) :
    ((x >>= f) world past).asked = (x world past).asked := by
  cases hx : (x world past).ending with
  | done a => rw [asked_bind_of_done hx, h, List.append_nil]
  | failed e => rw [bind_of_failed hx]
  | waiting => rw [bind_of_waiting hx]

/-- What is asked first stays first. -/
theorem head?_asked_bind {q : Q} (h : (x world past).asked.head? = some q) :
    ((x >>= f) world past).asked.head? = some q := by
  cases hx : (x world past).ending with
  | done a =>
    rw [asked_bind_of_done hx]
    cases hq : (x world past).asked with
    | nil =>
      rw [hq] at h
      cases h
    | cons q' rest =>
      rw [hq] at h
      exact h
  | failed e =>
    rw [bind_of_failed hx]
    exact h
  | waiting =>
    rw [bind_of_waiting hx]
    exact h

theorem head?_asked_ask (q : Q) :
    ((ask q : Dialogue Q A ε A) world past).asked.head? = some q := by
  unfold ask
  cases world past q <;> rfl

theorem ending_ofTraced_eq_failed {t : Traced ε α} {e : ε} :
    ((ofTraced t : Dialogue Q A ε α) world past).ending = .failed e ↔ t.outcome = .error e := by
  unfold ofTraced
  cases t.outcome <;> simp

theorem asked_ofTraced (t : Traced ε α) :
    ((ofTraced t : Dialogue Q A ε α) world past).asked = [] := by
  unfold ofTraced
  cases t.outcome <;> rfl

/-! ## Computations and worlds -/

/-- Every question is answered, whatever was asked before. -/
def Answers (world : World Q A) : Prop := ∀ past q, world past q ≠ none

/-- No answer depends on what was asked before. -/
def Forgetful (world : World Q A) : Prop := ∀ past past' q, world past q = world past' q

/-- A computation that is put together from results, failures, reports and questions. Only where a
part can still be waiting may the whole wait on its own account. -/
inductive Built {Q A : Type} : {ε α : Type} → Dialogue Q A ε α → Prop where
  | pure {ε α : Type} (a : α) : Built (Pure.pure a : Dialogue Q A ε α)
  | fail {ε α : Type} (e : ε) : Built (fail e : Dialogue Q A ε α)
  | report {ε : Type} (e : Event) : Built (report e : Dialogue Q A ε Unit)
  | ofTraced {ε α : Type} (t : Traced ε α) : Built (ofTraced t : Dialogue Q A ε α)
  | ask {ε : Type} (q : Q) : Built (ask q : Dialogue Q A ε A)
  | bind {ε α β : Type} {x : Dialogue Q A ε α} {f : α → Dialogue Q A ε β} :
      Built x → (∀ a, Built (f a)) → Built (x >>= f)
  | attempt {ε ε' α β : Type} {x : Dialogue Q A ε α} {g : Ending ε α → Dialogue Q A ε' β} :
      Built x → (∀ ending, ending ≠ .waiting → Built (g ending)) → Built (x.attempt >>= g)

/-- Where all questions are answered nobody waits. -/
theorem Built.ending_ne (h : Answers world) (hx : x.Built) (past : List Q) :
    (x world past).ending ≠ .waiting := by
  induction hx generalizing past with
  | pure a =>
    intro hw
    cases hw
  | fail e =>
    intro hw
    cases hw
  | report e =>
    intro hw
    cases hw
  | ofTraced t =>
    intro hw
    unfold Dialogue.ofTraced at hw
    cases ht : t.outcome with
    | ok a =>
      rw [ht] at hw
      cases hw
    | error e =>
      rw [ht] at hw
      cases hw
  | ask q =>
    intro hw
    unfold Dialogue.ask at hw
    cases ha : world past q with
    | none => exact h past q ha
    | some a =>
      rw [ha] at hw
      cases hw
  | @bind ε α β x f _ _ ihx ihf =>
    cases hend : (x world past).ending with
    | done a =>
      rw [bind_of_done hend]
      exact ihf a _
    | failed e =>
      rw [bind_of_failed hend]
      intro hw
      cases hw
    | waiting => exact absurd hend (ihx past)
  | attempt _ _ ihx ihg =>
    rw [ending_attempt_bind]
    exact ihg _ (ihx past) _

/-- In a forgetful world that answers all questions, it makes no difference when a computation
begins. -/
theorem Built.eq_of_forgetful (h : Answers world) (hf : Forgetful world) (hx : x.Built)
    (past past' : List Q) : x world past = x world past' := by
  induction hx generalizing past past' with
  | pure a => rfl
  | fail e => rfl
  | report e => rfl
  | ofTraced t => rfl
  | ask q =>
    unfold Dialogue.ask
    rw [hf past past' q]
  | @bind ε α β x f _ _ ihx ihf =>
    have hfirst := ihx past past'
    cases hend : (x world past').ending with
    | done a =>
      rw [bind_of_done (hfirst ▸ hend), bind_of_done hend, hfirst,
        ihf a (past ++ (x world past').asked) (past' ++ (x world past').asked)]
    | failed e => rw [bind_of_failed (hfirst ▸ hend), bind_of_failed hend, hfirst]
    | waiting => rw [bind_of_waiting (hfirst ▸ hend), bind_of_waiting hend, hfirst]
  | @attempt ε ε' α β x g hx _ ihx ihg =>
    have hfirst := ihx past past'
    have hne := hx.ending_ne h past'
    have hdone : ∀ past, ((x.attempt : Dialogue Q A ε' (Ending ε α)) world past).ending =
        .done (x world past).ending := fun _ => rfl
    rw [bind_of_done (hdone past), bind_of_done (hdone past'), attempt_apply, attempt_apply, hfirst,
      ihg _ hne (past ++ (x world past').asked) (past' ++ (x world past').asked)]

end Dialogue

end TrackerSearch
