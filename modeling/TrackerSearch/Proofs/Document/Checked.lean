import TrackerSearch.Document.Check
import TrackerSearch.Proofs.Json.Table

/-!
# Checks that succeed

What a check gives, if it gives anything, is put together from what its parts give. So a success is
taken apart by one lemma for each way of putting checks together.
-/
namespace TrackerSearch

namespace Checked

variable {α β : Type}

/-- Every value that a check lets through has a property. -/
def Holds (x : Checked α) (P : α → Prop) : Prop := ∀ a, x = .ok a → P a

theorem Holds.map {f : α → β} {x : Checked α} {P : β → Prop} (h : x.Holds fun a => P (f a)) :
    (f <$> x).Holds P := by
  intro b hb
  cases x with
  | ok a =>
    obtain rfl : f a = b := Checked.ok.inj hb
    exact h a rfl
  | bad problems => cases hb

/-- What holds whatever the last part of several is, holds of all parts together. -/
theorem Holds.seq {f : Checked (α → β)} {x : Checked α} {P : β → Prop}
    (h : f.Holds fun g => ∀ a, P (g a)) : (f <*> x).Holds P := by
  intro b hb
  cases f with
  | ok g =>
    cases x with
    | ok a =>
      obtain rfl : g a = b := Checked.ok.inj hb
      exact h g rfl a
    | bad problems => cases hb
  | bad problems => cases x <;> cases hb

theorem Holds.imp {x : Checked α} {P Q : α → Prop} (h : x.Holds P) (himp : ∀ a, P a → Q a) :
    x.Holds Q := fun a ha => himp a (h a ha)

/-- Where the last part matters, what holds of it is used for the whole. -/
theorem Holds.seqWith {f : Checked (α → β)} {x : Checked α} {P : α → Prop} {Q : β → Prop}
    (hx : x.Holds P) (hf : f.Holds fun g => ∀ a, P a → Q (g a)) : (f <*> x).Holds Q := by
  intro b hb
  cases f with
  | ok g =>
    cases x with
    | ok a =>
      obtain rfl : g a = b := Checked.ok.inj hb
      exact hf g rfl a (hx a rfl)
    | bad problems => cases hb
  | bad problems => cases x <;> cases hb

theorem holds_ok {a : α} {P : α → Prop} (h : P a) : (Checked.ok a).Holds P := by
  intro b hb
  obtain rfl := Checked.ok.inj hb
  exact h

theorem holds_bad {problems : List Mismatch} {P : α → Prop} :
    (Checked.bad problems : Checked α).Holds P := by
  intro b hb
  cases hb

theorem andThen_eq_ok {x : Checked α} {f : α → Checked β} {b : β} :
    x.andThen f = .ok b ↔ ∃ a, x = .ok a ∧ f a = .ok b := by
  cases x <;> simp [andThen]

theorem under_eq_ok {step : Step} {x : Checked α} {a : α} : x.under step = .ok a ↔ x = .ok a := by
  cases x <;> simp [under]

theorem map_eq_ok {x : Checked α} {f : α → β} {b : β} :
    x.map f = .ok b ↔ ∃ a, x = .ok a ∧ f a = b := by
  cases x <;> simp [map]

theorem seq_eq_ok {f : Checked (α → β)} {x : Checked α} {b : β} :
    f <*> x = .ok b ↔ ∃ g a, f = .ok g ∧ x = .ok a ∧ g a = b := by
  constructor
  · intro h
    cases f with
    | ok g =>
      cases x with
      | ok a => exact ⟨g, a, rfl, rfl, Checked.ok.inj h⟩
      | bad problems => cases h
    | bad problems => cases x <;> cases h
  · rintro ⟨g, a, rfl, rfl, rfl⟩
    rfl

theorem all_cons_eq_ok {x : Checked α} {xs : List (Checked α)} {as : List α} :
    all (x :: xs) = .ok as ↔ ∃ a rest, x = .ok a ∧ all xs = .ok rest ∧ as = a :: rest := by
  constructor
  · intro h
    cases x with
    | bad problems => cases hxs : all xs <;> rw [all, hxs] at h <;> cases h
    | ok a =>
      cases hxs : all xs with
      | bad problems => rw [all, hxs] at h; cases h
      | ok rest =>
        rw [all, hxs] at h
        exact ⟨a, rest, rfl, rfl, (Checked.ok.inj h).symm⟩
  · rintro ⟨a, rest, rfl, hxs, rfl⟩
    rw [all, hxs]
    rfl

theorem toExcept_eq_ok {x : Checked α} {a : α} : x.toExcept = .ok a ↔ x = .ok a := by
  cases x <;> simp [toExcept]

end Checked

namespace Document

theorem required_eq_ok {α : Type} {entries : List (Document × Document)} {written plain : String}
    {check : Document → Checked α} {a : α} :
    required entries written plain check = .ok a ↔
      ∃ d, fieldValue? entries written plain = some d ∧ check d = .ok a := by
  unfold required
  split
  · rename_i h
    simp [h, Checked.under_eq_ok]
  · rename_i h
    simp [h, Checked.under_eq_ok, Checked.mismatch]

theorem fieldValue?_self (entries : List (Document × Document)) (key : String) :
    fieldValue? entries key key = find? entries key := by
  unfold fieldValue?
  cases find? entries key <;> rfl

/-- The text that stands in a document at the end of a path of keys. -/
def textAt? : List String → Document → Option String
  | [], d =>
    match d.asString with
    | .ok s => some s
    | .bad _ => none
  | key :: keys, .map entries => (find? entries key).bind (textAt? keys)
  | _ :: _, _ => none

/-! ## What holds of checked documents -/

section Holds

variable {α : Type} {entries : List (Document × Document)} {written plain : String} {default : α}
  {check : Document → Checked α} {P : α → Prop}

theorem holds_asRecord {kind : String} {read : List (Document × Document) → Checked α}
    {d : Document} (h : ∀ entries, d = .map entries → (read entries).Holds P) :
    (asRecord kind read d).Holds P := by
  cases d with
  | map entries => exact h entries rfl
  | _ => exact Checked.holds_bad

theorem holds_required
    (h : ∀ d, fieldValue? entries written plain = some d → (check d).Holds P) :
    (required entries written plain check).Holds P := by
  intro a ha
  obtain ⟨d, hd, hcheck⟩ := required_eq_ok.mp ha
  exact h d hd a hcheck

theorem holds_orElse (hnone : fieldValue? entries written plain = none → P default)
    (hsome : ∀ d, fieldValue? entries written plain = some d → (check d).Holds P) :
    (orElse entries written plain default check).Holds P := by
  unfold orElse
  split
  · rename_i d hd
    exact fun a ha => hsome d hd a (Checked.under_eq_ok.mp ha)
  · rename_i hd
    exact Checked.holds_ok (hnone hd)

theorem holds_nullable {P : Option α → Prop} {d : Document} (hnone : d = .null → P none)
    (hsome : (check d).Holds fun a => P (some a)) : (nullable check d).Holds P := by
  cases d with
  | null => exact Checked.holds_ok (hnone rfl)
  | _ =>
    intro b hb
    obtain ⟨a, ha, rfl⟩ := Checked.map_eq_ok.mp hb
    exact hsome a ha

theorem holds_checkItems (h : ∀ d, (check d).Holds P) (items : List Document) (n : Nat) :
    (checkItems check n items).Holds fun as => ∀ a ∈ as, P a := by
  induction items generalizing n with
  | nil => exact Checked.holds_ok (by simp)
  | cons d items ih =>
    refine (ih (n + 1)).seqWith (.map fun a ha as has => ?_)
    exact List.forall_mem_cons.mpr ⟨h d a (Checked.under_eq_ok.mp ha), has⟩

theorem holds_asList (h : ∀ d, (check d).Holds P) (d : Document) :
    (asList check d).Holds fun as => ∀ a ∈ as, P a := by
  cases d with
  | list items => exact holds_checkItems h items 0
  | set items => exact holds_checkItems h items 0
  | _ => exact Checked.holds_bad

theorem holds_checkEntries (h : ∀ d, (check d).Holds P) (entries : List (Document × Document)) :
    (checkEntries check entries).Holds fun table => ∀ entry ∈ table, P entry.2 := by
  induction entries with
  | nil => exact Checked.holds_ok (by simp)
  | cons entry entries ih =>
    have hvalue : ((check entry.2).under (stepOf entry.1)).Holds P := fun a ha =>
      h entry.2 a (Checked.under_eq_ok.mp ha)
    have hentry : (Prod.mk <$> (entry.1.asString.under (.key "[key]")).under (stepOf entry.1) <*>
        (check entry.2).under (stepOf entry.1)).Holds fun entry => P entry.2 :=
      hvalue.seqWith (.map fun key _ a ha => ha)
    refine ih.seqWith (.map fun entry' hread table htable => ?_)
    exact List.forall_mem_cons.mpr ⟨hentry entry' hread, htable⟩

theorem holds_asTable (h : ∀ d, (check d).Holds P) (d : Document) :
    (asTable check d).Holds fun table => ∀ entry ∈ table, P entry.2 := by
  cases d with
  | map entries =>
    intro table htable
    obtain ⟨table', htable', rfl⟩ := Checked.map_eq_ok.mp htable
    exact fun entry hentry =>
      holds_checkEntries h entries table' htable' entry (mem_of_mem_tableOf hentry)
  | _ => exact Checked.holds_bad

end Holds

end Document

end TrackerSearch
