import TrackerSearch.Proofs.Document.Entries
import TrackerSearch.Trace
import TrackerSearch.Yaml.Read

/-!
# Mappings in a document

The entries of a mapping are laid over those before them, so that no key of a mapping that is read
is there twice, and the same holds of the mappings that are its values.
-/
namespace TrackerSearch.Yaml

open Document

variable {d : Document} {text : String}

/-! ## Scalars -/

/-- What a computation gives, if it gives anything, has a property. -/
def Gives {ε α : Type} (P : α → Prop) (x : Except ε α) : Prop := ∀ a, x = .ok a → P a

theorem Gives.ok {ε α : Type} {P : α → Prop} {a : α} (h : P a) :
    Gives P (.ok a : Except ε α) := by
  rintro a' ha
  exact Except.ok.inj ha ▸ h

theorem Gives.error {ε α : Type} {P : α → Prop} (e : ε) : Gives P (.error e : Except ε α) := by
  rintro a ha
  cases ha

theorem Gives.bind {ε α β : Type} {P : β → Prop} {x : Except ε α} {f : α → Except ε β}
    (h : ∀ a, Gives P (f a)) : Gives P (x >>= f) := by
  intro b hb
  obtain ⟨a, -, hb⟩ := except_bind_eq_ok.mp hb
  exact h a b hb

theorem gives_intValue (text : String) : Gives (fun d => ∃ n, d = .int n) (intValue text) := by
  unfold intValue
  dsimp only
  split
  all_goals
    refine .bind fun p => ?_
    split
    all_goals first
      | exact .bind fun n => .ok ⟨_, rfl⟩
      | split <;> exact .bind fun n => .ok ⟨_, rfl⟩

theorem gives_floatValue (text : String) : Gives (fun d => ∃ x, d = .float x) (floatValue text) := by
  unfold floatValue
  dsimp only
  split
  all_goals
    refine .bind fun p => ?_
    repeat' split
    all_goals first
      | exact .ok ⟨_, rfl⟩
      | exact .error _

theorem gives_momentValue (text : String) :
    Gives (fun d => (∃ year month day, d = .date year month day) ∨ ∃ t, d = .moment t)
      (momentValue text) := by
  unfold momentValue
  split
  · exact .error _
  · dsimp only
    repeat' split
    all_goals first
      | exact .ok (.inl ⟨_, _, _, rfl⟩)
      | exact .ok (.inr ⟨_, rfl⟩)
      | exact .error _

theorem Gives.mapError {ε ε' α : Type} {P : α → Prop} {x : Except ε α} (h : Gives P x)
    (f : ε → ε') : Gives P (x.mapError f) := by
  intro a ha
  cases x with
  | error e => cases ha
  | ok a' => exact Except.ok.inj ha ▸ h a' rfl

/-- No scalar is a mapping. -/
theorem gives_scalarValue (tag : Tag) (text : String) :
    Gives (fun d => ∀ entries, d ≠ .map entries) (scalarValue tag text) := by
  intro d hd entries
  rintro rfl
  cases tag with
  | bool =>
    simp only [scalarValue] at hd
    split at hd <;> cases hd
  | int =>
    obtain ⟨_, h⟩ := (gives_intValue text).mapError _ _ hd
    cases h
  | float =>
    obtain ⟨_, h⟩ := (gives_floatValue text).mapError _ _ hd
    cases h
  | timestamp =>
    obtain ⟨_, _, _, h⟩ | ⟨_, h⟩ := (gives_momentValue text).mapError _ _ hd <;> cases h
  | binary =>
    simp only [scalarValue, binaryValue] at hd
    split at hd
    · cases hd
    · split at hd <;> cases hd
  | _ => cases hd

/-! ## Mappings -/

/-- Entries that are laid over others keep all keys distinct, and their values are read as well. -/
theorem entriesOf_eq_ok {fuel : Nat} {nodes : List (Node × Node)}
    {before entries : List (Document × Document)}
    (h : entriesOf fuel nodes before = .ok entries) (hbefore : Distinct before) :
    Distinct entries ∧
      ∀ entry ∈ entries, entry ∈ before ∨ ∃ fuel n, valueOf fuel n = .ok entry.2 := by
  induction nodes generalizing fuel before with
  | nil =>
    obtain rfl : before = entries := by
      cases fuel <;> exact Except.ok.inj h
    exact ⟨hbefore, fun entry hentry => .inl hentry⟩
  | cons node nodes ih =>
    obtain ⟨k, v⟩ := node
    cases fuel with
    | zero => cases h
    | succ fuel =>
      rw [entriesOf] at h
      obtain ⟨key, -, h⟩ := except_bind_eq_ok.mp h
      split at h
      · obtain ⟨value, hvalue, h⟩ := except_bind_eq_ok.mp h
        obtain ⟨hdistinct, hmem⟩ := ih h (distinct_insert hbefore key value)
        refine ⟨hdistinct, fun entry hentry => ?_⟩
        rcases hmem entry hentry with hmem | hread
        · rcases mem_insert hmem with hmem | rfl
          · exact .inl hmem
          · exact .inr ⟨fuel, v, hvalue⟩
        · exact .inr hread
      · cases h

/-- A mapping that is read has distinct keys, and its values are read as well. -/
theorem valueOf_eq_map {fuel : Nat} {n : Node} {entries : List (Document × Document)}
    (h : valueOf fuel n = .ok (.map entries)) :
    Distinct entries ∧ ∀ entry ∈ entries, ∃ fuel n, valueOf fuel n = .ok entry.2 := by
  cases fuel with
  | zero => cases h
  | succ fuel =>
    unfold valueOf at h
    dsimp only at h
    split at h
    case h_1 =>
      obtain ⟨nodes, -, h⟩ := except_bind_eq_ok.mp h
      obtain ⟨entries', hentries, h⟩ := except_bind_eq_ok.mp h
      obtain rfl := Document.map.inj (Except.ok.inj h)
      obtain ⟨hdistinct, hmem⟩ := entriesOf_eq_ok hentries distinct_nil
      exact ⟨hdistinct, fun entry hentry => (hmem entry hentry).resolve_left List.not_mem_nil⟩
    case h_2 =>
      obtain ⟨nodes, -, h⟩ := except_bind_eq_ok.mp h
      obtain ⟨_, -, h⟩ := except_bind_eq_ok.mp h
      cases h
    case h_3 | h_4 | h_5 =>
      obtain ⟨_, -, h⟩ := except_bind_eq_ok.mp h
      cases h
    case h_11 =>
      split at h
      · exact absurd rfl (gives_scalarValue _ _ _ h entries)
      · cases h
    all_goals cases h

/-- The keys of a mapping that a text stands for are distinct, and so are those of the mappings in
it. -/
theorem distinct_of_read {text : List Char} {entries : List (Document × Document)}
    (h : read text = .ok (.map entries)) :
    Distinct entries ∧ ∀ entry ∈ entries, ∀ inner, entry.2 = .map inner → Distinct inner := by
  unfold read at h
  obtain ⟨root, -, h⟩ := except_bind_eq_ok.mp h
  cases root with
  | none => cases h
  | some n =>
    obtain ⟨hdistinct, hmem⟩ := valueOf_eq_map h
    refine ⟨hdistinct, fun entry hentry inner hinner => ?_⟩
    obtain ⟨fuel, n', hvalue⟩ := hmem entry hentry
    exact (valueOf_eq_map (hinner ▸ hvalue)).1

/-! ## Documents without repeated keys -/

theorem wellKeyed_scalarValue (tag : Tag) (text : String) :
    Gives WellKeyed (scalarValue tag text) := by
  intro d hd
  cases tag with
  | bool =>
    simp only [scalarValue] at hd
    split at hd
    · obtain rfl := Except.ok.inj hd
      trivial
    · cases hd
  | int =>
    obtain ⟨_, rfl⟩ := (gives_intValue text).mapError _ _ hd
    trivial
  | float =>
    obtain ⟨_, rfl⟩ := (gives_floatValue text).mapError _ _ hd
    trivial
  | timestamp =>
    obtain ⟨_, _, _, rfl⟩ | ⟨_, rfl⟩ := (gives_momentValue text).mapError _ _ hd <;> trivial
  | binary =>
    simp only [scalarValue, binaryValue] at hd
    split at hd
    · cases hd
    · split at hd
      · obtain rfl := Except.ok.inj hd
        trivial
      · cases hd
  | null =>
    obtain rfl := Except.ok.inj hd
    trivial
  | str =>
    obtain rfl := Except.ok.inj hd
    trivial
  | _ => cases hd

/-- The functions that read values, with some fuel, give documents without repeated keys. -/
structure KeyedAt (fuel : Nat) : Prop where
  value : ∀ n, Gives WellKeyed (valueOf fuel n)
  items : ∀ ns, Gives (fun ds => ∀ d ∈ ds, d.WellKeyed) (itemsOf fuel ns)
  pairs : ∀ ns, Gives (fun ds => ∀ d ∈ ds, d.WellKeyed) (pairsOf fuel ns)
  entries : ∀ ns before, (∀ e ∈ before, e.1.WellKeyed ∧ e.2.WellKeyed) →
    Gives (fun es => ∀ e ∈ es, e.1.WellKeyed ∧ e.2.WellKeyed) (entriesOf fuel ns before)

namespace KeyedAt

theorem zero : KeyedAt 0 where
  value _ := Gives.error _
  items ns := by
    cases ns with
    | nil => exact .ok (by simp)
    | cons n ns => exact .error _
  pairs ns := by
    cases ns with
    | nil => exact .ok (by simp)
    | cons n ns => exact .error _
  entries ns before hbefore := by
    cases ns with
    | nil => exact .ok hbefore
    | cons n ns => exact .error _

theorem succ {fuel : Nat} (h : KeyedAt fuel) : KeyedAt (fuel + 1) where
  value n := by
    intro d hd
    unfold valueOf at hd
    dsimp only at hd
    split at hd
    case h_1 =>
      obtain ⟨nodes, -, hd⟩ := except_bind_eq_ok.mp hd
      obtain ⟨entries, hentries, hd⟩ := except_bind_eq_ok.mp hd
      obtain rfl := Except.ok.inj hd
      have hkeyed := h.entries nodes [] (by simp) entries hentries
      exact wellKeyed_map_iff.mpr ⟨(entriesOf_eq_ok hentries distinct_nil).1,
        fun e he => (hkeyed e he).2⟩
    case h_2 =>
      obtain ⟨nodes, -, hd⟩ := except_bind_eq_ok.mp hd
      obtain ⟨entries, hentries, hd⟩ := except_bind_eq_ok.mp hd
      obtain rfl := Except.ok.inj hd
      have hkeyed := h.entries nodes [] (by simp) entries hentries
      refine itemsWellKeyed_iff.mpr fun k hk => ?_
      obtain ⟨e, he, rfl⟩ := List.mem_map.mp hk
      exact (hkeyed e he).1
    case h_3 =>
      obtain ⟨ds, hds, hd⟩ := except_bind_eq_ok.mp hd
      obtain rfl := Except.ok.inj hd
      exact itemsWellKeyed_iff.mpr (h.items _ ds hds)
    case h_4 | h_5 =>
      obtain ⟨ds, hds, hd⟩ := except_bind_eq_ok.mp hd
      obtain rfl := Except.ok.inj hd
      exact itemsWellKeyed_iff.mpr (h.pairs _ ds hds)
    case h_11 =>
      split at hd
      · exact wellKeyed_scalarValue _ _ d hd
      · cases hd
    all_goals cases hd
  items ns := by
    cases ns with
    | nil => exact .ok (by simp)
    | cons n ns =>
      intro ds hds
      obtain ⟨d, hd, hds⟩ := except_bind_eq_ok.mp hds
      obtain ⟨rest, hrest, hds⟩ := except_bind_eq_ok.mp hds
      obtain rfl := Except.ok.inj hds
      exact List.forall_mem_cons.mpr ⟨h.value n d hd, h.items ns rest hrest⟩
  pairs ns := by
    cases ns with
    | nil => exact .ok (by simp)
    | cons n ns =>
      intro ds hds
      unfold pairsOf at hds
      split at hds
      · obtain ⟨key, hkey, hds⟩ := except_bind_eq_ok.mp hds
        obtain ⟨value, hvalue, hds⟩ := except_bind_eq_ok.mp hds
        obtain ⟨rest, hrest, hds⟩ := except_bind_eq_ok.mp hds
        obtain rfl := Except.ok.inj hds
        refine List.forall_mem_cons.mpr ⟨itemsWellKeyed_iff.mpr ?_, h.pairs ns rest hrest⟩
        simp [h.value _ key hkey, h.value _ value hvalue]
      · cases hds
  entries ns before hbefore := by
    cases ns with
    | nil => exact .ok hbefore
    | cons n ns =>
      obtain ⟨k, v⟩ := n
      intro es hes
      rw [entriesOf] at hes
      obtain ⟨key, hkey, hes⟩ := except_bind_eq_ok.mp hes
      split at hes
      · obtain ⟨value, hvalue, hes⟩ := except_bind_eq_ok.mp hes
        refine h.entries ns (insert before key value) (fun e he => ?_) es hes
        obtain ⟨hek, hev⟩ := key_value_of_mem_insert he
        constructor
        · rcases hek with hek | ⟨e', he', hek⟩
          · exact hek ▸ h.value k key hkey
          · exact hek ▸ (hbefore e' he').1
        · rcases hev with hev | ⟨e', he', hev⟩
          · exact hev ▸ h.value v value hvalue
          · exact hev ▸ (hbefore e' he').2
      · cases hes

end KeyedAt

theorem keyedAt (fuel : Nat) : KeyedAt fuel := by
  induction fuel with
  | zero => exact .zero
  | succ fuel ih => exact ih.succ

/-- No document that a text stands for has a key twice in a mapping. -/
theorem wellKeyed_of_read {text : List Char} (h : read text = .ok d) : d.WellKeyed := by
  unfold read at h
  obtain ⟨root, -, h⟩ := except_bind_eq_ok.mp h
  cases root with
  | none =>
    obtain rfl := Except.ok.inj h
    trivial
  | some n => exact (keyedAt _).value n d h

end TrackerSearch.Yaml
