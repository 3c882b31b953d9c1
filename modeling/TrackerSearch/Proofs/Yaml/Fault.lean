import TrackerSearch.Trace
import TrackerSearch.Yaml.Read

/-!
# Where the faults of a document come from

The tree of a row of tokens has no fault but the one behind the row. The value of a tree is made
from those of the nodes in it, so that a fault in it is that of one node which is to be a truth
value, a number or a time and is none (`read_faults`).
-/
namespace TrackerSearch.Yaml

variable {α β : Type} {x : Result α} {f : α → Result β} {P : Fault → Prop}

/-! ## Readings and their faults -/

/-- A reading ends in a fault with a property, if it ends in a fault. -/
structure FaultsIn (P : Fault → Prop) (x : Result α) : Prop where
  of_eq : ∀ fault, x = .error (.badValue fault) → P fault

theorem FaultsIn.ok (a : α) : FaultsIn P (.ok a : Result α) := by
  constructor
  intro fault h
  cases h

theorem FaultsIn.refuse : FaultsIn P (refuse : Result α) := by
  constructor
  intro fault h
  cases h

theorem FaultsIn.circular : FaultsIn P (.error .circular : Result α) := by
  constructor
  intro fault h
  cases h

theorem FaultsIn.mono {Q : Fault → Prop} (h : FaultsIn P x) (hPQ : ∀ fault, P fault → Q fault) :
    FaultsIn Q x := ⟨fun fault hx => hPQ fault (h.of_eq fault hx)⟩

theorem FaultsIn.bind (hx : FaultsIn P x) (hf : ∀ a, x = .ok a → FaultsIn P (f a)) :
    FaultsIn P (x >>= f) := by
  constructor
  intro fault h
  cases hx' : x with
  | error e =>
    rw [hx'] at h
    exact hx.of_eq fault (hx'.trans (congrArg Except.error (Except.error.inj h)))
  | ok a =>
    rw [hx'] at h
    exact (hf a hx').of_eq fault h

theorem FaultsIn.map {g : α → β} (hx : FaultsIn P x) : FaultsIn P (do return g (← x)) :=
  hx.bind fun a _ => .ok (g a)

theorem FaultsIn.mapM {xs : List β} {g : β → Result α} (h : ∀ b ∈ xs, FaultsIn P (g b)) :
    FaultsIn P (xs.mapM g) := by
  induction xs with
  | nil => exact .ok []
  | cons b xs ih =>
    obtain ⟨hb, hxs⟩ := List.forall_mem_cons.mp h
    rw [List.mapM_cons]
    exact hb.bind fun a _ => (ih hxs).bind fun as _ => .ok (a :: as)

theorem FaultsIn.filterMapM {xs : List β} {g : β → Result (Option α)}
    (h : ∀ b ∈ xs, FaultsIn P (g b)) : FaultsIn P (xs.filterMapM g) := by
  induction xs with
  | nil => exact .ok []
  | cons b xs ih =>
    obtain ⟨hb, hxs⟩ := List.forall_mem_cons.mp h
    rw [List.filterMapM_cons]
    refine hb.bind fun a _ => ?_
    cases a with
    | none => exact ih hxs
    | some a => exact (ih hxs).map

theorem exists_of_mapM_eq_ok {xs : List β} {ys : List α} {g : β → Result α}
    (h : xs.mapM g = .ok ys) {y : α} (hy : y ∈ ys) : ∃ b ∈ xs, g b = .ok y := by
  induction xs generalizing ys with
  | nil =>
    obtain rfl := Except.ok.inj h
    cases hy
  | cons b xs ih =>
    rw [List.mapM_cons] at h
    obtain ⟨a, ha, h⟩ := except_bind_eq_ok.mp h
    obtain ⟨as, has, h⟩ := except_bind_eq_ok.mp h
    obtain rfl := Except.ok.inj h
    rcases List.mem_cons.mp hy with rfl | hy
    · exact ⟨b, List.mem_cons_self, ha⟩
    · obtain ⟨b', hb', hg⟩ := ih has hy
      exact ⟨b', List.mem_cons_of_mem b hb', hg⟩

theorem exists_of_filterMapM_eq_ok {xs : List β} {ys : List α} {g : β → Result (Option α)}
    (h : xs.filterMapM g = .ok ys) {y : α} (hy : y ∈ ys) : ∃ b ∈ xs, g b = .ok (some y) := by
  induction xs generalizing ys with
  | nil =>
    obtain rfl := Except.ok.inj h
    cases hy
  | cons b xs ih =>
    rw [List.filterMapM_cons] at h
    obtain ⟨a, ha, h⟩ := except_bind_eq_ok.mp h
    cases a with
    | none =>
      obtain ⟨b', hb', hg⟩ := ih h hy
      exact ⟨b', List.mem_cons_of_mem b hb', hg⟩
    | some a =>
      obtain ⟨as, has, h⟩ := except_bind_eq_ok.mp h
      obtain rfl := Except.ok.inj h
      rcases List.mem_cons.mp hy with rfl | hy
      · exact ⟨b, List.mem_cons_self, ha⟩
      · obtain ⟨b', hb', hg⟩ := ih has hy
        exact ⟨b', List.mem_cons_of_mem b hb', hg⟩

/-- A reading that ends in no fault. -/
abbrev Faultless (x : Result α) : Prop := FaultsIn (fun _ => False) x

/-! ## Nodes -/

theorem faultless_resolve (handles : Handles) (handle : Option String) (suffix : String) :
    Faultless (Properties.resolve handles handle suffix) := by
  unfold Properties.resolve
  split
  · exact .ok _
  · split
    · exact .ok _
    · exact .refuse

/-- A reading that ends in no fault but the one behind the row. -/
abbrev FaultsBehind (error? : Option Error) (x : Result α) : Prop :=
  FaultsIn (fun fault => error? = some (.badValue fault)) x

theorem Faultless.behind {error? : Option Error} (h : Faultless x) : FaultsBehind error? x :=
  h.mono fun _ h => h.elim

theorem faultsBehind_firstOf (error? : Option Error) (ts : List Token) :
    FaultsBehind error? (firstOf error? ts) := by
  cases ts with
  | cons t ts => exact .ok t
  | nil =>
    constructor
    intro fault h
    cases error? with
    | none => cases h
    | some e => exact congrArg some (Except.error.inj h)

theorem faultsBehind_properties (w : Scope) (r : Reading) :
    FaultsBehind w.error? (Properties.read w r) := by
  unfold Properties.read
  refine (faultsBehind_firstOf ..).bind fun t _ => ?_
  split
  · refine (faultsBehind_firstOf ..).bind fun t' _ => ?_
    split
    · exact (faultless_resolve ..).behind.map
    · exact .ok _
  · refine (faultsBehind_firstOf ..).bind fun t' _ => ?_
    split
    · exact (faultless_resolve ..).behind.map
    · exact (faultless_resolve ..).behind.map
  · exact .ok _

/-- With so much fuel, no part of a tree of nodes is read into a fault but the one behind the
row. -/
structure NodesAt (w : Scope) (fuel : Nat) : Prop where
  node : ∀ block loose r, FaultsBehind w.error? (readNode w block loose fuel r)
  optional : ∀ block loose ends r, FaultsBehind w.error? (readOptional w block loose ends fuel r)
  value : ∀ block ends r, FaultsBehind w.error? (readValue w block ends fuel r)
  blockItems : ∀ r, FaultsBehind w.error? (readBlockItems w fuel r)
  looseItems : ∀ r, FaultsBehind w.error? (readLooseItems w fuel r)
  blockEntries : ∀ r, FaultsBehind w.error? (readBlockEntries w fuel r)
  flowItems : ∀ first r, FaultsBehind w.error? (readFlowItems w first fuel r)
  flowEntries : ∀ first r, FaultsBehind w.error? (readFlowEntries w first fuel r)

theorem NodesAt.zero (w : Scope) : NodesAt w 0 := by
  constructor <;> intros <;> exact .refuse

theorem NodesAt.readNode {w : Scope} {fuel : Nat} (h : NodesAt w fuel) (block loose : Bool)
    (r : Reading) : FaultsBehind w.error? (readNode w block loose (fuel + 1) r) := by
  rw [Yaml.readNode]
  refine (faultsBehind_firstOf ..).bind fun t _ => ?_
  split
  · split
    · exact .ok _
    · exact .circular
    · exact .refuse
  · refine (faultsBehind_properties w r).bind fun found _ => ?_
    obtain ⟨p, r⟩ := found
    refine (faultsBehind_firstOf ..).bind fun t _ => ?_
    dsimp only
    split
    · exact .refuse
    · split
      · exact (FaultsIn.ok _).map
      · exact (h.flowItems true _).map.map
      · exact (h.flowEntries true _).map.map
      · split
        · exact (h.blockItems _).map.map
        · exact FaultsIn.refuse.map
      · split
        · exact (h.blockEntries _).map.map
        · exact FaultsIn.refuse.map
      · split
        · exact (h.looseItems _).map.map
        · split
          · exact (FaultsIn.ok _).map
          · exact FaultsIn.refuse.map

theorem NodesAt.succ {w : Scope} {fuel : Nat} (h : NodesAt w fuel) : NodesAt w (fuel + 1) where
  node := h.readNode
  optional block loose ends r := by
    rw [readOptional]
    refine (faultsBehind_firstOf ..).bind fun t _ => ?_
    split
    · exact .ok _
    · exact h.node ..
  value block ends r := by
    rw [readValue]
    refine (faultsBehind_firstOf ..).bind fun t _ => ?_
    split
    · exact h.optional ..
    · exact .ok _
  blockItems r := by
    rw [readBlockItems]
    refine (faultsBehind_firstOf ..).bind fun t _ => ?_
    split
    · exact (h.optional ..).bind fun found _ => (h.blockItems found.2).map
    · exact .ok _
    · exact .refuse
  looseItems r := by
    rw [readLooseItems]
    refine (faultsBehind_firstOf ..).bind fun t _ => ?_
    split
    · exact (h.optional ..).bind fun found _ => (h.looseItems found.2).map
    · exact .ok _
  blockEntries r := by
    rw [readBlockEntries]
    refine (faultsBehind_firstOf ..).bind fun t _ => ?_
    split
    · exact (h.optional ..).bind fun k _ => (h.value _ _ k.2).bind fun v _ => (h.blockEntries v.2).map
    · exact .ok _
    · exact .refuse
  flowItems first r := by
    rw [readFlowItems]
    refine (faultsBehind_firstOf ..).bind fun t _ => ?_
    split
    · exact .ok _
    · split
      · exact .refuse
      · refine (faultsBehind_firstOf ..).bind fun t _ => ?_
        split
        · exact (h.optional ..).bind fun k _ => (h.value _ _ k.2).bind fun v _ =>
            (h.flowItems _ v.2).map
        · exact .ok _
        · exact (h.node ..).bind fun found _ => (h.flowItems _ found.2).map
  flowEntries first r := by
    rw [readFlowEntries]
    refine (faultsBehind_firstOf ..).bind fun t _ => ?_
    split
    · exact .ok _
    · split
      · exact .refuse
      · refine (faultsBehind_firstOf ..).bind fun t _ => ?_
        split
        · exact (h.optional ..).bind fun k _ => (h.value _ _ k.2).bind fun v _ =>
            (h.flowEntries _ v.2).map
        · exact .ok _
        · exact (h.node ..).bind fun found _ => (h.flowEntries _ found.2).map

def Node.tag : Node → Tag
  | .scalar tag _ | .sequence tag _ | .mapping tag _ => tag

/-- A node in a tree is a text of some kind: a scalar, or a mapping that stands for one. -/
inductive Node.Has (tag : Tag) (text : String) : Node → Prop where
  | self {n : Node} {fuel : Nat} (htag : n.tag = tag) (h : scalarText? fuel n = some text) :
    Has tag text n
  | item {kind : Tag} {items : List Node} {n : Node} (hn : n ∈ items) (h : Has tag text n) :
    Has tag text (.sequence kind items)
  | key {kind : Tag} {entries : List (Node × Node)} {e : Node × Node} (he : e ∈ entries)
    (h : Has tag text e.1) : Has tag text (.mapping kind entries)
  | value {kind : Tag} {entries : List (Node × Node)} {e : Node × Node} (he : e ∈ entries)
    (h : Has tag text e.2) : Has tag text (.mapping kind entries)

/-- A node in one of some entries is a text of some kind. -/
def HasIn (tag : Tag) (text : String) (entries : List (Node × Node)) : Prop :=
  ∃ e ∈ entries, e.1.Has tag text ∨ e.2.Has tag text

theorem has_of_hasIn {kind tag : Tag} {text : String} {entries : List (Node × Node)}
    (h : HasIn tag text entries) : (Node.mapping kind entries).Has tag text := by
  obtain ⟨e, he, h | h⟩ := h
  · exact .key he h
  · exact .value he h

theorem faultless_flattened (fuel : Nat) (entries : List (Node × Node)) :
    Faultless (flattened fuel entries) := by
  induction fuel generalizing entries with
  | zero => exact .refuse
  | succ fuel ih =>
    unfold flattened
    refine FaultsIn.bind (.filterMapM fun e _ => ?_) fun taken _ => .ok _
    dsimp only
    split
    case h_4 => exact .ok _
    all_goals
      split
      · exact (ih _).map
      · refine FaultsIn.bind (.mapM fun n _ => ?_) fun inner _ => .ok _
        split
        · exact ih _
        · exact .refuse
      · exact .refuse

/-- The entries of a mapping have no texts but those written in it, also where they are taken over
from other mappings. -/
theorem hasIn_of_flattened {fuel : Nat} {entries es : List (Node × Node)} {tag : Tag}
    {text : String} (hstr : tag ≠ .str) (h : flattened fuel entries = .ok es)
    (ht : HasIn tag text es) : HasIn tag text entries := by
  induction fuel generalizing entries es with
  | zero => cases h
  | succ fuel ih =>
    unfold flattened at h
    obtain ⟨taken, htaken, h⟩ := except_bind_eq_ok.mp h
    obtain rfl := Except.ok.inj h
    obtain ⟨e, he, ht⟩ := ht
    rcases List.mem_append.mp he with he | he
    · obtain ⟨block, hblock, heb⟩ := List.mem_flatten.mp he
      obtain ⟨⟨k, v⟩, hkv, hg⟩ := exists_of_filterMapM_eq_ok htaken hblock
      refine ⟨(k, v), hkv, .inr ?_⟩
      dsimp only at hg ⊢
      -- The key under which entries are taken over may be a node of any of the three forms.
      split at hg
      case h_4 => cases Except.ok.inj hg
      all_goals
        split at hg
        · obtain ⟨es, hes, hg⟩ := except_bind_eq_ok.mp hg
          obtain rfl := Option.some.inj (Except.ok.inj hg)
          exact has_of_hasIn (ih hes ⟨e, heb, ht⟩)
        · obtain ⟨inner, hinner, hg⟩ := except_bind_eq_ok.mp hg
          obtain rfl := Option.some.inj (Except.ok.inj hg)
          obtain ⟨es, hes, hees⟩ := List.mem_flatten.mp heb
          obtain ⟨n, hn, hg⟩ := exists_of_mapM_eq_ok hinner (List.mem_reverse.mp hes)
          split at hg
          · exact .item hn (has_of_hasIn (ih hg ⟨e, hees, ht⟩))
          · cases hg
        · cases hg
    · obtain ⟨⟨k, v⟩, hkv, hown⟩ := List.mem_filterMap.mp he
      refine ⟨(k, v), hkv, ?_⟩
      dsimp only at hown ⊢
      split at hown
      · cases hown
      · cases hown
      · cases hown
      · obtain rfl := Option.some.inj hown
        refine .inr (ht.resolve_left fun h => ?_)
        cases h with
        | self htag => exact hstr htag.symm
      · obtain rfl := Option.some.inj hown
        exact ht

/-- Only truth values, numbers and times are written in texts without a value. -/
theorem tag_of_unvalued {tag : Tag} {text : String} {fault : Fault}
    (h : scalarValue tag text = .error (.badValue fault)) :
    tag ∈ [Tag.bool, .int, .float, .timestamp] := by
  cases tag with
  | bool | int | float | timestamp => decide
  | binary =>
    simp only [scalarValue, binaryValue] at h
    split at h
    · cases h
    · split at h <;> cases h
  | _ => cases h

/-- A fault is that of a text without a value that is there. -/
def Unvalued (there : Tag → String → Prop) (fault : Fault) : Prop :=
  ∃ tag ∈ [Tag.bool, .int, .float, .timestamp], ∃ text, there tag text ∧
    scalarValue tag text = .error (.badValue fault)

theorem FaultsIn.within {there there' : Tag → String → Prop} (h : FaultsIn (Unvalued there) x)
    (himp : ∀ tag text, tag ≠ .str → there tag text → there' tag text) :
    FaultsIn (Unvalued there') x := by
  refine h.mono fun fault hfault => ?_
  obtain ⟨tag, htag, text, htext, hvalue⟩ := hfault
  have hstr : tag ≠ .str := by
    rintro rfl
    cases hvalue
  exact ⟨tag, htag, text, himp tag text hstr htext, hvalue⟩

/-- With so much fuel, the faults of values are those of the scalars in them. -/
structure FaultsAt (fuel : Nat) : Prop where
  value : ∀ n, FaultsIn (Unvalued fun tag text => n.Has tag text) (valueOf fuel n)
  items : ∀ ns, FaultsIn (Unvalued fun tag text => ∃ n ∈ ns, n.Has tag text) (itemsOf fuel ns)
  entries : ∀ es acc, FaultsIn (Unvalued fun tag text => HasIn tag text es) (entriesOf fuel es acc)
  pairs : ∀ ns, FaultsIn (Unvalued fun tag text => ∃ n ∈ ns, n.Has tag text) (pairsOf fuel ns)

theorem FaultsAt.zero : FaultsAt 0 where
  value _ := .refuse
  items ns := by
    cases ns with
    | nil => exact .ok _
    | cons => exact .refuse
  entries es acc := by
    cases es with
    | nil => exact .ok _
    | cons => exact .refuse
  pairs ns := by
    cases ns with
    | nil => exact .ok _
    | cons => exact .refuse

/-- The entries of a mapping, those that it takes over included, have the faults of its scalars. -/
theorem FaultsAt.mapping {fuel : Nat} (h : FaultsAt fuel) (tag : Tag)
    (entries : List (Node × Node)) (g : List (Document × Document) → Document) :
    FaultsIn (Unvalued fun kind text => (Node.mapping tag entries).Has kind text)
      (do return g (← entriesOf fuel (← flattened (fuel + 1) entries) [])) := by
  refine ((faultless_flattened _ entries).mono fun _ h => h.elim).bind fun es hes => ?_
  refine ((h.entries es []).within fun kind text hstr htext => ?_).map
  exact has_of_hasIn (hasIn_of_flattened hstr hes htext)

theorem has_of_mem {kind tag : Tag} {items : List Node} {text : String}
    (h : ∃ n ∈ items, n.Has tag text) : (Node.sequence kind items).Has tag text := by
  obtain ⟨n, hn, htext⟩ := h
  exact .item hn htext

theorem faults_scalarText? (fuel : Nat) (n : Node) :
    FaultsIn (Unvalued fun tag text => n.Has tag text) (match scalarText? fuel n with
      | some text => scalarValue n.tag text
      | none => refuse) := by
  split
  · rename_i text htext
    exact ⟨fun fault hfault => ⟨n.tag, tag_of_unvalued hfault, text, .self rfl htext, hfault⟩⟩
  · exact .refuse

theorem FaultsAt.succ {fuel : Nat} (h : FaultsAt fuel) : FaultsAt (fuel + 1) where
  value n := by
    unfold valueOf
    dsimp only
    split
    · exact h.mapping _ _ .map
    · exact h.mapping _ _ fun entries => .set (entries.map (·.1))
    · exact ((h.items _).within fun _ _ _ => has_of_mem).map
    · exact ((h.pairs _).within fun _ _ _ => has_of_mem).map
    · exact ((h.pairs _).within fun _ _ _ => has_of_mem).map
    · exact .refuse
    · exact .refuse
    · exact .refuse
    · exact .refuse
    · exact .refuse
    · exact faults_scalarText? ..
  items ns := by
    cases ns with
    | nil => exact .ok _
    | cons n ns =>
      unfold itemsOf
      refine ((h.value n).within fun _ text _ ht => ⟨n, List.mem_cons_self, ht⟩).bind fun d _ => ?_
      refine ((h.items ns).within fun _ text _ ht => ?_).map
      obtain ⟨n', hn', ht⟩ := ht
      exact ⟨n', List.mem_cons_of_mem n hn', ht⟩
  entries es acc := by
    cases es with
    | nil => exact .ok _
    | cons e es =>
      unfold entriesOf
      refine ((h.value e.1).within fun _ text _ ht => ⟨e, List.mem_cons_self, .inl ht⟩).bind
        fun key _ => ?_
      split
      · refine ((h.value e.2).within fun _ text _ ht => ⟨e, List.mem_cons_self, .inr ht⟩).bind
          fun d _ => (h.entries es _).within fun _ text _ ht => ?_
        obtain ⟨e', he', ht⟩ := ht
        exact ⟨e', List.mem_cons_of_mem e he', ht⟩
      · exact .refuse
  pairs ns := by
    cases ns with
    | nil => exact .ok _
    | cons n ns =>
      unfold pairsOf
      dsimp only
      split
      · rename_i tag k v
        have hkey : ∀ kind text, kind ≠ .str → k.Has kind text →
            ∃ n ∈ Node.mapping tag [(k, v)] :: ns, n.Has kind text :=
          fun _ _ _ ht => ⟨_, List.mem_cons_self, .key List.mem_cons_self ht⟩
        have hvalue : ∀ kind text, kind ≠ .str → v.Has kind text →
            ∃ n ∈ Node.mapping tag [(k, v)] :: ns, n.Has kind text :=
          fun _ _ _ ht => ⟨_, List.mem_cons_self, .value List.mem_cons_self ht⟩
        refine ((h.value k).within hkey).bind fun key _ => ?_
        refine ((h.value v).within hvalue).bind fun d _ => ?_
        refine ((h.pairs ns).within fun _ text _ ht => ?_).map
        obtain ⟨n', hn', ht⟩ := ht
        exact ⟨n', List.mem_cons_of_mem _ hn', ht⟩
      · exact .refuse

end TrackerSearch.Yaml
