import Mathlib.Data.List.Nodup
import TrackerSearch.Selector.Match

/-!
# Document order

The elements below an element are listed in document order: their paths increase from one to the
next, a path counting as smaller than those that go on from it. So none is listed twice, and two of
them with the same path are the same element.
-/
namespace TrackerSearch.Html

variable {p q q' : Place} {up : Ascent} {parent : Element} {pos : Nat}

/-- The positions along an ascent, from the root on. -/
def pathAlong (up : Ascent) : List Nat := (up.map (·.2)).reverse

theorem pathAlong_cons (parent : Element) (pos : Nat) (up : Ascent) :
    pathAlong ((parent, pos) :: up) = pathAlong up ++ [pos] := by
  simp [pathAlong]

/-! ## What the paths below an element start with -/

mutual

theorem Node.prefix_path_of_mem (up : Ascent) (node : Node) :
    ∀ q ∈ Node.places up node, pathAlong up <+: q.path := by
  cases node with
  | text kind content => simp [Node.places]
  | element tag attrs children =>
    intro q hq
    rw [Node.places] at hq
    rcases List.mem_cons.mp hq with rfl | hq
    · exact List.prefix_refl _
    · obtain ⟨i, -, rest, hpath⟩ :=
        Node.path_of_mem_placesIn ⟨tag, attrs, children⟩ up 0 children q hq
      exact ⟨i :: rest, hpath.symm⟩

theorem Node.path_of_mem_placesIn (parent : Element) (up : Ascent) (pos : Nat) (nodes : List Node) :
    ∀ q ∈ Node.placesIn parent up pos nodes,
      ∃ i, pos ≤ i ∧ ∃ rest, q.path = pathAlong up ++ i :: rest := by
  cases nodes with
  | nil => simp [Node.placesIn]
  | cons node nodes =>
    intro q hq
    rw [Node.placesIn] at hq
    rcases List.mem_append.mp hq with hq | hq
    · obtain ⟨rest, hpath⟩ := Node.prefix_path_of_mem ((parent, pos) :: up) node q hq
      refine ⟨pos, Nat.le_refl pos, rest, ?_⟩
      rw [← hpath, pathAlong_cons, List.append_assoc, List.singleton_append]
    · obtain ⟨i, hi, hrest⟩ := Node.path_of_mem_placesIn parent up (pos + 1) nodes q hq
      exact ⟨i, by omega, hrest⟩

end

/-! ## Order -/

mutual

theorem Node.pairwise_places (up : Ascent) (node : Node) :
    (Node.places up node).Pairwise fun q q' => q.path < q'.path := by
  cases node with
  | text kind content => simp [Node.places]
  | element tag attrs children =>
    rw [Node.places, List.pairwise_cons]
    refine ⟨fun q hq => ?_, Node.pairwise_placesIn ⟨tag, attrs, children⟩ up 0 children⟩
    obtain ⟨i, -, rest, hpath⟩ :=
      Node.path_of_mem_placesIn ⟨tag, attrs, children⟩ up 0 children q hq
    have hlt : pathAlong up ++ [] < pathAlong up ++ i :: rest :=
      List.append_left_lt (List.nil_lt_cons i rest)
    rwa [List.append_nil, ← hpath] at hlt

theorem Node.pairwise_placesIn (parent : Element) (up : Ascent) (pos : Nat) (nodes : List Node) :
    (Node.placesIn parent up pos nodes).Pairwise fun q q' => q.path < q'.path := by
  cases nodes with
  | nil => simp [Node.placesIn]
  | cons node nodes =>
    rw [Node.placesIn, List.pairwise_append]
    refine ⟨Node.pairwise_places _ node, Node.pairwise_placesIn parent up (pos + 1) nodes, ?_⟩
    intro q hq q' hq'
    obtain ⟨rest, hpath⟩ := Node.prefix_path_of_mem ((parent, pos) :: up) node q hq
    obtain ⟨i, hi, rest', hpath'⟩ := Node.path_of_mem_placesIn parent up (pos + 1) nodes q' hq'
    rw [← hpath, hpath', pathAlong_cons, List.append_assoc, List.singleton_append]
    exact List.append_left_lt (List.cons_lt_cons_iff.mpr (.inl (by omega)))

end

theorem Place.pairwise_descendants (p : Place) :
    p.descendants.Pairwise fun q q' => q.path < q'.path :=
  Node.pairwise_placesIn p.here p.up 0 p.here.children

theorem Place.eq_of_path_eq (hq : q ∈ p.descendants) (hq' : q' ∈ p.descendants)
    (h : q.path = q'.path) : q = q' := by
  have hnodup : (p.descendants.map Place.path).Nodup := by
    rw [List.Nodup, List.pairwise_map]
    refine p.pairwise_descendants.imp fun {a b} (hlt : a.path < b.path) he => ?_
    rw [he] at hlt
    exact List.lt_irrefl _ hlt
  exact List.inj_on_of_nodup_map hnodup hq hq' h

end TrackerSearch.Html
