import Mathlib.Data.List.Infix
import TrackerSearch.Proofs.Html.Order

/-!
# Removing elements from a copy

A copy of an element is a tree whose elements can be told apart, by the paths that they have when it
is made. To destroy an element takes it out of the copy with everything in it; one that has gone
together with an element around it is not found any more. So it makes no difference in which order
elements are destroyed and how they are nested (`Element.destroyEach_eq_prune`). What is left are the
pieces of text that lie in none of them, in document order (`Element.text_prune`), where a piece lies
in an element that its path comes by (`Element.filter_surrounds`).
-/
namespace TrackerSearch.Html

variable {doomed : List Nat → Bool} {path : List Nat} {pos : Nat} {q : Place}

/-! ## Copies -/

/-- A node of a copy; its elements are marked with their paths in the whole copy. -/
inductive Marked where
  | text (kind : TextKind) (content : String)
  | element (path : List Nat) (tag : String) (attrs : Attrs) (children : List Marked)

mutual

/-- The copy of a node with a path. -/
def Node.marked (path : List Nat) : Node → Marked
  | .text kind content => .text kind content
  | .element tag attrs children => .element path tag attrs (Node.markedIn path 0 children)

/-- The copies of the children from a position on. -/
def Node.markedIn (path : List Nat) (pos : Nat) : List Node → List Marked
  | [] => []
  | node :: rest => Node.marked (path ++ [pos]) node :: Node.markedIn path (pos + 1) rest

end

namespace Marked

mutual

/-- The node without the marks. -/
def node : Marked → Node
  | .text kind content => .text kind content
  | .element _ tag attrs children => .element tag attrs (nodes children)

def nodes : List Marked → List Node
  | [] => []
  | m :: rest => m.node :: nodes rest

end

mutual

/-- Leave out the elements with certain marks, and everything in them. -/
def without (doomed : List Nat → Bool) : Marked → Option Marked
  | .text kind content => some (.text kind content)
  | .element path tag attrs children =>
    if doomed path then none else some (.element path tag attrs (withoutIn doomed children))

def withoutIn (doomed : List Nat → Bool) : List Marked → List Marked
  | [] => []
  | m :: rest => (m.without doomed).toList ++ withoutIn doomed rest

end

/-- Destroy the element with a mark, if it is still there. -/
def destroy (ms : List Marked) (path : List Nat) : List Marked := withoutIn (· == path) ms

theorem nodes_append (ms more : List Marked) : nodes (ms ++ more) = nodes ms ++ nodes more := by
  induction ms with
  | nil => rfl
  | cons m ms ih => rw [List.cons_append, nodes, ih, nodes, List.cons_append]

theorem withoutIn_append (ms more : List Marked) :
    withoutIn doomed (ms ++ more) = withoutIn doomed ms ++ withoutIn doomed more := by
  induction ms with
  | nil => rfl
  | cons m ms ih => rw [List.cons_append, withoutIn, ih, withoutIn, List.append_assoc]

mutual

theorem without_none (m : Marked) : m.without (fun _ => false) = some m := by
  cases m with
  | text kind content => rfl
  | element path tag attrs children =>
    rw [without, if_neg Bool.false_ne_true, withoutIn_none children]

theorem withoutIn_none (ms : List Marked) : withoutIn (fun _ => false) ms = ms := by
  cases ms with
  | nil => rfl
  | cons m ms => rw [withoutIn, without_none m, withoutIn_none ms]; rfl

end

mutual

/-- What goes with an element that is left out is not there to be left out again. -/
theorem withoutIn_without (f g : List Nat → Bool) (m : Marked) :
    withoutIn g (m.without f).toList = (m.without fun path => f path || g path).toList := by
  cases m with
  | text kind content => rfl
  | element path tag attrs children =>
    rw [without, without]
    by_cases hf : f path = true
    · rw [if_pos hf, if_pos (by rw [hf, Bool.true_or])]
      rfl
    · rw [Bool.not_eq_true] at hf
      simp only [hf, Bool.false_or, Bool.false_eq_true, if_false, Option.toList_some, withoutIn,
        without, withoutIn_withoutIn f g children, List.append_nil]

theorem withoutIn_withoutIn (f g : List Nat → Bool) (ms : List Marked) :
    withoutIn g (withoutIn f ms) = withoutIn (fun path => f path || g path) ms := by
  cases ms with
  | nil => rfl
  | cons m ms =>
    rw [withoutIn, withoutIn_append, withoutIn_without f g m, withoutIn_withoutIn f g ms, withoutIn]

end

/-- Elements are destroyed one after the other, in any order. -/
theorem foldl_destroy (paths : List (List Nat)) (ms : List Marked) :
    paths.foldl destroy ms = withoutIn paths.contains ms := by
  induction paths generalizing ms with
  | nil => exact (withoutIn_none ms).symm
  | cons path paths ih =>
    rw [List.foldl_cons, ih, destroy, withoutIn_withoutIn]
    congr 1

end Marked

mutual

theorem Node.nodes_without (doomed : List Nat → Bool) (path : List Nat) (node : Node) :
    Marked.nodes ((Node.marked path node).without doomed).toList =
      (Node.prune doomed path node).toList := by
  cases node with
  | text kind content => rfl
  | element tag attrs children =>
    rw [Node.marked, Marked.without, Node.prune]
    split
    · rfl
    · simp only [Option.toList_some, Marked.nodes, Marked.node,
        Node.nodes_withoutIn doomed path 0 children]

theorem Node.nodes_withoutIn (doomed : List Nat → Bool) (path : List Nat) (pos : Nat)
    (nodes : List Node) : Marked.nodes (Marked.withoutIn doomed (Node.markedIn path pos nodes)) =
      Node.pruneIn doomed path pos nodes := by
  cases nodes with
  | nil => rfl
  | cons node nodes =>
    rw [Node.markedIn, Marked.withoutIn, Marked.nodes_append,
      Node.nodes_without doomed (path ++ [pos]) node, Node.nodes_withoutIn doomed path _ nodes,
      Node.pruneIn]

end

/-- An element less those below it which are destroyed in a copy, one after the other. -/
def Element.destroyEach (e : Element) (paths : List (List Nat)) : Element :=
  { e with children := Marked.nodes (paths.foldl Marked.destroy (Node.markedIn [] 0 e.children)) }

theorem Element.destroyEach_eq_prune (e : Element) (paths : List (List Nat)) :
    e.destroyEach paths = e.prune paths.contains := by
  rw [destroyEach, Marked.foldl_destroy, Node.nodes_withoutIn, prune]

/-! ## Pieces of text and where they lie -/

mutual

/-- The pieces of text in a node, in document order, wherever the node stands. -/
def Node.texts : Node → List (TextKind × String)
  | .text kind content => [(kind, content)]
  | .element _ _ children => Node.textsIn children

def Node.textsIn : List Node → List (TextKind × String)
  | [] => []
  | node :: rest => node.texts ++ Node.textsIn rest

end

mutual

theorem Node.map_pieces (path : List Nat) (node : Node) :
    (Node.pieces path node).map (·.2) = node.texts := by
  cases node with
  | text kind content => rfl
  | element tag attrs children => rw [Node.pieces, Node.texts, Node.map_piecesIn path 0 children]

theorem Node.map_piecesIn (path : List Nat) (pos : Nat) (nodes : List Node) :
    (Node.piecesIn path pos nodes).map (·.2) = Node.textsIn nodes := by
  cases nodes with
  | nil => rfl
  | cons node nodes =>
    rw [Node.piecesIn, List.map_append, Node.map_pieces, Node.map_piecesIn path _ nodes,
      Node.textsIn]

end

theorem Node.textsIn_append (nodes more : List Node) :
    Node.textsIn (nodes ++ more) = Node.textsIn nodes ++ Node.textsIn more := by
  induction nodes with
  | nil => rfl
  | cons node nodes ih => rw [List.cons_append, textsIn, ih, textsIn, List.append_assoc]

mutual

theorem Node.prefix_path_of_mem_pieces (path : List Nat) (node : Node) :
    ∀ x ∈ Node.pieces path node, path <+: x.1 := by
  cases node with
  | text kind content =>
    intro x hx
    rw [Node.pieces, List.mem_singleton] at hx
    rw [hx]
  | element tag attrs children =>
    intro x hx
    obtain ⟨i, -, rest, hpath⟩ := Node.path_of_mem_piecesIn path 0 children x hx
    exact ⟨i :: rest, hpath.symm⟩

theorem Node.path_of_mem_piecesIn (path : List Nat) (pos : Nat) (nodes : List Node) :
    ∀ x ∈ Node.piecesIn path pos nodes, ∃ i, pos ≤ i ∧ ∃ rest, x.1 = path ++ i :: rest := by
  cases nodes with
  | nil => simp [Node.piecesIn]
  | cons node nodes =>
    intro x hx
    rw [Node.piecesIn] at hx
    rcases List.mem_append.mp hx with hx | hx
    · obtain ⟨rest, hpath⟩ := Node.prefix_path_of_mem_pieces (path ++ [pos]) node x hx
      refine ⟨pos, Nat.le_refl pos, rest, ?_⟩
      rw [← hpath, List.append_assoc, List.singleton_append]
    · obtain ⟨i, hi, hrest⟩ := Node.path_of_mem_piecesIn path (pos + 1) nodes x hx
      exact ⟨i, by omega, hrest⟩

end

/-- Does the way to a piece of text come by an element? Its last step leads from the element that
holds the text to the text itself. -/
def Place.surrounds (q : Place) (path : List Nat) : Bool := q.path.isPrefixOf path.dropLast

theorem Place.surrounds_iff : q.surrounds path = true ↔ q.path <+: path.dropLast :=
  List.isPrefixOf_iff_prefix

theorem prefix_dropLast {path' : List Nat} (h : path' <+: path) (hne : path' ≠ path) :
    path' <+: path.dropLast := by
  rcases List.eq_nil_or_concat path with rfl | ⟨before, last, rfl⟩
  · exact absurd (List.prefix_nil.mp h) hne
  · rw [List.concat_eq_append] at h hne ⊢
    rw [List.dropLast_concat]
    exact (List.prefix_concat_iff.mp h).resolve_left hne

mutual

/-- What is left of a node is what lies in none of the elements that are left out. -/
theorem Node.texts_prune (removed : List Place) (path : List Nat) (node : Node)
    (h : ∀ q ∈ removed, ¬ q.path <+: path.dropLast) :
    Node.textsIn (Node.prune (removed.map (·.path)).contains path node).toList =
      ((Node.pieces path node).filter fun x => !removed.any (·.surrounds x.1)).map (·.2) := by
  cases node with
  | text kind content =>
    have hkept : removed.any (·.surrounds path) = false := by
      rw [List.any_eq_false]
      exact fun q hq hin => h q hq (Place.surrounds_iff.mp hin)
    simp [Node.prune, Node.pieces, Node.textsIn, Node.texts, hkept]
  | element tag attrs children =>
    rw [Node.prune, Node.pieces]
    by_cases hdoomed : path ∈ removed.map (·.path)
    · have hgone : ∀ x ∈ Node.piecesIn path 0 children,
          ¬ (!removed.any (·.surrounds x.1)) = true := by
        intro x hx
        obtain ⟨q, hq, hpath⟩ := List.mem_map.mp hdoomed
        obtain ⟨i, -, rest, hbelow⟩ := Node.path_of_mem_piecesIn path 0 children x hx
        rw [Bool.not_eq_true, Bool.not_eq_false', List.any_eq_true]
        refine ⟨q, hq, Place.surrounds_iff.mpr ?_⟩
        rw [hbelow, hpath, List.dropLast_append_of_ne_nil (List.cons_ne_nil i rest)]
        exact List.prefix_append path _
      rw [if_pos (List.contains_iff_mem.mpr hdoomed), List.filter_eq_nil_iff.mpr hgone]
      rfl
    · have hleft : ∀ q ∈ removed, ¬ q.path <+: path := by
        intro q hq hprefix
        refine h q hq (prefix_dropLast hprefix fun heq => hdoomed ?_)
        exact List.mem_map.mpr ⟨q, hq, heq⟩
      rw [if_neg (by rwa [List.contains_iff_mem]), Option.toList_some, Node.textsIn, Node.textsIn,
        List.append_nil, Node.texts, Node.textsIn_pruneIn removed path 0 children hleft]

theorem Node.textsIn_pruneIn (removed : List Place) (path : List Nat) (pos : Nat)
    (nodes : List Node) (h : ∀ q ∈ removed, ¬ q.path <+: path) :
    Node.textsIn (Node.pruneIn (removed.map (·.path)).contains path pos nodes) =
      ((Node.piecesIn path pos nodes).filter fun x => !removed.any (·.surrounds x.1)).map
        (·.2) := by
  cases nodes with
  | nil => rfl
  | cons node nodes =>
    have hnode : ∀ q ∈ removed, ¬ q.path <+: (path ++ [pos]).dropLast := by
      rwa [List.dropLast_concat]
    rw [Node.pruneIn, Node.piecesIn, Node.textsIn_append, List.filter_append, List.map_append,
      Node.texts_prune removed (path ++ [pos]) node hnode,
      Node.textsIn_pruneIn removed path _ nodes h]

end

/-- The text that an element shows, less what lies in some elements below it. -/
def Element.textOutside (e : Element) (removed : List Place) : String :=
  String.join ((e.pieces.filter fun x =>
    x.2.1 = shownKind e.tag && !removed.any (·.surrounds x.1)).map (·.2.2))

theorem Element.text_eq (e : Element) : e.text =
    String.join (((Node.textsIn e.children).filter (·.1 = shownKind e.tag)).map (·.2)) := by
  rw [text, ← Node.map_piecesIn [] 0, List.filter_map, List.map_map]
  rfl

theorem Element.text_prune (e : Element) {removed : List Place} (h : ∀ q ∈ removed, q.path ≠ []) :
    (e.prune (removed.map (·.path)).contains).text = e.textOutside removed := by
  have hroot : ∀ q ∈ removed, ¬ q.path <+: [] := fun q hq hin => h q hq (List.prefix_nil.mp hin)
  rw [text_eq, prune, Node.textsIn_pruneIn removed [] 0 e.children hroot, List.filter_map,
    List.map_map, List.filter_filter, textOutside, pieces]
  rfl

/-! ## What lies in an element -/

mutual

theorem Node.pieces_append (up path : List Nat) (node : Node) :
    Node.pieces (up ++ path) node = (Node.pieces path node).map fun x => (up ++ x.1, x.2) := by
  cases node with
  | text kind content => rfl
  | element tag attrs children => exact Node.piecesIn_append up path 0 children

theorem Node.piecesIn_append (up path : List Nat) (pos : Nat) (nodes : List Node) :
    Node.piecesIn (up ++ path) pos nodes =
      (Node.piecesIn path pos nodes).map fun x => (up ++ x.1, x.2) := by
  cases nodes with
  | nil => rfl
  | cons node nodes =>
    rw [Node.piecesIn, Node.piecesIn, List.map_append, List.append_assoc,
      Node.pieces_append up (path ++ [pos]) node, Node.piecesIn_append up path _ nodes]

end

theorem not_surrounds_of_ne {i j : Nat} {rest rest' : List Nat}
    (hq : q.path = path ++ i :: rest) (hne : i ≠ j) :
    ¬ q.surrounds (path ++ j :: rest') = true := by
  rw [Place.surrounds_iff, hq]
  intro h
  have hprefix := h.trans (List.dropLast_prefix _)
  rw [List.prefix_append_right_inj, List.cons_prefix_cons] at hprefix
  exact hne hprefix.1

mutual

theorem Node.filter_surrounds (up : Ascent) (node : Node) :
    ∀ q ∈ Node.places up node, (Node.pieces (pathAlong up) node).filter (q.surrounds ·.1) =
      Node.piecesIn q.path 0 q.here.children := by
  cases node with
  | text kind content => simp [Node.places]
  | element tag attrs children =>
    intro q hq
    rw [Node.places] at hq
    rcases List.mem_cons.mp hq with rfl | hq
    · refine List.filter_eq_self.mpr fun x hx => ?_
      obtain ⟨i, -, rest, hbelow⟩ := Node.path_of_mem_piecesIn (pathAlong up) 0 children x hx
      rw [Place.surrounds_iff, hbelow, List.dropLast_append_of_ne_nil (List.cons_ne_nil i rest)]
      exact List.prefix_append _ _
    · exact Node.filter_surrounds_in ⟨tag, attrs, children⟩ up 0 children q hq

theorem Node.filter_surrounds_in (parent : Element) (up : Ascent) (pos : Nat) (nodes : List Node) :
    ∀ q ∈ Node.placesIn parent up pos nodes,
      (Node.piecesIn (pathAlong up) pos nodes).filter (q.surrounds ·.1) =
        Node.piecesIn q.path 0 q.here.children := by
  cases nodes with
  | nil => simp [Node.placesIn]
  | cons node nodes =>
    intro q hq
    rw [Node.placesIn] at hq
    rw [Node.piecesIn, List.filter_append, ← pathAlong_cons parent]
    rcases List.mem_append.mp hq with hq | hq
    · obtain ⟨rest, hpath⟩ := Node.prefix_path_of_mem ((parent, pos) :: up) node q hq
      rw [pathAlong_cons, List.append_assoc, List.singleton_append] at hpath
      have hbehind : ∀ x ∈ Node.piecesIn (pathAlong up) (pos + 1) nodes,
          ¬ q.surrounds x.1 = true := by
        intro x hx
        obtain ⟨i, hi, rest', hx⟩ := Node.path_of_mem_piecesIn (pathAlong up) (pos + 1) nodes x hx
        rw [hx]
        exact not_surrounds_of_ne hpath.symm (by omega)
      rw [Node.filter_surrounds _ node q hq, List.filter_eq_nil_iff.mpr hbehind, List.append_nil]
    · obtain ⟨i, hi, rest, hpath⟩ := Node.path_of_mem_placesIn parent up (pos + 1) nodes q hq
      have hbefore : ∀ x ∈ Node.pieces (pathAlong ((parent, pos) :: up)) node,
          ¬ q.surrounds x.1 = true := by
        intro x hx
        obtain ⟨rest', hx⟩ := Node.prefix_path_of_mem_pieces _ node x hx
        rw [← hx, pathAlong_cons, List.append_assoc, List.singleton_append]
        exact not_surrounds_of_ne hpath (by omega)
      rw [Node.filter_surrounds_in parent up (pos + 1) nodes q hq,
        List.filter_eq_nil_iff.mpr hbefore, List.nil_append]

end

/-- The pieces of text that an element below surrounds are just those in it. -/
theorem Element.filter_surrounds (e : Element) (hq : q ∈ (Place.mk e []).descendants) :
    e.pieces.filter (q.surrounds ·.1) = q.here.pieces.map fun x => (q.path ++ x.1, x.2) := by
  have hpieces := Node.piecesIn_append q.path [] 0 q.here.children
  rw [List.append_nil] at hpieces
  exact (Node.filter_surrounds_in e [] 0 e.children q hq).trans hpieces

end TrackerSearch.Html
