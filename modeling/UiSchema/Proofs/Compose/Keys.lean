import UiSchema.Compose.Walk
import UiSchema.Proofs.Compose.Cascade
import UiSchema.Proofs.Text.Dotted

/-!
# Node keys are positions

The key of a node is the text of its place in the tree, and no two places have the same text. A walk
with a stack visits a node, and then the whole of one child after the other, so it meets every place
once, and the first node with a key is the only one.
-/

namespace UiSchema

set_option autoImplicit false

namespace Position

theorem key_eq (p : Position) :
    p.key = String.ofList ("root".toList ++ p.flatMap (fun i => '.' :: Nat.toDigits 10 i)) := rfl

theorem key_concat (p : Position) (i : Nat) :
    key (p ++ [i]) = p.key ++ "." ++ String.ofList (Nat.toDigits 10 i) := by
  have hdot : "." = String.ofList ['.'] := rfl
  simp only [key_eq, hdot, List.flatMap_append, List.flatMap_singleton, ← String.ofList_append,
    List.append_assoc, List.singleton_append]

/-- The parts of a key: the root, and the digits of every child on the way down. -/
def segments (p : Position) : List (List Char) :=
  "root".toList :: p.map (fun i => Nat.toDigits 10 i)

theorem key_eq_join (p : Position) : p.key = String.ofList (Text.join '.' p.segments) := by
  rw [segments, Text.join_cons_map]
  rfl

theorem segments_ne_nil (p : Position) : p.segments ≠ [] := List.cons_ne_nil _ _

theorem dot_not_mem_segments (p : Position) : ∀ s ∈ p.segments, '.' ∉ s := by
  refine List.forall_mem_cons.mpr ⟨by decide, ?_⟩
  rw [List.forall_mem_map]
  exact fun i _ => Text.dot_not_mem_digits i

theorem map_digits_inj {p q : Position} :
    p.map (fun i => Nat.toDigits 10 i) = q.map (fun i => Nat.toDigits 10 i) ↔ p = q :=
  List.map_inj_right fun _ _ => Text.digits_injective

theorem key_injective {p q : Position} (h : p.key = q.key) : p = q := by
  rw [key_eq_join, key_eq_join, String.ofList_inj] at h
  have hcut := Text.join_injective p.segments_ne_nil q.segments_ne_nil p.dot_not_mem_segments
    q.dot_not_mem_segments h
  exact map_digits_inj.mp (List.cons.inj hcut).2

end Position

theorem NodeKind.isPlaceholder_iff {kind : NodeKind} :
    kind.isPlaceholder = true ↔ ∃ reason, kind = .placeholder reason := by
  cases kind <;> simp [isPlaceholder]

namespace ComposedNode

/-- Induction over composed nodes, with the hypothesis for every child. -/
@[elab_as_elim]
theorem induction {motive : ComposedNode → Prop}
    (node : ∀ n : ComposedNode, (∀ child ∈ n.children, motive child) → motive n)
    (n : ComposedNode) : motive n := by
  refine @ComposedNode.rec motive (fun nodes => ∀ n ∈ nodes, motive n)
    (fun position name body frame children ih => node ⟨position, name, body, frame, children⟩ ih)
    ?_ ?_ n
  · intro n hn
    cases hn
  · intro first rest hfirst hrest n hn
    rcases List.mem_cons.mp hn with rfl | hn
    · exact hfirst
    · exact hrest n hn

theorem preorder_eq_cons (n : ComposedNode) : n.preorder = n :: n.children.flatMap preorder := by
  obtain ⟨position, name, body, frame, children⟩ := n
  rw [preorder, preorderAll_eq_flatMap]
  rfl

theorem mem_preorder_iff_at? {n m : ComposedNode} :
    m ∈ n.preorder ↔ ∃ p, n.at? p = some m := by
  induction n using ComposedNode.induction with
  | node n ih =>
    rw [mem_preorder]
    constructor
    · rintro (rfl | ⟨child, hchild, hm⟩)
      · exact ⟨[], rfl⟩
      · obtain ⟨p, hp⟩ := (ih child hchild).mp hm
        obtain ⟨i, hi⟩ := List.getElem?_of_mem hchild
        refine ⟨i :: p, ?_⟩
        rw [at?, Position.descend?, hi]
        exact hp
    · rintro ⟨p, hp⟩
      cases p with
      | nil => exact Or.inl (Option.some.inj hp).symm
      | cons i p =>
        rw [at?, Position.descend?, Option.bind_eq_some_iff] at hp
        obtain ⟨child, hchild, hp⟩ := hp
        have hmem := List.mem_of_getElem? hchild
        exact Or.inr ⟨child, hmem, (ih child hmem).mpr ⟨p, hp⟩⟩

/-- The node stands for its descriptor: it is neither hidden nor a placeholder. -/
def Shown (n : ComposedNode) : Prop :=
  n.kind ≠ .hidden ∧ ∀ reason, n.kind ≠ .placeholder reason

/-- Every node stands at its position: the children of a node are numbered below it. -/
inductive Placed : ComposedNode → Prop
  | intro {n : ComposedNode} :
      (∀ i child, n.children[i]? = some child → child.position = n.position ++ [i]) →
      (∀ child ∈ n.children, Placed child) → Placed n

theorem Placed.extends {n : ComposedNode} (h : n.Placed) :
    ∀ m ∈ n.preorder, n.position <+: m.position := by
  induction h with
  | @intro n hchildren _ ih =>
    intro m hm
    rcases mem_preorder.mp hm with rfl | ⟨child, hchild, hm⟩
    · exact List.prefix_rfl
    · obtain ⟨i, hi⟩ := List.getElem?_of_mem hchild
      have hbelow := ih child hchild m hm
      rw [hchildren i child hi] at hbelow
      exact (List.prefix_append _ _).trans hbelow

theorem Placed.nodup_positions {n : ComposedNode} (h : n.Placed) :
    (n.preorder.map position).Nodup := by
  induction h with
  | @intro n hchildren hplaced ih =>
    have hbelow {i : Nat} {child m : ComposedNode} (hi : n.children[i]? = some child)
        (hm : m ∈ child.preorder) : n.position ++ [i] <+: m.position := by
      rw [← hchildren i child hi]
      exact (hplaced child (List.mem_of_getElem? hi)).extends m hm
    rw [preorder_eq_cons, List.map_cons, List.nodup_cons, List.map_flatMap]
    constructor
    -- what is below a node has a longer position
    · intro hmem
      obtain ⟨child, hchild, hmem⟩ := List.mem_flatMap.mp hmem
      obtain ⟨m, hm, heq⟩ := List.mem_map.mp hmem
      obtain ⟨i, hi⟩ := List.getElem?_of_mem hchild
      have hlength := (hbelow hi hm).length_le
      rw [heq, List.length_append, List.length_singleton] at hlength
      omega
    -- and what is below two of its children parts at their numbers
    · rw [List.Nodup, List.pairwise_flatMap]
      refine ⟨ih, List.pairwise_iff_getElem.mpr (fun i j hi hj hij => ?_)⟩
      intro p hp q hq heq
      obtain ⟨m, hm, rfl⟩ := List.mem_map.mp hp
      obtain ⟨m', hm', rfl⟩ := List.mem_map.mp hq
      have hleft := hbelow (List.getElem?_eq_getElem hi) hm
      have hright := hbelow (List.getElem?_eq_getElem hj) hm'
      rw [← heq] at hright
      have hsame := List.prefix_of_prefix_length_le hleft hright (by simp)
      have hlast := (List.prefix_append_right_inj _).mp hsame
      rw [List.cons_prefix_cons] at hlast
      omega

end ComposedNode

namespace Walk

theorem next_concat (stack : List ComposedNode) (n : ComposedNode) :
    next ⟨stack ++ [n]⟩ = some (n, ⟨stack ++ n.children.reverse⟩) := by
  rw [next, List.getLast?_concat, List.dropLast_concat, Option.map_some]

theorem Visits.unique {w : Walk} {nodes others : List ComposedNode} (h : w.Visits nodes)
    (h' : w.Visits others) : nodes = others := by
  induction h generalizing others with
  | ended hnone =>
    cases h' with
    | ended _ => rfl
    | visit hnext _ => rw [hnone] at hnext; cases hnext
  | visit hnext _ ih =>
    cases h' with
    | ended hnone => rw [hnone] at hnext; cases hnext
    | visit hnext' h' =>
      rw [hnext] at hnext'
      cases hnext'
      rw [ih h']

/-- Trees pushed in reverse are walked in order before what lies under them on the stack. -/
theorem visits_all {trees stack nodes : List ComposedNode}
    (h : ∀ n ∈ trees, ∀ stack nodes, Visits ⟨stack⟩ nodes →
      Visits ⟨stack ++ [n]⟩ (n.preorder ++ nodes))
    (hstack : Visits ⟨stack⟩ nodes) :
    Visits ⟨stack ++ trees.reverse⟩ (trees.flatMap ComposedNode.preorder ++ nodes) := by
  induction trees with
  | nil => rwa [List.reverse_nil, List.append_nil, List.flatMap_nil, List.nil_append]
  | cons n rest ih =>
    obtain ⟨hn, hrest⟩ := List.forall_mem_cons.mp h
    rw [List.reverse_cons, ← List.append_assoc stack, List.flatMap_cons,
      List.append_assoc _ _ nodes]
    exact hn _ _ (ih hrest)

theorem visits_tree (n : ComposedNode) (stack nodes : List ComposedNode)
    (hstack : Visits ⟨stack⟩ nodes) : Visits ⟨stack ++ [n]⟩ (n.preorder ++ nodes) := by
  induction n using ComposedNode.induction generalizing stack nodes with
  | node n ih =>
    rw [ComposedNode.preorder_eq_cons, List.cons_append]
    -- the children lie on top of all that was on the stack below the node
    exact .visit (next_concat stack n) (visits_all ih hstack)

theorem visits_walk_iff {n : ComposedNode} {nodes : List ComposedNode} :
    n.walk.Visits nodes ↔ nodes = n.preorder := by
  have hwalk : n.walk.Visits n.preorder := by
    have htree := visits_tree n [] [] (.ended rfl)
    rwa [List.append_nil] at htree
  exact ⟨fun h => h.unique hwalk, fun h => h ▸ hwalk⟩

end Walk

namespace Composer

variable {c : Composer}

theorem position_composeAt (p : Position) (frame : Frame) (n : Node) :
    (c.composeAt p frame n).position = p := by
  rw [composeAt_eq]
  split
  · rfl
  · rfl

theorem placed_composeAt (p : Position) (frame : Frame) (n : Node) :
    (c.composeAt p frame n).Placed := by
  have hchild {p : Position} {frame : Frame} {n : Node} (i : Nat) (child : ComposedNode)
      (hi : (c.composeAt p frame n).children[i]? = some child) :
      child.position = (c.composeAt p frame n).position ++ [i] := by
    obtain ⟨m, _, rfl⟩ := child_of_composeAt hi
    rw [position_composeAt, position_composeAt]
  generalize hx : c.composeAt p frame n = x
  induction x using ComposedNode.induction generalizing p frame n with
  | node x ih =>
    subst hx
    refine .intro hchild (fun child hmem => ?_)
    obtain ⟨i, hi⟩ := List.getElem?_of_mem hmem
    obtain ⟨m, _, heq⟩ := child_of_composeAt hi
    exact ih child hmem _ _ m heq.symm

/-- A node is hidden by a wrapper and in no other way. -/
theorem close_kind_ne_hidden (p : Position) (frame : Frame) (d : Descriptor Node)
    (children : List ComposedNode) : (c.close p frame d children).kind ≠ .hidden := by
  change (NodeBody.ofDescriptor c.registry frame.style d).kind ≠ .hidden
  unfold NodeBody.ofDescriptor NodeBody.ofForm NodeBody.ofTable NodeBody.ofComponent
  repeat' split
  all_goals exact nofun

theorem children_close (p : Position) (frame : Frame) (d : Descriptor Node)
    (children : List ComposedNode) :
    (c.close p frame d children).children =
      if (c.close p frame d children).kind.isPlaceholder then [] else children := rfl

theorem shown_close_iff {p : Position} {frame : Frame} {d : Descriptor Node}
    {children : List ComposedNode} :
    (c.close p frame d children).Shown ↔
      (c.close p frame d children).kind.isPlaceholder = false := by
  rw [ComposedNode.Shown, ← Bool.not_eq_true, NodeKind.isPlaceholder_iff, not_exists]
  exact and_iff_right (c.close_kind_ne_hidden p frame d children)

/-- Hidden nodes and placeholders have no children, and all others have those of the descriptor. -/
theorem children_composeAt (p : Position) (frame : Frame) (n : Node) :
    (¬(c.composeAt p frame n).Shown → (c.composeAt p frame n).children = []) ∧
      ((c.composeAt p frame n).Shown →
        (c.composeAt p frame n).children.length = n.canonical.children.length) := by
  rw [composeAt_eq]
  split
  · exact ⟨fun _ => rfl, fun hshown => absurd rfl hshown.1⟩
  · rw [shown_close_iff, Bool.not_eq_false, children_close]
    refine ⟨fun hkind => if_pos hkind, fun hkind => ?_⟩
    rw [hkind, if_neg Bool.false_ne_true, composeAll_eq_mapIdx, List.length_mapIdx]

/-- Places are numbered by the keys of a composed tree, and all its nodes are found by them. -/
structure KeyedByPosition (tree : Node) (root : ComposedNode) : Prop where
  root_key : root.key = "root"
  child_key : ∀ n ∈ root.preorder, ∀ i child, n.children[i]? = some child →
    child.key = n.key ++ "." ++ String.ofList (Nat.toDigits 10 i)
  nodup_keys : (root.preorder.map ComposedNode.key).Nodup
  /-- the nodes that are walked over are those at the places of the tree -/
  mem_iff : ∀ n, n ∈ root.preorder ↔ ∃ p, root.at? p = some n
  visits : ∀ nodes, root.walk.Visits nodes ↔ nodes = root.preorder
  /-- a node comes before its children, and each of them with all below it before the next -/
  order : ∀ n ∈ root.preorder, n.preorder = n :: n.children.flatMap ComposedNode.preorder
  find_iff : ∀ key n, root.find? key = some n ↔ n ∈ root.preorder ∧ n.key = key
  find_none : ∀ key, (∀ n ∈ root.preorder, n.key ≠ key) → root.find? key = none
  children : ∀ p n, root.at? p = some n → n.key = p.key ∧ ∃ source, tree.at? p = some source ∧
    (¬n.Shown → n.children = []) ∧
    (n.Shown → n.children.length = source.canonical.children.length)

theorem nodup_keys_composeAt (p : Position) (frame : Frame) (n : Node) :
    ((c.composeAt p frame n).preorder.map ComposedNode.key).Nodup := by
  have hpositions := (placed_composeAt (c := c) p frame n).nodup_positions
  rw [List.Nodup, List.pairwise_map] at hpositions ⊢
  exact hpositions.imp (fun hne heq => hne (Position.key_injective heq))

/-- The nodes of every composed tree are keyed by their positions. -/
theorem compose_keyedByPosition (c : Composer) (tree : Node) :
    KeyedByPosition tree (c.compose tree) := by
  have hnodup : ((c.compose tree).preorder.map ComposedNode.key).Nodup :=
    nodup_keys_composeAt [] {} tree
  have hfind : ∀ key n, (c.compose tree).find? key = some n ↔
      n ∈ (c.compose tree).preorder ∧ n.key = key :=
    fun _ _ => Dict.find?_eq_some_of_nodup hnodup
  constructor
  · change (c.composeAt [] {} tree).position.key = "root"
    rw [position_composeAt]
    rfl
  · intro n hn i child hchild
    obtain ⟨p, hp⟩ := ComposedNode.mem_preorder_iff_at?.mp hn
    obtain ⟨source, inherited, _, _, rfl⟩ := source_of_at? hp
    obtain ⟨m, _, rfl⟩ := child_of_composeAt hchild
    simp only [ComposedNode.key, position_composeAt, Position.key_concat]
  · exact hnodup
  · exact fun n => ComposedNode.mem_preorder_iff_at?
  · exact fun nodes => Walk.visits_walk_iff
  · exact fun n _ => n.preorder_eq_cons
  · exact hfind
  · intro key hkey
    rw [Option.eq_none_iff_forall_not_mem]
    intro n hn
    obtain ⟨hmem, hn⟩ := (hfind key n).mp hn
    exact hkey n hmem hn
  · intro p n hn
    obtain ⟨source, inherited, hsource, _, rfl⟩ := source_of_at? hn
    obtain ⟨hcovered, hshown⟩ := children_composeAt (c := c) p { style := inherited } source
    refine ⟨?_, source, hsource, hcovered, hshown⟩
    rw [ComposedNode.key, position_composeAt]

end Composer

end UiSchema
