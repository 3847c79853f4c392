import UiSchema.Proofs.Compose.Places

/-!
# Siblings are isolated

When the node at one place of a tree is replaced by any other node, what is composed from the tree
changes at that place and below it, and nowhere else: no other node sees whether the new one is known
to the registry, well formed or hidden. The nodes above the place keep all their other children.
-/

namespace UiSchema

set_option autoImplicit false

namespace Node

/-- The node with other children. The wrappers around it stay. -/
def mapChildren (f : List Node → List Node) : Node → Node
  | .wrapper ⟨detail, mode, layout, interaction, display, responsive, animation, cssClasses,
      customStyles, accessibility⟩ =>
    .wrapper ⟨mapChildren f detail, mode, layout, interaction, display, responsive, animation,
      cssClasses, customStyles, accessibility⟩
  | .legacy l => .legacy { l with children := f l.children }
  | .descriptor d => .descriptor { d with children := f d.children }

/-- The tree with another node at a place, for what stands there and the wrappers around it. -/
def replaceAt : Node → Position → Node → Node
  | _, [], new => new
  | n, i :: p, new => n.mapChildren (fun nodes => nodes.modify i (fun m => m.replaceAt p new))

variable (f : List Node → List Node)

theorem mapChildren_wrapper (w : Wrapper Node) :
    (wrapper w).mapChildren f = .wrapper { w with detail := w.detail.mapChildren f } := by
  rw [mapChildren]

theorem mapChildren_legacy (l : LegacyNode Node) :
    (legacy l).mapChildren f = .legacy { l with children := f l.children } := by
  rw [mapChildren]

theorem mapChildren_descriptor (d : Descriptor Node) :
    (descriptor d).mapChildren f = .descriptor { d with children := f d.children } := by
  rw [mapChildren]

theorem canonical_mapChildren (n : Node) :
    (n.mapChildren f).canonical = { n.canonical with children := f n.canonical.children } := by
  induction n using Node.induction with
  | wrapper w ih => rw [mapChildren_wrapper, canonical_wrapper, canonical_wrapper, ih]
  | legacy l _ =>
    rw [mapChildren_legacy, canonical_legacy, canonical_legacy]
    rfl
  | descriptor d _ => rw [mapChildren_descriptor, canonical_descriptor, canonical_descriptor]

end Node

namespace ComposedNode

/-- The node without its children. -/
def bare (n : ComposedNode) : ComposedNode := ⟨n.position, n.name, n.body, n.frame, []⟩

/-- The nodes agree in all but the child, if there is one, that leads to the place. -/
structure SameOutside (p : Position) (n m : ComposedNode) : Prop where
  bare : m.bare = n.bare
  length : m.children.length = n.children.length
  children : ∀ i, ¬n.position ++ [i] <+: p → m.children[i]? = n.children[i]?

theorem SameOutside.rel_refl (p : Position) (n : Option ComposedNode) :
    Option.Rel (SameOutside p) n n := by
  cases n with
  | none => exact .none
  | some n => exact .some ⟨rfl, rfl, fun _ _ => rfl⟩

end ComposedNode

namespace Composer

variable (c : Composer)

/-- A placeholder has no children, whatever is composed below it, and any other node has them all. -/
theorem close_cases (position : Position) (frame : Frame) (d : Descriptor Node) :
    (∀ children children',
      c.close position frame d children = c.close position frame d children') ∨
    ∀ children, (c.close position frame d children).children = children := by
  unfold close
  cases hkind : (NodeBody.ofDescriptor c.registry frame.style d).kind.isPlaceholder with
  | true => exact Or.inl fun _ _ => by simp only [hkind, if_true]
  | false => exact Or.inr fun _ => if_neg (ne_true_of_eq_false hkind)

/-- With other children a node is composed to the same, if it has none to show, or to the same but
for its children, which are composed in one frame. -/
theorem composeAt_mapChildren (f : List Node → List Node) (position : Position) (frame : Frame)
    (n : Node) :
    c.composeAt position frame (n.mapChildren f) = c.composeAt position frame n ∨
    (c.composeAt position frame (n.mapChildren f)).bare = (c.composeAt position frame n).bare ∧
      ∃ inner,
        (c.composeAt position frame n).children =
          c.composeAll position inner 0 n.canonical.children ∧
        (c.composeAt position frame (n.mapChildren f)).children =
          c.composeAll position inner 0 (f n.canonical.children) := by
  induction n using Node.induction generalizing frame with
  | wrapper w ih =>
    rw [Node.mapChildren_wrapper, composeAt_wrapper, composeAt_wrapper, Node.canonical_mapChildren,
      Node.canonical_wrapper]
    have hhides : c.hides { w with detail := w.detail.mapChildren f } = c.hides w := rfl
    rw [hhides]
    split
    · exact Or.inl rfl
    · exact ih _
  | legacy l _ =>
    rw [Node.mapChildren_legacy, composeAt_legacy, composeAt_legacy]
    rcases c.close_cases position frame l.normalize with hnone | hall
    · exact Or.inl (hnone _ _)
    · exact Or.inr ⟨rfl, _, hall _, hall _⟩
  | descriptor d _ =>
    rw [Node.mapChildren_descriptor, composeAt_descriptor, composeAt_descriptor]
    rcases c.close_cases position frame d with hnone | hall
    · exact Or.inl (hnone _ _)
    · exact Or.inr ⟨rfl, _, hall _, hall _⟩

theorem getElem?_composeAll (position : Position) (frame : Frame) (nodes : List Node) (i : Nat) :
    (c.composeAll position frame 0 nodes)[i]? =
      nodes[i]?.map (fun n => c.composeAt (position ++ [i]) frame n) := by
  rw [composeAll_eq_mapIdx, List.getElem?_mapIdx, Nat.zero_add]

/-- Below a place where a node is replaced further down, all places but that one and those below it
keep their nodes. -/
theorem rel_at?_replaceAt (new : Node) {p q : Position} (h : ¬p <+: q) (position : Position)
    (frame : Frame) (n : Node) :
    Option.Rel (ComposedNode.SameOutside (position ++ p))
      ((c.composeAt position frame n).at? q)
      ((c.composeAt position frame (n.replaceAt p new)).at? q) := by
  induction p generalizing q position frame n with
  | nil => exact absurd List.nil_prefix h
  | cons i p ih =>
    rw [Node.replaceAt]
    rcases c.composeAt_mapChildren (fun nodes => nodes.modify i (fun m => m.replaceAt p new))
      position frame n with heq | ⟨hbare, inner, hold, hnew⟩
    · rw [heq]
      exact ComposedNode.SameOutside.rel_refl _ _
    · cases q with
      | nil =>
        refine .some ⟨hbare, ?_, fun j hj => ?_⟩
        · rw [hold, hnew, composeAll_eq_mapIdx, composeAll_eq_mapIdx, List.length_mapIdx,
            List.length_mapIdx, List.length_modify]
        · rw [position_composeAt] at hj
          have hij : i ≠ j := by
            rintro rfl
            exact hj ⟨p, List.append_assoc ..⟩
          rw [hold, hnew, getElem?_composeAll, getElem?_composeAll, List.getElem?_modify_ne _ _ hij]
      | cons j q =>
        rw [ComposedNode.at?, ComposedNode.at?, Position.descend?, Position.descend?, hold, hnew,
          getElem?_composeAll, getElem?_composeAll]
        -- only the child that leads to the place is another one, and below it the place is shorter
        by_cases hij : i = j
        · subst hij
          rw [List.getElem?_modify_eq]
          cases n.canonical.children[i]? with
          | none => exact .none
          | some m =>
            rw [List.cons_prefix_cons, not_and] at h
            have hbelow := ih (h rfl) (position ++ [i]) inner m
            rwa [List.append_assoc] at hbelow
        · rw [List.getElem?_modify_ne _ _ hij]
          exact ComposedNode.SameOutside.rel_refl _ _

/-- The trees have the same nodes, but at the key of the place and at the keys below it. -/
def AgreeOutside (p : Position) (root root' : ComposedNode) : Prop :=
  ∀ key, key ≠ p.key → ¬Position.KeyBelow p.key key →
    Option.Rel (ComposedNode.SameOutside p) (root.find? key) (root'.find? key)

/-- Whatever a node is replaced by, in a composed tree nothing changes but what stands at its place
and below it. -/
theorem compose_replaced (tree new : Node) (p : Position) :
    AgreeOutside p (c.compose tree) (c.compose (tree.replaceAt p new)) := by
  intro key hkey hbelow
  by_cases hplace : ∃ q : Position, key = q.key
  · obtain ⟨q, rfl⟩ := hplace
    rw [find?_key, find?_key]
    refine c.rel_at?_replaceAt new ?_ [] {} tree
    rintro ⟨rest, rfl⟩
    cases rest with
    | nil => exact hkey (congrArg Position.key (List.append_nil p))
    | cons i rest => exact hbelow (Position.keyBelow_iff.mpr ⟨i, rest, rfl⟩)
  · have hnone (root : Node) : (c.compose root).find? key = none := by
      rw [Option.eq_none_iff_forall_ne_some]
      intro n hn
      obtain ⟨q, hq, _⟩ := at?_of_find? hn
      exact hplace ⟨q, hq⟩
    rw [hnone, hnone]
    exact .none

end Composer

end UiSchema
