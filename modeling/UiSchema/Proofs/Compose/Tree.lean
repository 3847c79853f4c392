import UiSchema.Compose.Basic
import UiSchema.Proofs.Node.Tree

/-!
# Composing one node

A wrapper either hides its node or passes it its frame, and any other node is closed as the
descriptor that it stands for, over its composed children.
-/

namespace UiSchema

set_option autoImplicit false

namespace ComposedNode

theorem preorderAll_eq_flatMap (nodes : List ComposedNode) :
    preorderAll nodes = nodes.flatMap preorder := by
  induction nodes with
  | nil => rfl
  | cons n rest ih => simp only [preorderAll, ih, List.flatMap_cons]

theorem mem_preorder {m n : ComposedNode} :
    m ∈ n.preorder ↔ m = n ∨ ∃ child ∈ n.children, m ∈ child.preorder := by
  obtain ⟨position, name, body, frame, children⟩ := n
  rw [preorder, List.mem_cons, preorderAll_eq_flatMap, List.mem_flatMap]
  rfl

end ComposedNode

theorem NodeBody.name_eq_of_kind_ne {b : NodeBody} (h : b.kind ≠ .component) (r : Registry)
    (d : Descriptor Node) : b.name r d = d.name := by
  unfold NodeBody.name
  split
  · rename_i hkind
    exact absurd hkind h
  · rfl

namespace Composer

variable (c : Composer) (position : Position) (frame : Frame)

theorem composeAll_eq_mapIdx (i : Nat) (nodes : List Node) :
    c.composeAll position frame i nodes =
      nodes.mapIdx (fun k n => c.composeAt (position ++ [i + k]) frame n) := by
  induction nodes generalizing i with
  | nil => rfl
  | cons n rest ih =>
    simp only [composeAll, ih, List.mapIdx_cons, Nat.add_zero, Nat.add_assoc, Nat.add_comm 1]

theorem composeAt_wrapper (w : Wrapper Node) :
    c.composeAt position frame (.wrapper w) =
      if c.hides w then ⟨position, w.detail.canonical.name, { kind := .hidden }, {}, []⟩
      else c.composeAt position (frame.within c.viewport w) w.detail := by
  rw [composeAt]

theorem composeAt_legacy (l : LegacyNode Node) :
    c.composeAt position frame (.legacy l) =
      c.close position frame l.normalize
        (c.composeAll position frame.inherited 0 l.children) := by
  rw [composeAt]

theorem composeAt_descriptor (d : Descriptor Node) :
    c.composeAt position frame (.descriptor d) =
      c.close position frame d (c.composeAll position frame.inherited 0 d.children) := by
  rw [composeAt]

end Composer

end UiSchema
