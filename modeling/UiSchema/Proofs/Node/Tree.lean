import UiSchema.Registry.Basic

/-!
# The tree of nodes

Induction over nodes has one case for each of the three encodings, with the hypothesis for the
wrapped node or for every child. The nodes of a tree are listed before those below them, a wrapper
counting as the node inside it.
-/

namespace UiSchema.Node

set_option autoImplicit false

/-- Induction over nodes, with the hypothesis for what a wrapper holds and for every child. -/
@[elab_as_elim]
theorem induction {motive : Node → Prop}
    (wrapper : ∀ w : Wrapper Node, motive w.detail → motive (.wrapper w))
    (legacy : ∀ l : LegacyNode Node, (∀ n ∈ l.children, motive n) → motive (.legacy l))
    (descriptor : ∀ d : Descriptor Node, (∀ n ∈ d.children, motive n) → motive (.descriptor d))
    (n : Node) : motive n := by
  refine @Node.rec motive (fun w => motive w.detail) (fun l => ∀ n ∈ l.children, motive n)
    (fun d => ∀ n ∈ d.children, motive n) (fun nodes => ∀ n ∈ nodes, motive n)
    wrapper legacy descriptor (fun _ _ _ _ _ _ _ _ _ _ ih => ih) (fun _ _ _ _ _ _ ih => ih)
    (fun _ _ _ _ _ _ ih => ih) ?_ ?_ n
  · intro n hn
    cases hn
  · intro first rest hfirst hrest n hn
    rcases List.mem_cons.mp hn with rfl | hn
    · exact hfirst
    · exact hrest n hn

@[simp] theorem canonical_wrapper (w : Wrapper Node) : (wrapper w).canonical = w.detail.canonical :=
  by rw [canonical]

@[simp] theorem canonical_legacy (l : LegacyNode Node) : (legacy l).canonical = l.normalize := by
  rw [canonical]

@[simp] theorem canonical_descriptor (d : Descriptor Node) : (descriptor d).canonical = d := by
  rw [canonical]

theorem preorderAll_eq_flatMap (nodes : List Node) :
    preorderAll nodes = nodes.flatMap preorder := by
  induction nodes with
  | nil => rfl
  | cons n rest ih => simp only [preorderAll, ih, List.flatMap_cons]

@[simp] theorem preorder_wrapper (w : Wrapper Node) : (wrapper w).preorder = w.detail.preorder := by
  rw [preorder]

@[simp] theorem preorder_legacy (l : LegacyNode Node) :
    (legacy l).preorder = l.normalize :: preorderAll l.children := by
  rw [preorder]

@[simp] theorem preorder_descriptor (d : Descriptor Node) :
    (descriptor d).preorder = d :: preorderAll d.children := by
  rw [preorder]

theorem preorder_eq_canonical (n : Node) :
    n.preorder = n.canonical :: n.canonical.children.flatMap preorder := by
  induction n using Node.induction with
  | wrapper w ih => rw [preorder_wrapper, canonical_wrapper, ih]
  | legacy l _ =>
    rw [preorder_legacy, canonical_legacy, preorderAll_eq_flatMap]
    rfl
  | descriptor d _ => rw [preorder_descriptor, canonical_descriptor, preorderAll_eq_flatMap]

end UiSchema.Node
