import Mathlib.Data.List.Forall2
import UiSchema.Proofs.Node.Tree

/-!
# Other encodings of a tree

A tree is encoded anew when older nodes give way to the descriptors that they stand for and when
nodes are put into wrappers without hints, at any depth and any number of times. What the nodes of
the tree stand for stays the same, their children apart, which are encoded anew themselves.
-/

namespace UiSchema

set_option autoImplicit false

/-- The descriptor without its children. -/
def Descriptor.bare {ν : Type} (d : Descriptor ν) : Descriptor ν := { d with children := [] }

/-- The second tree is the first with some older nodes normalised, and with wrappers that have no
hints around some nodes. -/
inductive Node.Reencoded : Node → Node → Prop
  | wrapped {n n' : Node} : Reencoded n n' → Reencoded n (.wrapper (.wrap n'))
  | normalized (l : LegacyNode Node) {children : List Node} :
      List.Forall₂ Reencoded l.children children →
      Reencoded (.legacy l) (.descriptor { l.normalize with children := children })
  | wrapper (w : Wrapper Node) {detail : Node} :
      Reencoded w.detail detail → Reencoded (.wrapper w) (.wrapper { w with detail := detail })
  | legacy (l : LegacyNode Node) {children : List Node} :
      List.Forall₂ Reencoded l.children children →
      Reencoded (.legacy l) (.legacy { l with children := children })
  | descriptor (d : Descriptor Node) {children : List Node} :
      List.Forall₂ Reencoded d.children children →
      Reencoded (.descriptor d) (.descriptor { d with children := children })

namespace Node

/-- Induction over the new encoding of a tree, with the hypothesis for the parts of either kind. -/
theorem Reencoded.induction {motive : Node → Node → Prop}
    (wrapped : ∀ n n', motive n n' → motive n (.wrapper (.wrap n')))
    (normalized : ∀ (l : LegacyNode Node) children, List.Forall₂ motive l.children children →
      motive (.legacy l) (.descriptor { l.normalize with children := children }))
    (wrapper : ∀ (w : Wrapper Node) detail, Reencoded w.detail detail → motive w.detail detail →
      motive (.wrapper w) (.wrapper { w with detail := detail }))
    (legacy : ∀ (l : LegacyNode Node) children, List.Forall₂ motive l.children children →
      motive (.legacy l) (.legacy { l with children := children }))
    (descriptor : ∀ (d : Descriptor Node) children, List.Forall₂ motive d.children children →
      motive (.descriptor d) (.descriptor { d with children := children }))
    {n n' : Node} (h : Reencoded n n') : motive n n' := by
  -- the induction is on the new tree, in which every case of the relation makes the tree smaller
  have hchildren {nodes nodes' : List Node} (hnodes : List.Forall₂ Reencoded nodes nodes')
      (ih : ∀ n' ∈ nodes', ∀ {n}, Reencoded n n' → motive n n') :
      List.Forall₂ motive nodes nodes' := by
    induction hnodes with
    | nil => exact .nil
    | cons hfirst _ ihrest =>
      exact .cons (ih _ List.mem_cons_self hfirst)
        (ihrest (fun m hm => ih m (List.mem_cons_of_mem _ hm)))
  induction n' using Node.induction generalizing n with
  | wrapper w' ih =>
    cases h with
    | wrapped h => exact wrapped _ _ (ih h)
    | wrapper w h => exact wrapper w _ h (ih h)
  | legacy l' ih =>
    cases h with
    | legacy l h => exact legacy l _ (hchildren h ih)
  | descriptor d' ih =>
    cases h with
    | normalized l h => exact normalized l _ (hchildren h ih)
    | descriptor d h => exact descriptor d _ (hchildren h ih)

/-- A tree is encoded as it is itself. -/
theorem Reencoded.refl (n : Node) : Reencoded n n := by
  induction n using Node.induction with
  | wrapper w ih => exact .wrapper w ih
  | legacy l ih => exact .legacy l (List.forall₂_same.mpr ih)
  | descriptor d ih => exact .descriptor d (List.forall₂_same.mpr ih)

theorem preorderAll_bare {nodes nodes' : List Node}
    (h : List.Forall₂ (fun n n' => n'.preorder.map Descriptor.bare = n.preorder.map Descriptor.bare)
      nodes nodes') :
    (preorderAll nodes').map Descriptor.bare = (preorderAll nodes).map Descriptor.bare := by
  induction h with
  | nil => rfl
  | cons hfirst _ ih => simp only [preorderAll, List.map_append, hfirst, ih]

namespace Reencoded

variable {n n' : Node}

/-- Apart from their children, the nodes of both trees stand for the same descriptors. -/
theorem preorder_bare (h : Reencoded n n') :
    n'.preorder.map Descriptor.bare = n.preorder.map Descriptor.bare := by
  refine Reencoded.induction
    (motive := fun n n' => n'.preorder.map Descriptor.bare = n.preorder.map Descriptor.bare)
    ?wrapped ?normalized ?wrapper ?legacy ?descriptor h
  case wrapped =>
    intro n n' ih
    rwa [preorder_wrapper]
  case normalized =>
    intro l children ih
    rw [preorder_descriptor, preorder_legacy, List.map_cons, List.map_cons, preorderAll_bare ih]
    rfl
  case wrapper =>
    intro w detail _ ih
    rwa [preorder_wrapper, preorder_wrapper]
  case legacy =>
    intro l children ih
    rw [preorder_legacy, preorder_legacy, List.map_cons, List.map_cons, preorderAll_bare ih]
    rfl
  case descriptor =>
    intro d children ih
    rw [preorder_descriptor, preorder_descriptor, List.map_cons, List.map_cons,
      preorderAll_bare ih]
    rfl

theorem canonical_name (h : Reencoded n n') : n'.canonical.name = n.canonical.name := by
  have hbare := h.preorder_bare
  rw [preorder_eq_canonical n, preorder_eq_canonical n', List.map_cons, List.map_cons] at hbare
  have hname := congrArg Descriptor.name (List.cons.inj hbare).1
  exact hname

end Reencoded

end Node

end UiSchema
