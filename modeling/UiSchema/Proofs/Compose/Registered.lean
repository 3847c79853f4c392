import UiSchema.Proofs.Compose.Tree
import UiSchema.Proofs.Registry.Registration

/-!
# Registered trees are rendered

A composed tree has a placeholder for an unknown component only where a name has no entry. Once a
tree was registered as a whole all its names have entries for good, and what is left of placeholders
are forms and tables that their properties do not describe.
-/

namespace UiSchema

set_option autoImplicit false

/-- If the node is a placeholder, it stands for a form or a table and not for an unknown name. -/
def ComposedNode.Resolved (n : ComposedNode) : Prop :=
  ∀ reason, n.kind = .placeholder reason →
    reason ≠ .unknownComponent ∧ (n.name = "form" ∨ n.name = "table")

namespace NodeBody

variable {r : Registry} {d : Descriptor Node} {reason : PlaceholderReason} {style : Style}

theorem ofComponent_kind (h : r.contains d.name = true) :
    (ofComponent r style d).kind = .component := by
  obtain ⟨e, he⟩ := Option.isSome_iff_exists.mp h
  simp [ofComponent, output?, Registry.render?, Registry.resolve?, he]

theorem ofForm_reason (h : (ofForm r style d).kind = .placeholder reason) :
    reason ≠ .unknownComponent := by
  unfold ofForm at h
  rintro rfl
  repeat' split at h
  all_goals cases h

theorem ofTable_reason (h : (ofTable r style d).kind = .placeholder reason) :
    reason ≠ .unknownComponent := by
  unfold ofTable at h
  rintro rfl
  repeat' split at h
  all_goals cases h

theorem ofDescriptor_placeholder (hname : r.contains d.name = true)
    (h : (ofDescriptor r style d).kind = .placeholder reason) :
    reason ≠ .unknownComponent ∧ (d.name = "form" ∨ d.name = "table") := by
  unfold ofDescriptor at h
  split at h
  · cases h
  · split at h
    · rename_i hform
      exact ⟨ofForm_reason h, Or.inl hform⟩
    · split at h
      · rename_i htable
        exact ⟨ofTable_reason h, Or.inr htable⟩
      · rw [ofComponent_kind hname] at h
        cases h

end NodeBody

namespace Composer

variable {c : Composer}

theorem resolved_close {d : Descriptor Node} (hname : c.registry.contains d.name = true)
    (position : Position) (frame : Frame) {children : List ComposedNode}
    (hchildren : ∀ child ∈ children, ∀ m ∈ child.preorder, m.Resolved) :
    ∀ m ∈ (c.close position frame d children).preorder, m.Resolved := by
  intro m hm
  rcases ComposedNode.mem_preorder.mp hm with rfl | ⟨child, hchild, hm⟩
  · intro reason h
    have hcomponent : (NodeBody.ofDescriptor c.registry frame.style d).kind ≠ .component :=
      fun hkind => nomatch hkind.symm.trans h
    rw [close, ComposedNode.name, NodeBody.name_eq_of_kind_ne hcomponent]
    exact NodeBody.ofDescriptor_placeholder hname h
  · simp only [close, ComposedNode.children] at hchild
    split at hchild
    · cases hchild
    · exact hchildren child hchild m hm

theorem resolved_composeAll {nodes : List Node}
    (h : ∀ n ∈ nodes, ∀ position frame,
      ∀ m ∈ (c.composeAt position frame n).preorder, m.Resolved)
    (position : Position) (frame : Frame) (i : Nat) :
    ∀ child ∈ c.composeAll position frame i nodes, ∀ m ∈ child.preorder, m.Resolved := by
  intro child hchild
  rw [composeAll_eq_mapIdx, List.mem_mapIdx] at hchild
  obtain ⟨k, hk, rfl⟩ := hchild
  exact h _ (List.getElem_mem hk) _ _

/-- A tree is composed without unknown names when all its names have entries. -/
theorem resolved_composeAt {n : Node} (h : ∀ d ∈ n.preorder, c.registry.contains d.name = true)
    (position : Position) (frame : Frame) :
    ∀ m ∈ (c.composeAt position frame n).preorder, m.Resolved := by
  have hbelow {nodes : List Node}
      (hnodes : ∀ d ∈ Node.preorderAll nodes, c.registry.contains d.name = true) :
      ∀ n ∈ nodes, ∀ d ∈ n.preorder, c.registry.contains d.name = true := by
    intro n hn d hd
    rw [Node.preorderAll_eq_flatMap] at hnodes
    exact hnodes d (List.mem_flatMap.mpr ⟨n, hn, hd⟩)
  induction n using Node.induction generalizing position frame with
  | wrapper w ih =>
    rw [composeAt_wrapper]
    split
    -- a wrapper that is hidden is a leaf
    · intro m hm
      rcases ComposedNode.mem_preorder.mp hm with rfl | ⟨child, hchild, _⟩
      · exact fun reason hkind => by cases hkind
      · cases hchild
    · exact ih (by simpa using h) position _
  | legacy l ih =>
    rw [Node.preorder_legacy] at h
    obtain ⟨hname, hchildren⟩ := List.forall_mem_cons.mp h
    rw [composeAt_legacy]
    exact resolved_close hname position frame
      (resolved_composeAll (fun n hn => ih n hn (hbelow hchildren n hn)) position _ 0)
  | descriptor d ih =>
    rw [Node.preorder_descriptor] at h
    obtain ⟨hname, hchildren⟩ := List.forall_mem_cons.mp h
    rw [composeAt_descriptor]
    exact resolved_close hname position frame
      (resolved_composeAll (fun n hn => ih n hn (hbelow hchildren n hn)) position _ 0)

/-- A tree that was registered without a failure is composed without unknown components, on every
viewport and whatever was registered before it and after it. -/
theorem compose_registered (m : ComponentMap) (before after : List Node) (tree : Node)
    (h : ((Registry.afterAll { components := m } before).register tree).failure = none)
    (viewport : Option Viewport) :
    ∀ x ∈ (compose
        ⟨Registry.afterAll { components := m } (before ++ tree :: after), viewport⟩ tree).preorder,
      x.Resolved := by
  refine resolved_composeAt (fun d hd => ?_) [] {}
  simp only [Registry.afterAll, List.foldl_append, List.foldl_cons]
  refine Registry.contains_afterAll ?_ after
  rw [Registry.register_eq_recordAll] at h ⊢
  exact Registry.contains_of_recordAll h d hd

end Composer

/-- The components of a page; its grid has no renderer of its own. -/
def pageComponents : ComponentMap :=
  ((({} : ComponentMap).bind "layout" .obj).bind "form" .obj).bind "TableRenderer" (fun _ => .null)

/-- A wrapped page of an older node with an alias and of a form without fields. -/
def page : Node := .wrapper {
  detail := .descriptor {
    name := "layout"
    children := [
      .legacy { component := "UserGrid", info := some { component := some "TableRenderer" } },
      .wrapper (.wrap (.descriptor { name := "form" }))] }
  cssClasses := ["shell"] }

/-- A tree whose registration rebinds the name of the grid and fails after that. -/
def brokenPage : Node := .descriptor {
  name := "UserGrid"
  properties := some [("meta", .obj [("component", .str "form")])]
  children := [.descriptor { name := "Ghost" }] }

theorem page_resolved_between_failures :
    ((Registry.afterAll { components := pageComponents } [brokenPage]).register page).failure =
        none ∧
      ∀ x ∈ (Composer.compose
        ⟨Registry.afterAll { components := pageComponents } [brokenPage, page, brokenPage],
          some .mobile⟩ page).preorder, x.Resolved := by
  have h : ((Registry.afterAll { components := pageComponents } [brokenPage]).register
      page).failure = none := by
    decide +kernel
  exact ⟨h, Composer.compose_registered pageComponents [brokenPage] [brokenPage] page h
    (some .mobile)⟩

end UiSchema
