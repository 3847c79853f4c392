import Mathlib.Data.List.Induction
import UiSchema.Proofs.Compose.Registered
import UiSchema.Proofs.Dict

/-!
# The style cascade

Style runs down a composed tree: a node starts from the style of its parent, and the wrappers
directly around it overlay theirs, from the outside in. Classes and accessibility hints come from
those wrappers alone. What a renderer is handed as the style is the style that its node has.
-/

namespace UiSchema

set_option autoImplicit false

namespace Position

variable {τ : Type} (children : τ → List τ)

def descend? : Position → τ → Option τ
  | [], t => some t
  | i :: rest, t => (children t)[i]?.bind (descend? rest)

theorem descend?_concat (p : Position) (i : Nat) (t : τ) :
    descend? children (p ++ [i]) t = (descend? children p t).bind (fun s => (children s)[i]?) := by
  induction p generalizing t with
  | nil =>
    cases hchild : (children t)[i]? with
    | none => simp [descend?, hchild]
    | some child => simp [descend?, hchild]
  | cons k rest ih =>
    rw [List.cons_append, descend?, descend?, funext ih, Option.bind_assoc]

end Position

namespace Node

/-- The wrappers directly around a node, the outermost first. -/
def wrappers : Node → List (Wrapper Node)
  | .wrapper ⟨detail, mode, layout, interaction, display, responsive, animation, cssClasses,
      customStyles, accessibility⟩ =>
    ⟨detail, mode, layout, interaction, display, responsive, animation, cssClasses, customStyles,
      accessibility⟩ :: wrappers detail
  | .legacy _ => []
  | .descriptor _ => []

@[simp] theorem wrappers_wrapper (w : Wrapper Node) :
    (wrapper w).wrappers = w :: w.detail.wrappers := by
  rw [wrappers]

@[simp] theorem wrappers_legacy (l : LegacyNode Node) : (legacy l).wrappers = [] := by
  rw [wrappers]

@[simp] theorem wrappers_descriptor (d : Descriptor Node) : (descriptor d).wrappers = [] := by
  rw [wrappers]

/-- The node at a place, with the wrappers around it. -/
def at? (n : Node) (p : Position) : Option Node := p.descend? (fun m => m.canonical.children) n

end Node

namespace ComposedNode

def at? (n : ComposedNode) (p : Position) : Option ComposedNode := p.descend? children n

/-- The style that the node at a place starts from: none at the root, else that of its parent. -/
inductive Inherits (root : ComposedNode) : Position → Style → Prop
  | root : Inherits root [] []
  | child {p : Position} {parent : ComposedNode} (i : Nat) :
      root.at? p = some parent → Inherits root (p ++ [i]) parent.frame.style

end ComposedNode

/-- In a fold whose members may each replace what is read of it, the last one to do so stays. -/
theorem read_foldl {σ τ α : Type} {step : σ → τ → σ} (read : σ → Option α) {given : τ → Option α}
    (h : ∀ s t, read (step s t) = (given t).or (read s)) (ts : List τ) (s : σ) :
    read (ts.foldl step s) = (ts.reverse.findSome? given).or (read s) := by
  induction ts generalizing s with
  | nil => rfl
  | cons t rest ih =>
    rw [List.foldl_cons, ih, h, List.reverse_cons, List.findSome?_append, Option.or_assoc]
    cases hgiven : given t <;> simp [hgiven]

/-- Properties with the style in the place of their own; an empty style leaves them as they are. -/
def Style.over (style : Style) (properties : Properties) : Properties :=
  if style.isEmpty then properties else Dict.insert properties "style" (.obj style)

namespace Frame

/-- The frame inside all of the wrappers, the first of which is the outermost. -/
def inside (f : Frame) (v : Option Viewport) (ws : List (Wrapper Node)) : Frame :=
  ws.foldl (fun f w => f.within v w) f

variable (f : Frame) (v : Option Viewport) (ws : List (Wrapper Node))

theorem inside_style :
    (f.inside v ws).style = (ws.map (fun w => w.style v)).foldl Dict.overlay f.style := by
  induction ws generalizing f with
  | nil => rfl
  | cons w rest ih => exact ih (f.within v w)

theorem get?_inside_style (key : String) :
    Dict.get? (f.inside v ws).style key =
      (ws.reverse.findSome? (fun w => Dict.get? (w.style v) key)).or (Dict.get? f.style key) := by
  refine read_foldl (fun f : Frame => Dict.get? f.style key) (fun f w => ?_) ws f
  exact Dict.get?_overlay (Dict.ascending_ofList _) f.style key

theorem inside_cssClasses :
    (f.inside v ws).cssClasses = f.cssClasses ++ ws.flatMap (fun w => w.cssClasses) := by
  induction ws generalizing f with
  | nil => exact (List.append_nil _).symm
  | cons w rest ih =>
    rw [List.flatMap_cons, ← List.append_assoc]
    exact ih (f.within v w)

theorem inside_accessibility :
    (f.inside v ws).accessibility =
      (ws.reverse.findSome? (fun w => w.accessibility)).or f.accessibility :=
  read_foldl Frame.accessibility (fun _ _ => rfl) ws f

end Frame

namespace NodeBody

variable {r : Registry} {d : Descriptor Node} {style : Style} {output : Json}

theorem rendered_of_output? (h : output? r style d = some output) :
    ∃ entry, r.resolve? d.name = some entry ∧
      output = entry.renderer.render (style.over (d.properties.getD [])) := by
  rw [output?, Registry.render?, Option.map_map, Option.map_eq_some_iff] at h
  obtain ⟨entry, hentry, rfl⟩ := h
  refine ⟨entry, hentry, ?_⟩
  rw [Style.over, Function.comp_apply, styleProperties]
  split <;> rfl

/-- All output that a node has was rendered in its style. -/
theorem output?_of_ofDescriptor (h : (ofDescriptor r style d).output = some output) :
    output? r style d = some output := by
  unfold ofDescriptor at h
  split at h
  · cases h
  · split at h
    · unfold ofForm at h
      repeat' split at h
      all_goals first | exact h | cases h
    · split at h
      · unfold ofTable at h
        repeat' split at h
        all_goals first | exact h | cases h
      · unfold ofComponent at h
        split at h
        · rename_i hrendered
          rw [hrendered]
          exact h
        · cases h

end NodeBody

namespace Composer

variable {c : Composer}

/-- Any wrapper around a node can hide it; if none does, the node is closed in the frame inside
them. -/
theorem composeAt_eq (position : Position) (frame : Frame) (n : Node) :
    c.composeAt position frame n =
      if n.wrappers.any c.hides then ⟨position, n.canonical.name, { kind := .hidden }, {}, []⟩
      else c.close position (frame.inside c.viewport n.wrappers) n.canonical
        (c.composeAll position (frame.inside c.viewport n.wrappers).inherited 0
          n.canonical.children) := by
  induction n using Node.induction generalizing frame with
  | wrapper w ih =>
    rw [composeAt_wrapper, Node.wrappers_wrapper, Node.canonical_wrapper, List.any_cons, ih]
    cases c.hides w <;> rfl
  | legacy l _ =>
    rw [composeAt_legacy, Node.wrappers_legacy, Node.canonical_legacy]
    rfl
  | descriptor d _ =>
    rw [composeAt_descriptor, Node.wrappers_descriptor, Node.canonical_descriptor]
    rfl

theorem child_of_composeAt {position : Position} {frame : Frame} {n : Node} {i : Nat}
    {child : ComposedNode} (h : (c.composeAt position frame n).children[i]? = some child) :
    ∃ m, n.canonical.children[i]? = some m ∧
      child = c.composeAt (position ++ [i])
        { style := (c.composeAt position frame n).frame.style } m := by
  rw [composeAt_eq] at h ⊢
  split at h
  · cases h
  · rename_i hshown
    rw [if_neg hshown]
    -- a placeholder has no children; all others are composed in the frame of their parent
    simp only [close, ComposedNode.children] at h
    split at h
    · cases h
    · rw [composeAll_eq_mapIdx, List.getElem?_mapIdx, Option.map_eq_some_iff] at h
      obtain ⟨m, hm, rfl⟩ := h
      refine ⟨m, hm, ?_⟩
      rw [Nat.zero_add]
      rfl

/-- Every node of a composed tree is a node of the tree at the same place, composed in the style
that it inherits. -/
theorem source_of_at? {tree : Node} {p : Position} {x : ComposedNode}
    (h : (c.compose tree).at? p = some x) :
    ∃ source inherited, tree.at? p = some source ∧ (c.compose tree).Inherits p inherited ∧
      x = c.composeAt p { style := inherited } source := by
  -- from the root down, as the style of a node is only known together with that of its parent
  induction p using List.reverseRecOn generalizing x with
  | nil =>
    obtain rfl := Option.some.inj h
    exact ⟨tree, [], rfl, .root, rfl⟩
  | append_singleton q i ih =>
    rw [ComposedNode.at?, Position.descend?_concat, Option.bind_eq_some_iff] at h
    obtain ⟨parent, hparent, hchild⟩ := h
    obtain ⟨source, inherited, hsource, _, rfl⟩ := ih hparent
    obtain ⟨m, hm, rfl⟩ := child_of_composeAt hchild
    refine ⟨m, _, ?_, .child i hparent, rfl⟩
    rw [Node.at?] at hsource ⊢
    rw [Position.descend?_concat, hsource, Option.bind_some, hm]

/-- Where a node composed from a source takes its style, its classes and its accessibility hints
from, and which properties its output was rendered from. -/
structure Cascades (c : Composer) (source : Node) (inherited : Style) (x : ComposedNode) :
    Prop where
  style : x.frame.style =
    (source.wrappers.map (fun w => w.style c.viewport)).foldl Dict.overlay inherited
  get?_style : ∀ key, Dict.get? x.frame.style key =
    (source.wrappers.reverse.findSome? (fun w => Dict.get? (w.style c.viewport) key)).or
      (Dict.get? inherited key)
  cssClasses : x.frame.cssClasses = source.wrappers.flatMap (fun w => w.cssClasses)
  accessibility : x.frame.accessibility =
    source.wrappers.reverse.findSome? (fun w => w.accessibility)
  rendered : ∀ output, x.body.output = some output →
    ∃ entry, c.registry.resolve? source.canonical.name = some entry ∧
      output = entry.renderer.render
        (x.frame.style.over (source.canonical.properties.getD []))

theorem cascades_composeAt {position : Position} {inherited : Style} {source : Node}
    (hshown : (c.composeAt position { style := inherited } source).kind ≠ .hidden) :
    c.Cascades source inherited (c.composeAt position { style := inherited } source) := by
  rw [composeAt_eq] at hshown ⊢
  split at hshown
  · exact absurd rfl hshown
  · rename_i hwrappers
    rw [if_neg hwrappers]
    constructor
    · exact Frame.inside_style _ _ _
    · exact Frame.get?_inside_style _ _ _
    · exact Frame.inside_cssClasses _ _ _
    · exact (Frame.inside_accessibility _ _ _).trans (Option.or_none ..)
    · intro output houtput
      exact NodeBody.rendered_of_output? (NodeBody.output?_of_ofDescriptor houtput)

/-- Every node that is shown cascades from the style of its parent through the wrappers directly
around it. -/
theorem compose_cascades {tree : Node} {p : Position} {x : ComposedNode}
    (h : (c.compose tree).at? p = some x) (hshown : x.kind ≠ .hidden) :
    ∃ source inherited, tree.at? p = some source ∧ (c.compose tree).Inherits p inherited ∧
      c.Cascades source inherited x := by
  obtain ⟨source, inherited, hsource, hinherits, rfl⟩ := source_of_at? h
  exact ⟨source, inherited, hsource, hinherits, cascades_composeAt hshown⟩

end Composer

/-- A page in two wrappers, around a form that has a style among its properties. -/
def styledPage : Node := .wrapper {
  detail := .wrapper {
    detail := .descriptor {
      name := "layout"
      children := [.wrapper {
        detail := .descriptor {
          name := "form"
          properties := some [("fields", .arr []), ("style", .str "plain")] }
        cssClasses := ["entry"]
        customStyles := [("color", .text "blue")] }] }
    customStyles := [("color", .text "red")]
    accessibility := some { role := some "main" } }
  display := some { backgroundColor := some "white" }
  responsive := some {
    breakpoints := some { mobile := some { display := some { backgroundColor := some "black" } } } }
  cssClasses := ["shell"] }

def styledPageComposer : Composer where
  registry := Registry.afterAll { components := pageComponents } [styledPage]
  viewport := some .mobile

theorem styledPage_form_cascades :
    ∃ x, (styledPageComposer.compose styledPage).at? [0] = some x ∧ x.kind ≠ .hidden ∧
      x.frame.style = [("backgroundColor", .str "black"), ("color", .str "blue")] ∧
      x.body.output = some (.obj [("fields", .arr []), ("style", .obj x.frame.style)]) ∧
      ∃ source inherited, styledPage.at? [0] = some source ∧
        (styledPageComposer.compose styledPage).Inherits [0] inherited ∧
        styledPageComposer.Cascades source inherited x := by
  have hat : (styledPageComposer.compose styledPage).at? [0] = some _ := rfl
  exact ⟨_, hat, nofun, rfl, rfl, Composer.compose_cascades hat nofun⟩

end UiSchema
