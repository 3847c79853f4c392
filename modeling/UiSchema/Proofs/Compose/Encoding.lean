import UiSchema.Proofs.Compose.Registered
import UiSchema.Proofs.Node.Encoding

/-!
# Encodings are interchangeable

Composition and registration read a node as the descriptor that it stands for. A tree that is
encoded anew is therefore composed and registered as it was, but for the children inside the
descriptors of the history, from which routes and menus only take names and paths.
-/

namespace UiSchema

set_option autoImplicit false

namespace Registry

/-- The registered paths with the names that they lead to. -/
def routeNames (r : Registry) : List (String × String) := r.routes.map (fun e => (e.1, e.2.name))

/-- The names in the menu. -/
def menuNames (r : Registry) : List String := r.menuItems.map (·.name)

/-- The registries differ at most in the children inside their histories. -/
structure SameButChildren (r r' : Registry) : Prop where
  components : r'.components = r.components
  entries : r'.entries = r.entries
  history : r'.history.map Descriptor.bare = r.history.map Descriptor.bare

namespace SameButChildren

variable {r r' : Registry}

theorem refl (r : Registry) : SameButChildren r r := ⟨rfl, rfl, rfl⟩

theorem resolve? (h : SameButChildren r r') (name : String) :
    r'.resolve? name = r.resolve? name := by
  rw [Registry.resolve?, Registry.resolve?, h.entries]

theorem routeNames (h : SameButChildren r r') : r'.routeNames = r.routeNames := by
  have hbare (history : List (Descriptor Node)) :
      (history.filterMap (fun d => d.path.map (fun p => (p, d)))).map (fun e => (e.1, e.2.name)) =
        (history.map Descriptor.bare).filterMap (fun d => d.path.map (fun p => (p, d.name))) := by
    rw [List.map_filterMap, List.filterMap_map]
    refine List.filterMap_congr (fun d _ => ?_)
    rw [Option.map_map]
    rfl
  rw [Registry.routeNames, Registry.routeNames, routes, routes, hbare r.history,
    hbare r'.history, h.history]

theorem menuNames (h : SameButChildren r r') : r'.menuNames = r.menuNames := by
  have hbare (history : List (Descriptor Node)) :
      (history.filter (·.isMenuItem)).map (·.name) =
        ((history.map Descriptor.bare).filter (·.isMenuItem)).map (·.name) := by
    rw [List.filter_map, List.map_map]
    rfl
  rw [Registry.menuNames, Registry.menuNames, menuItems, menuItems, hbare r.history,
    hbare r'.history, h.history]

/-- Recording does not look at children. -/
theorem record (h : SameButChildren r r') {d d' : Descriptor Node} (hd : d'.bare = d.bare) :
    (r'.record d').failure = (r.record d).failure ∧
      SameButChildren (r.record d).registry (r'.record d').registry := by
  obtain ⟨components, entries, history⟩ := r
  obtain ⟨components', entries', history'⟩ := r'
  obtain ⟨rfl, rfl, hhistory⟩ := h
  obtain ⟨name, path, isMenuItem, content, properties, children⟩ := d
  obtain ⟨name', path', isMenuItem', content', properties', children'⟩ := d'
  cases hd
  -- a renderer is chosen by name and properties
  have hrenderer :
      renderer? components' ⟨name, path, isMenuItem, content, properties, children'⟩ =
        renderer? components' ⟨name, path, isMenuItem, content, properties, children⟩ := rfl
  unfold Registry.record
  simp only [hrenderer]
  cases renderer? components' ⟨name, path, isMenuItem, content, properties, children⟩ with
  | none => exact ⟨rfl, rfl, rfl, hhistory⟩
  | some renderer =>
    refine ⟨rfl, rfl, rfl, ?_⟩
    rw [List.map_append, List.map_append, hhistory]
    rfl

theorem recordAll (h : SameButChildren r r') {ds ds' : List (Descriptor Node)}
    (hds : ds'.map Descriptor.bare = ds.map Descriptor.bare) :
    (r'.recordAll ds').failure = (r.recordAll ds).failure ∧
      SameButChildren (r.recordAll ds).registry (r'.recordAll ds').registry := by
  induction ds generalizing r r' ds' with
  | nil =>
    obtain rfl := List.map_eq_nil_iff.mp hds
    exact ⟨rfl, h⟩
  | cons d rest ih =>
    obtain ⟨d', rest', rfl, hd, hrest⟩ := List.map_eq_cons_iff.mp hds
    obtain ⟨hfailure, hregistry⟩ := h.record hd
    rw [Registry.recordAll, Registry.recordAll, andThen, andThen, hfailure]
    cases hrecord : (r.record d).failure with
    | some e => exact ⟨hfailure, hregistry⟩
    | none => exact ih hregistry hrest

end SameButChildren

theorem register_reencoded {n n' : Node} (h : n.Reencoded n') (r : Registry) :
    (r.register n').failure = (r.register n).failure ∧
      SameButChildren (r.register n).registry (r.register n').registry := by
  rw [register_eq_recordAll, register_eq_recordAll]
  exact (SameButChildren.refl r).recordAll h.preorder_bare

end Registry

theorem Frame.within_wrap (f : Frame) (v : Option Viewport) (n : Node) :
    f.within v (.wrap n) = f := by
  have hstyle : (Wrapper.wrap n).style v = [] := rfl
  have hclasses : f.cssClasses ++ (Wrapper.wrap n).cssClasses = f.cssClasses :=
    List.append_nil f.cssClasses
  rw [Frame.within, hstyle, hclasses]
  rfl

namespace Composer

variable {c : Composer}

theorem hides_wrap (n : Node) : c.hides (.wrap n) = false := by
  cases hv : c.viewport <;> simp [hides, hv, Wrapper.hiddenOn, Wrapper.wrap]

theorem composeAll_congr {nodes nodes' : List Node}
    (h : List.Forall₂
      (fun n n' => ∀ position frame, c.composeAt position frame n' = c.composeAt position frame n)
      nodes nodes')
    (position : Position) (frame : Frame) (i : Nat) :
    c.composeAll position frame i nodes' = c.composeAll position frame i nodes := by
  induction h generalizing i with
  | nil => rfl
  | cons hfirst _ ih => rw [composeAll, composeAll, hfirst, ih]

theorem composeAt_reencoded {n n' : Node} (h : n.Reencoded n') (position : Position)
    (frame : Frame) : c.composeAt position frame n' = c.composeAt position frame n := by
  refine Node.Reencoded.induction
    (motive := fun n n' =>
      ∀ position frame, c.composeAt position frame n' = c.composeAt position frame n)
    ?wrapped ?normalized ?wrapper ?legacy ?descriptor h position frame
  case wrapped =>
    intro n n' ih position frame
    rw [composeAt_wrapper, hides_wrap, if_neg Bool.false_ne_true, Frame.within_wrap]
    exact ih position frame
  case normalized =>
    intro l children ih position frame
    rw [composeAt_descriptor, composeAt_legacy, composeAll_congr ih]
    rfl
  case wrapper =>
    intro w detail h ih position frame
    rw [composeAt_wrapper, composeAt_wrapper, h.canonical_name]
    -- both wrappers have the same hints, so both are hidden or neither is
    refine ite_congr rfl (fun _ => rfl) (fun _ => ?_)
    exact ih position (frame.within c.viewport w)
  case legacy =>
    intro l children ih position frame
    rw [composeAt_legacy, composeAt_legacy, composeAll_congr ih]
    rfl
  case descriptor =>
    intro d children ih position frame
    rw [composeAt_descriptor, composeAt_descriptor, composeAll_congr ih]
    rfl

/-- Normalised older nodes and wrappers without hints, anywhere in a tree, change neither what is
composed from it nor what its registration does to names, routes and menus. -/
theorem compose_reencoded {n n' : Node} (h : n.Reencoded n') (r : Registry)
    (viewport : Option Viewport) :
    compose ⟨r, viewport⟩ n' = compose ⟨r, viewport⟩ n ∧
      (r.register n').failure = (r.register n).failure ∧
      (∀ name,
        (r.register n').registry.resolve? name = (r.register n).registry.resolve? name) ∧
      (r.register n').registry.routeNames = (r.register n).registry.routeNames ∧
      (r.register n').registry.menuNames = (r.register n).registry.menuNames := by
  obtain ⟨hfailure, hregistry⟩ := r.register_reencoded h
  exact ⟨composeAt_reencoded h [] {}, hfailure, hregistry.resolve?, hregistry.routeNames,
    hregistry.menuNames⟩

end Composer

/-- The page with its grid normalised, a wrapper around the whole and one more around the form. -/
def reencodedPage : Node := .wrapper (.wrap (.wrapper {
  detail := .descriptor {
    name := "layout"
    children := [
      .descriptor {
        name := "UserGrid"
        properties := some [("meta", .obj [("component", .str "TableRenderer")])] },
      .wrapper (.wrap (.wrapper (.wrap (.descriptor { name := "form" }))))] }
  cssClasses := ["shell"] }))

theorem page_reencoded_registered :
    page.Reencoded reencodedPage ∧
      Composer.compose ⟨Registry.afterAll { components := pageComponents } [brokenPage],
          some .tablet⟩ reencodedPage =
        Composer.compose ⟨Registry.afterAll { components := pageComponents } [brokenPage],
          some .tablet⟩ page := by
  have hgrid := Node.Reencoded.normalized
    { component := "UserGrid", info := some { component := some "TableRenderer" } } .nil
  have hform := (Node.Reencoded.refl (.wrapper (.wrap (.descriptor { name := "form" })))).wrapped
  have h : page.Reencoded reencodedPage :=
    .wrapped (.wrapper _ (.descriptor _ (.cons hgrid (.cons hform .nil))))
  exact ⟨h, (Composer.compose_reencoded h _ _).1⟩

end UiSchema
