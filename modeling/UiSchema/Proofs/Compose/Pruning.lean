import UiSchema.Proofs.Compose.Places
import UiSchema.Proofs.Registry.History

/-!
# Hiding only prunes

On a viewport the styles of a composed tree change, some nodes are hidden, and what is below a hidden
node is left out. Everything else is as it is without a viewport: what a node shows does not depend on
its style, apart from the output of a renderer, and its classes and accessibility hints come from
wrappers that are the same on every viewport.
-/

namespace UiSchema

set_option autoImplicit false

namespace NodeBody

variable {r : Registry} {d : Descriptor Node}

/-- The body without what a renderer made of it. -/
def silent (b : NodeBody) : NodeBody := { b with output := none }

theorem output?_eq (style : Style) :
    output? r style d = (r.resolve? d.name).map (fun entry =>
      entry.renderer.render (Dict.overlay (d.properties.getD []) (styleProperties style))) := by
  rw [output?, Registry.render?, Option.map_map]
  rfl

theorem silent_ofComponent (style style' : Style) :
    (ofComponent r style d).silent = (ofComponent r style' d).silent := by
  unfold ofComponent
  rw [output?_eq, output?_eq]
  cases r.resolve? d.name with
  | none => rfl
  | some entry => rfl

theorem silent_ofForm (style style' : Style) :
    (ofForm r style d).silent = (ofForm r style' d).silent := by
  unfold ofForm
  repeat' split
  all_goals rfl

theorem silent_ofTable (style style' : Style) :
    (ofTable r style d).silent = (ofTable r style' d).silent := by
  unfold ofTable
  repeat' split
  all_goals rfl

/-- Only the output of a renderer depends on the style. -/
theorem silent_ofDescriptor (style style' : Style) :
    (ofDescriptor r style d).silent = (ofDescriptor r style' d).silent := by
  unfold ofDescriptor
  split
  · rfl
  · split
    · exact silent_ofForm style style'
    · split
      · exact silent_ofTable style style'
      · exact silent_ofComponent style style'

/-- When entries are found under their own names, a rendered node has the name of its descriptor. -/
theorem name_eq (hnames : ∀ name entry, r.resolve? name = some entry → entry.name = name)
    (b : NodeBody) : b.name r d = d.name := by
  unfold name
  split
  · cases hentry : r.resolve? d.name with
    | none => rfl
    | some entry => exact hnames d.name entry hentry
  · rfl

end NodeBody

namespace ComposedNode

/-- The nodes agree in all but their styles, what renderers made of these, and their children. -/
structure LooksLike (n m : ComposedNode) : Prop where
  kind : n.kind = m.kind
  content : n.body.content = m.body.content
  form : n.body.form = m.body.form
  searchFields : n.body.searchFields = m.body.searchFields
  cssClasses : n.frame.cssClasses = m.frame.cssClasses
  accessibility : n.frame.accessibility = m.frame.accessibility

theorem LooksLike.shown {n m : ComposedNode} (h : n.LooksLike m) (hn : n.Shown) : m.Shown := by
  rwa [Shown, ← h.kind]

end ComposedNode

theorem Frame.inside_looks (f f' : Frame) (hclasses : f.cssClasses = f'.cssClasses)
    (haccessibility : f.accessibility = f'.accessibility) (v v' : Option Viewport)
    (ws : List (Wrapper Node)) :
    (f.inside v ws).cssClasses = (f'.inside v' ws).cssClasses ∧
      (f.inside v ws).accessibility = (f'.inside v' ws).accessibility := by
  rw [inside_cssClasses, inside_cssClasses, inside_accessibility, inside_accessibility, hclasses,
    haccessibility]
  exact ⟨rfl, rfl⟩

namespace Composer

variable {r : Registry} {v : Option Viewport} {p : Position}

theorem name_composeAt (hnames : ∀ name entry, r.resolve? name = some entry → entry.name = name)
    (frame : Frame) (n : Node) : (composeAt ⟨r, v⟩ p frame n).name = n.canonical.name := by
  rw [composeAt_eq]
  split
  · rfl
  · exact NodeBody.name_eq hnames _

theorem looksLike_composeAt {v' : Option Viewport} {style style' : Style} {n : Node}
    (h : (composeAt ⟨r, v⟩ p { style := style } n).kind ≠ .hidden)
    (h' : (composeAt ⟨r, v'⟩ p { style := style' } n).kind ≠ .hidden) :
    (composeAt ⟨r, v⟩ p { style := style } n).LooksLike
      (composeAt ⟨r, v'⟩ p { style := style' } n) := by
  rw [composeAt_eq] at h h' ⊢
  rw [composeAt_eq (c := ⟨r, v'⟩)]
  split at h
  · exact absurd rfl h
  · rename_i hwrappers
    split at h'
    · exact absurd rfl h'
    · rename_i hwrappers'
      rw [if_neg hwrappers, if_neg hwrappers']
      have hbody := NodeBody.silent_ofDescriptor (r := r) (d := n.canonical)
        (Frame.inside { style := style } v n.wrappers).style
        (Frame.inside { style := style' } v' n.wrappers).style
      have hframe := Frame.inside_looks { style := style } { style := style' } rfl rfl v v'
        n.wrappers
      exact ⟨congrArg (·.kind) hbody, congrArg (·.content) hbody, congrArg (·.form) hbody,
        congrArg (·.searchFields) hbody, hframe.1, hframe.2⟩

theorem hides_iff {c : Composer} {w : Wrapper Node} :
    c.hides w = true ↔ ∃ v, c.viewport = some v ∧
      ∃ hints, w.responsive = some hints ∧ v ∈ hints.hiddenOn := by
  rw [hides, Option.any_eq_true]
  refine exists_congr fun v => and_congr_right fun _ => ?_
  rw [Wrapper.hiddenOn]
  cases w.responsive with
  | none => simp
  | some hints => simp

theorem kind_ne_hidden_of_no_viewport (frame : Frame) (n : Node) :
    (composeAt ⟨r, none⟩ p frame n).kind ≠ .hidden := by
  rw [Ne, composeAt_kind_hidden_iff]
  rintro ⟨w, _, hw⟩
  obtain ⟨v, hv, _⟩ := hides_iff.mp hw
  cases hv

section Viewport

variable {v : Viewport} {tree : Node}

/-- A place that is there on a viewport is there without one, for the same source. -/
theorem at?_without_viewport {n : ComposedNode}
    (h : (compose ⟨r, some v⟩ tree).at? p = some n) :
    ∃ source style style', tree.at? p = some source ∧
      n = composeAt ⟨r, some v⟩ p { style := style } source ∧
      (compose ⟨r, none⟩ tree).at? p =
        some (composeAt ⟨r, none⟩ p { style := style' } source) := by
  induction p using List.reverseRecOn generalizing n with
  | nil =>
    obtain rfl := Option.some.inj h
    exact ⟨tree, [], [], rfl, rfl, rfl⟩
  | append_singleton q i ih =>
    rw [ComposedNode.at?_concat, Option.bind_eq_some_iff] at h
    obtain ⟨parent, hparent, hchild⟩ := h
    obtain ⟨source, style, style', hsource, rfl, hwhole⟩ := ih hparent
    obtain ⟨m, hm, rfl⟩ := child_of_composeAt hchild
    -- a node with a child is shown, and so it is shown without a viewport
    have hshown := shown_of_child hchild
    have hshown' := (looksLike_composeAt hshown.1
      (kind_ne_hidden_of_no_viewport { style := style' } source)).shown hshown
    have hchild' := getElem?_children hshown' i
    rw [hm, Option.map_some] at hchild'
    exact ⟨m, _, _, Node.at?_child hsource hm, rfl, ComposedNode.at?_child hwhole hchild'⟩

/-- What is missing on a viewport is below a hidden node. -/
theorem at?_eq_none_iff {m : ComposedNode} (h : (compose ⟨r, none⟩ tree).at? p = some m) :
    (compose ⟨r, some v⟩ tree).at? p = none ↔
      ∃ q i rest n, p = q ++ i :: rest ∧ (compose ⟨r, some v⟩ tree).at? q = some n ∧
        n.kind = .hidden := by
  constructor
  · intro hnone
    induction p using List.reverseRecOn generalizing m with
    | nil => cases hnone
    | append_singleton q i ih =>
      rw [ComposedNode.at?_concat, Option.bind_eq_some_iff] at h
      obtain ⟨parent, hparent, hchild⟩ := h
      cases hq : (compose ⟨r, some v⟩ tree).at? q with
      | none =>
        obtain ⟨q', j, rest, n, rfl, hn, hkind⟩ := ih hparent hq
        exact ⟨q', j, rest ++ [i], n, by simp, hn, hkind⟩
      | some n =>
        refine ⟨q, i, [], n, rfl, hq, ?_⟩
        obtain ⟨source, style, style', _, rfl, hwhole⟩ := at?_without_viewport hq
        rw [hparent] at hwhole
        cases hwhole
        -- a parent that is not hidden would be shown, and would have the child
        by_contra hkind
        obtain ⟨m, hm, _⟩ := child_of_composeAt hchild
        have hshown := (looksLike_composeAt
          (kind_ne_hidden_of_no_viewport { style := style' } source) hkind).shown
            (shown_of_child hchild)
        have hchild' := getElem?_children hshown i
        rw [hm, Option.map_some] at hchild'
        rw [ComposedNode.at?_child hq hchild'] at hnone
        cases hnone
  · rintro ⟨q, i, rest, n, rfl, hn, hkind⟩
    obtain ⟨source, _, _, _, rfl, _⟩ := at?_without_viewport hn
    have hchildren := (children_composeAt (c := ⟨r, some v⟩) q _ source).1
      (fun hshown => hshown.1 hkind)
    rw [ComposedNode.at?_append, hn, Option.bind_some, ComposedNode.at?, Position.descend?,
      hchildren]
    rfl

end Viewport

/-- The first tree, composed for the viewport, is the second one, composed without a viewport, less
what is below hidden nodes. -/
structure Prunes (tree : Node) (v : Viewport) (pruned whole : ComposedNode) : Prop where
  kept : ∀ key n, pruned.find? key = some n → ∃ m, whole.find? key = some m ∧
    n.name = m.name ∧ (n.kind ≠ .hidden → n.LooksLike m)
  /-- a node is hidden by the wrappers directly around it -/
  hidden_iff : ∀ key n, pruned.find? key = some n → ∃ p source, key = Position.key p ∧
    tree.at? p = some source ∧
    (n.kind = .hidden ↔
      ∃ w ∈ source.wrappers, ∃ hints, w.responsive = some hints ∧ v ∈ hints.hiddenOn)
  missing_iff : ∀ key m, whole.find? key = some m →
    (pruned.find? key = none ↔
      ∃ above n, pruned.find? above = some n ∧ n.kind = .hidden ∧ Position.KeyBelow above key)
  nothing_hidden : ∀ key m, whole.find? key = some m → m.kind ≠ .hidden

/-- On every viewport a tree is composed as without one, but for styles and output and for what is
below the nodes hidden there, whatever was registered. -/
theorem compose_prunes (components : ComponentMap) (history : List Node) (tree : Node)
    (v : Viewport) :
    Prunes tree v (compose ⟨Registry.afterAll { components := components } history, some v⟩ tree)
      (compose ⟨Registry.afterAll { components := components } history, none⟩ tree) := by
  have hnames : ∀ name entry,
      (Registry.afterAll { components := components } history).resolve? name = some entry →
        entry.name = name :=
    fun _ _ => (Registry.follows_afterAll (Registry.follows_new components) history).name_of_resolve?
  constructor
  · intro key n hn
    obtain ⟨p, rfl, hp⟩ := at?_of_find? hn
    obtain ⟨source, style, style', _, rfl, hwhole⟩ := at?_without_viewport hp
    refine ⟨_, (find?_key _ tree p).trans hwhole, ?_, fun hkind => ?_⟩
    · rw [name_composeAt hnames, name_composeAt hnames]
    · exact looksLike_composeAt hkind (kind_ne_hidden_of_no_viewport _ source)
  · intro key n hn
    obtain ⟨p, rfl, hp⟩ := at?_of_find? hn
    obtain ⟨source, style, _, hsource, rfl, _⟩ := at?_without_viewport hp
    refine ⟨p, source, rfl, hsource, ?_⟩
    rw [composeAt_kind_hidden_iff]
    refine exists_congr fun w => and_congr_right fun _ => ?_
    rw [hides_iff]
    exact ⟨fun ⟨_, hv, hints⟩ => Option.some.inj hv ▸ hints, fun hints => ⟨v, rfl, hints⟩⟩
  · intro key m hm
    obtain ⟨p, rfl, hp⟩ := at?_of_find? hm
    rw [find?_key, at?_eq_none_iff hp]
    constructor
    · rintro ⟨q, i, rest, n, rfl, hn, hkind⟩
      exact ⟨q.key, n, (find?_key _ tree q).trans hn, hkind, Position.keyBelow_iff.mpr ⟨i, rest, rfl⟩⟩
    · rintro ⟨above, n, hn, hkind, hbelow⟩
      obtain ⟨q, rfl, hq⟩ := at?_of_find? hn
      obtain ⟨i, rest, rfl⟩ := Position.keyBelow_iff.mp hbelow
      exact ⟨q, i, rest, n, rfl, hq, hkind⟩
  · intro key m hm
    obtain ⟨p, rfl, hp⟩ := at?_of_find? hm
    obtain ⟨source, style, _, _, rfl⟩ := source_of_at? hp
    exact kind_ne_hidden_of_no_viewport _ source

end Composer

end UiSchema
