import UiSchema.Proofs.Registry.Registration

/-!
# Registration stops at the first descriptor without a renderer

The descriptors of a tree in pre-order decide what registering it does. If each of them is bound by
its name or by its alias, all are recorded. Otherwise the first one that is not bound is reported,
wherever it stands in the tree, and what was recorded are the descriptors in front of it: the history
has grown by these, and the entries are those of registering them one by one without their children.
-/

namespace UiSchema.Registry

set_option autoImplicit false

/-- The map has a renderer for the name of the descriptor or for its alias. -/
def Bound (m : ComponentMap) (d : Descriptor Node) : Prop :=
  m.contains d.name = true ∨ ∃ other, d.alias? = some other ∧ m.contains other = true

instance (m : ComponentMap) (d : Descriptor Node) : Decidable (Bound m d) :=
  decidable_of_iff (m.contains d.name = true ∨ d.alias?.any m.contains = true)
    (or_congr_right (Option.any_eq_true m.contains d.alias?))

def childless (d : Descriptor Node) : Node := .descriptor { d with children := [] }

/-- The registry with `ds` registered on top, each without its children. -/
def recording (r : Registry) (ds : List (Descriptor Node)) : Registry :=
  { r with
    entries := (r.afterAll (ds.map childless)).entries
    history := r.history ++ ds }

theorem renderer?_eq_none {m : ComponentMap} {d : Descriptor Node} :
    renderer? m d = none ↔ ¬Bound m d := by
  have hname : m.contains d.name = (m.get? d.name).isSome := rfl
  have halias : ∀ other, m.contains other = (m.get? other).isSome := fun _ => rfl
  rw [renderer?, Option.or_eq_none_iff, Bound, not_or, hname, Option.not_isSome_iff_eq_none]
  apply and_congr_right
  intro _
  cases d.alias? with
  | none => simp
  | some other => simp [halias]

theorem bound_of_renderer? {m : ComponentMap} {d : Descriptor Node} {renderer : Renderer}
    (h : renderer? m d = some renderer) : Bound m d := by
  refine Decidable.byContradiction (fun hunbound => ?_)
  rw [renderer?_eq_none.mpr hunbound] at h
  cases h

theorem components_record (r : Registry) (d : Descriptor Node) :
    (r.record d).registry.components = r.components := by
  rcases r.record_cases d with ⟨_, heq⟩ | ⟨_, _, heq⟩
  · rw [heq]
  · rw [heq]

section Walk

variable {r : Registry} {d : Descriptor Node} {ds : List (Descriptor Node)}

theorem record_of_bound (h : Bound r.components d) :
    (r.record d).failure = none ∧ (r.record d).registry.history = r.history ++ [d] := by
  rcases r.record_cases d with ⟨hnone, _⟩ | ⟨_, _, heq⟩
  · exact absurd h (renderer?_eq_none.mp hnone)
  · rw [heq]
    exact ⟨rfl, rfl⟩

/-- A descriptor with a renderer is recorded, and the walk goes on. -/
theorem recordAll_cons_of_bound (h : Bound r.components d) (ds : List (Descriptor Node)) :
    (r.recordAll (d :: ds)).registry = ((r.record d).registry.recordAll ds).registry ∧
      (r.recordAll (d :: ds)).failure = ((r.record d).registry.recordAll ds).failure := by
  rw [recordAll]
  rcases andThen_cases (r.record d) (fun r => r.recordAll ds) with ⟨hfailure, _⟩ | ⟨_, hgoesOn⟩
  · exact absurd (record_of_bound h).1 hfailure
  · exact hgoesOn

/-- A descriptor without a renderer ends the walk. -/
theorem recordAll_cons_of_not_bound (h : ¬Bound r.components d) (ds : List (Descriptor Node)) :
    (r.recordAll (d :: ds)).failure = some (.unresolved d.name d.alias?) ∧
      (r.recordAll (d :: ds)).registry = r := by
  rw [recordAll]
  rcases r.record_cases d with ⟨_, heq⟩ | ⟨renderer, hsome, _⟩
  · rw [heq]
    exact ⟨rfl, rfl⟩
  · exact absurd (bound_of_renderer? hsome) h

/-- Registering a descriptor without its children gives it the same entry. -/
theorem entries_register_childless {r' : Registry} (hcomponents : r'.components = r.components)
    (hentries : r'.entries = r.entries) (d : Descriptor Node) :
    (r'.register (childless d)).registry.entries = (r.record d).registry.entries ∧
      (r'.register (childless d)).registry.components = r.components := by
  have hregister : (r'.register (childless d)).registry =
      (r'.record { d with children := [] }).registry := by
    rw [register_eq_recordAll, childless, Node.preorder_descriptor, Node.preorderAll, recordAll]
    rcases andThen_cases (r'.record { d with children := [] }) (fun r => r.recordAll []) with
      ⟨_, heq⟩ | ⟨_, heq, _⟩
    · rw [heq]
    · rw [heq, recordAll]
  have hrenderer : renderer? r'.components { d with children := [] } = renderer? r.components d := by
    rw [hcomponents]
    rfl
  rw [hregister]
  refine ⟨?_, (components_record r' _).trans hcomponents⟩
  unfold record
  rw [hrenderer]
  cases renderer? r.components d with
  | none => exact hentries
  | some renderer =>
    dsimp only
    rw [hentries]
    rfl

/-- Descriptors that are all bound are all recorded. -/
theorem recordAll_of_bound (h : ∀ d ∈ ds, Bound r.components d) :
    (r.recordAll ds).failure = none ∧ (r.recordAll ds).registry.components = r.components ∧
      (r.recordAll ds).registry.history = r.history ++ ds := by
  induction ds generalizing r with
  | nil => exact ⟨rfl, rfl, (List.append_nil _).symm⟩
  | cons d rest ih =>
    obtain ⟨hd, hrest⟩ := List.forall_mem_cons.mp h
    obtain ⟨hregistry, hfailure⟩ := recordAll_cons_of_bound hd rest
    have hcomponents := components_record r d
    rw [← hcomponents] at hrest
    obtain ⟨hnone, hmap, hgrown⟩ := ih hrest
    rw [hregistry, hfailure]
    refine ⟨hnone, hmap.trans hcomponents, ?_⟩
    rw [hgrown, (record_of_bound hd).2, List.append_assoc, List.singleton_append]

theorem entries_afterAll_childless {r' : Registry} (hcomponents : r'.components = r.components)
    (hentries : r'.entries = r.entries) (h : ∀ d ∈ ds, Bound r.components d) :
    (r'.afterAll (ds.map childless)).entries = (r.recordAll ds).registry.entries := by
  induction ds generalizing r r' with
  | nil => exact hentries
  | cons d rest ih =>
    obtain ⟨hd, hrest⟩ := List.forall_mem_cons.mp h
    obtain ⟨hstep, hmap⟩ := entries_register_childless hcomponents hentries d
    rw [← components_record r d] at hrest hmap
    rw [(recordAll_cons_of_bound hd rest).1, List.map_cons, afterAll, List.foldl_cons, ← afterAll]
    exact ih hmap hstep hrest

theorem registry_recordAll (h : ∀ d ∈ ds, Bound r.components d) :
    (r.recordAll ds).registry = r.recording ds := by
  obtain ⟨_, hcomponents, hhistory⟩ := recordAll_of_bound h
  have hentries := entries_afterAll_childless (r := r) rfl rfl h
  unfold recording
  rw [hentries, ← hhistory, ← hcomponents]

/-- The walk goes no further than the first descriptor that is not bound. -/
theorem recordAll_stop {before after : List (Descriptor Node)}
    (hbefore : ∀ e ∈ before, Bound r.components e) (hd : ¬Bound r.components d) :
    (r.recordAll (before ++ d :: after)).failure = some (.unresolved d.name d.alias?) ∧
      (r.recordAll (before ++ d :: after)).registry = r.recording before := by
  obtain ⟨hsuccess, hcomponents, _⟩ := recordAll_of_bound hbefore
  rw [← hcomponents] at hd
  obtain ⟨hfailure, hkept⟩ := recordAll_cons_of_not_bound hd after
  rw [recordAll_append]
  rcases andThen_cases (r.recordAll before) (fun r => r.recordAll (d :: after)) with
    ⟨hfailed, _⟩ | ⟨_, hregistry, hreported⟩
  · exact absurd hsuccess hfailed
  · rw [hregistry, hreported, hfailure, hkept, registry_recordAll hbefore]
    exact ⟨rfl, rfl⟩

theorem exists_first_unbound {m : ComponentMap} (h : ¬∀ d ∈ ds, Bound m d) :
    ∃ before d after, ds = before ++ d :: after ∧ (∀ e ∈ before, Bound m e) ∧ ¬Bound m d := by
  induction ds with
  | nil => exact absurd (List.forall_mem_nil _) h
  | cons first rest ih =>
    by_cases hfirst : Bound m first
    · have hrest : ¬∀ d ∈ rest, Bound m d :=
        fun hall => h (List.forall_mem_cons.mpr ⟨hfirst, hall⟩)
      obtain ⟨before, d, after, rfl, hbefore, hd⟩ := ih hrest
      exact ⟨first :: before, d, after, rfl, List.forall_mem_cons.mpr ⟨hfirst, hbefore⟩, hd⟩
    · exact ⟨[], first, rest, rfl, List.forall_mem_nil _, hfirst⟩

theorem failure_register {n : Node} {e : RegistryError} (h : (r.register n).failure = some e) :
    ∃ d ∈ n.preorder, e = .unresolved d.name d.alias? := by
  rw [register_eq_recordAll] at h
  by_cases hall : ∀ d ∈ n.preorder, Bound r.components d
  · rw [(recordAll_of_bound hall).1] at h
    cases h
  · obtain ⟨before, d, after, hsplit, hbefore, hd⟩ := exists_first_unbound hall
    rw [hsplit, (recordAll_stop hbefore hd).1] at h
    have hmem : d ∈ n.preorder := hsplit ▸ List.mem_append_right before List.mem_cons_self
    exact ⟨d, hmem, (Option.some.inj h).symm⟩

end Walk

/-- Registering a tree goes through the list of its descriptors. It succeeds when all of them are
bound, and then it records the list; else it reports the first one that is not bound, and records
those in front of it. -/
theorem register_upToUnbound (r : Registry) (n : Node) :
    n.preorder = n.canonical :: n.canonical.children.flatMap Node.preorder ∧
    ((r.register n).failure = none ↔ ∀ d ∈ n.preorder, Bound r.components d) ∧
    ((r.register n).failure = none → (r.register n).registry = r.recording n.preorder) ∧
    ((r.register n).failure ≠ none → ∃ before d after, n.preorder = before ++ d :: after ∧
      (∀ e ∈ before, Bound r.components e) ∧ ¬Bound r.components d ∧
      (r.register n).failure = some (.unresolved d.name d.alias?) ∧
      (r.register n).registry = r.recording before) := by
  rw [register_eq_recordAll]
  refine ⟨n.preorder_eq_canonical, ?_⟩
  by_cases hall : ∀ d ∈ n.preorder, Bound r.components d
  · have hsuccess := (recordAll_of_bound hall).1
    exact ⟨⟨fun _ => hall, fun _ => hsuccess⟩, fun _ => registry_recordAll hall,
      fun hfailed => absurd hsuccess hfailed⟩
  · obtain ⟨before, d, after, hsplit, hbefore, hd⟩ := exists_first_unbound hall
    have hstop : (r.recordAll n.preorder).failure = some (.unresolved d.name d.alias?) ∧
        (r.recordAll n.preorder).registry = r.recording before := by
      rw [hsplit]
      exact recordAll_stop hbefore hd
    have hfailed : (r.recordAll n.preorder).failure ≠ none := by
      rw [hstop.1]
      exact Option.some_ne_none _
    refine ⟨⟨fun hsuccess => absurd hsuccess hfailed, fun h => absurd h hall⟩,
      fun hsuccess => absurd hsuccess hfailed, fun _ => ?_⟩
    exact ⟨before, d, after, hsplit, hbefore, hd, hstop⟩

end UiSchema.Registry
