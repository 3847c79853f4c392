import UiSchema.Proofs.Registry.Stopping

/-!
# The alias of an older node

An older node may declare the component that stands in for it. Its descriptor keeps this alias next
to the other properties, at `meta.component`, where registration looks for it. There is no room for
it when the properties have an entry `meta` of their own that is no object: that entry stays, the
alias is lost, and the node is not bound by it.
-/

namespace UiSchema

set_option autoImplicit false

namespace LegacyMeta

/-- The properties can take in an alias: their entry `meta`, if there is one, is an object. -/
def HasRoom (properties : Properties) : Prop :=
  ∀ entry, Dict.get? properties "meta" = some entry → ∃ fields, entry = .obj fields

/-- What the properties hold inside their entry `meta`. -/
def inside? (properties : Properties) (name : String) : Option Json :=
  (Dict.get? properties "meta").bind (fun entry => entry.field? name)

variable (component : String) {properties : Option Properties}

theorem normalizedProperties_of_room (h : HasRoom (properties.getD [])) :
    ∃ fields, normalizedProperties ⟨some component, properties⟩ =
        some (Dict.insert (properties.getD []) "meta"
          (.obj (Dict.insert fields "component" (.str component)))) ∧
      ∀ name, Dict.get? fields name = inside? (properties.getD []) name := by
  unfold normalizedProperties inside?
  dsimp only
  cases hentry : Dict.get? (properties.getD []) "meta" with
  | none => exact ⟨[], rfl, fun _ => rfl⟩
  | some entry =>
    obtain ⟨fields, rfl⟩ := h entry hentry
    exact ⟨fields, rfl, fun _ => rfl⟩

theorem normalizedProperties_of_no_room (h : ¬HasRoom (properties.getD [])) :
    normalizedProperties ⟨some component, properties⟩ = some (properties.getD []) ∧
      ∀ name, inside? (properties.getD []) name = none := by
  unfold normalizedProperties inside?
  dsimp only
  cases hentry : Dict.get? (properties.getD []) "meta" with
  | none =>
    refine absurd (fun entry hsome => ?_) h
    rw [hentry] at hsome
    cases hsome
  | some entry =>
    cases entry with
    | obj fields =>
      refine absurd (fun entry hsome => ?_) h
      rw [hentry] at hsome
      exact ⟨fields, (Option.some.inj hsome).symm⟩
    | null => exact ⟨rfl, fun _ => rfl⟩
    | bool b => exact ⟨rfl, fun _ => rfl⟩
    | int n => exact ⟨rfl, fun _ => rfl⟩
    | float x => exact ⟨rfl, fun _ => rfl⟩
    | str s => exact ⟨rfl, fun _ => rfl⟩
    | arr items => exact ⟨rfl, fun _ => rfl⟩

end LegacyMeta

namespace Descriptor

variable {ν : Type} {d : Descriptor ν} {properties : Properties}

theorem property?_eq_get? (h : d.properties = some properties) (key : String) :
    d.property? key = Dict.get? properties key := by
  rw [property?, h]
  rfl

theorem alias?_eq_inside? (h : d.properties = some properties) :
    d.alias? = (LegacyMeta.inside? properties "component").bind Json.string? := by
  unfold alias? LegacyMeta.inside?
  rw [property?_eq_get? h]
  cases Dict.get? properties "meta" with
  | none => rfl
  | some entry => rfl

end Descriptor

namespace Registry

variable {r : Registry} {d : Descriptor Node} {renderer : Renderer}

theorem registry_recordAll_cons (h : renderer? r.components d = some renderer)
    (ds : List (Descriptor Node)) :
    (r.recordAll (d :: ds)).registry =
      (recordAll { r with
        entries := Dict.insert r.entries d.name (entryOf d renderer)
        history := r.history ++ [d] } ds).registry := by
  rw [(recordAll_cons_of_bound (bound_of_renderer? h) ds).1]
  unfold record
  rw [h]

/-- Recording keeps the entries of all names but those that are recorded. -/
theorem exists_recorded (r : Registry) (ds : List (Descriptor Node)) :
    ∃ recorded, recorded <+: ds ∧ (r.recordAll ds).registry.history = r.history ++ recorded ∧
      ∀ name, (∀ d ∈ recorded, d.name ≠ name) →
        (r.recordAll ds).registry.resolve? name = r.resolve? name := by
  induction ds generalizing r with
  | nil => exact ⟨[], List.prefix_rfl, (List.append_nil _).symm, fun _ _ => rfl⟩
  | cons d rest ih =>
    cases hrenderer : renderer? r.components d with
    | none =>
      rw [(recordAll_cons_of_not_bound (renderer?_eq_none.mp hrenderer) rest).2]
      exact ⟨[], List.nil_prefix, (List.append_nil _).symm, fun _ _ => rfl⟩
    | some renderer =>
      rw [registry_recordAll_cons hrenderer]
      obtain ⟨recorded, hprefix, hhistory, hkept⟩ := ih { r with
        entries := Dict.insert r.entries d.name (entryOf d renderer)
        history := r.history ++ [d] }
      refine ⟨d :: recorded, (List.prefix_cons_inj d).mpr hprefix, ?_, ?_⟩
      · exact hhistory.trans (List.append_assoc r.history [d] recorded)
      · intro name hnames
        obtain ⟨hd, hrecorded⟩ := List.forall_mem_cons.mp hnames
        have hinsert := Dict.get?_insert_of_ne r.entries (entryOf d renderer) hd.symm
        exact (hkept name hrecorded).trans hinsert

/-- A list whose first descriptor has a renderer is recorded from there on. The entry of that
descriptor stays unless its name is recorded again. -/
theorem exists_recorded_below (h : renderer? r.components d = some renderer)
    (ds : List (Descriptor Node)) :
    ∃ below, below <+: ds ∧ (r.recordAll (d :: ds)).registry.history = r.history ++ d :: below ∧
      ((∀ e ∈ below, e.name ≠ d.name) →
        (r.recordAll (d :: ds)).registry.resolve? d.name = some (entryOf d renderer)) := by
  rw [registry_recordAll_cons h]
  obtain ⟨below, hprefix, hhistory, hkept⟩ := exists_recorded { r with
    entries := Dict.insert r.entries d.name (entryOf d renderer)
    history := r.history ++ [d] } ds
  refine ⟨below, hprefix, hhistory.trans (List.append_assoc r.history [d] below), ?_⟩
  intro hnames
  have hinsert := Dict.get?_insert_self r.entries d.name (entryOf d renderer)
  exact (hkept d.name hnames).trans hinsert

end Registry

namespace LegacyNode

open LegacyMeta (HasRoom inside?)

section Normalized

variable {l : LegacyNode Node} {component : String} {properties : Option Properties}
variable (h : l.info = some ⟨some component, properties⟩)
include h

theorem properties_normalize :
    l.normalize.properties = LegacyMeta.normalizedProperties ⟨some component, properties⟩ := by
  rw [normalize, h]
  rfl

theorem alias?_normalize_of_room (hroom : HasRoom (properties.getD [])) :
    l.normalize.alias? = some component := by
  obtain ⟨fields, hnormalized, _⟩ := LegacyMeta.normalizedProperties_of_room component hroom
  have hproperties := (properties_normalize h).trans hnormalized
  rw [Descriptor.alias?_eq_inside? hproperties, inside?, Dict.get?_insert_self]
  simp only [Option.bind_some, Json.field?, Dict.get?_insert_self, Json.string?]

theorem properties_normalize_of_no_room (hroom : ¬HasRoom (properties.getD [])) :
    l.normalize.properties = some (properties.getD []) :=
  (properties_normalize h).trans (LegacyMeta.normalizedProperties_of_no_room component hroom).1

theorem alias?_normalize_of_no_room (hroom : ¬HasRoom (properties.getD [])) :
    l.normalize.alias? = none := by
  have hinside := (LegacyMeta.normalizedProperties_of_no_room component hroom).2
  rw [Descriptor.alias?_eq_inside? (properties_normalize_of_no_room h hroom), hinside]
  rfl

theorem property?_normalize {key : String} (hkey : key ≠ "meta") :
    l.normalize.property? key = Dict.get? (properties.getD []) key := by
  by_cases hroom : HasRoom (properties.getD [])
  · obtain ⟨fields, hnormalized, _⟩ := LegacyMeta.normalizedProperties_of_room component hroom
    have hproperties := (properties_normalize h).trans hnormalized
    rw [Descriptor.property?_eq_get? hproperties, Dict.get?_insert_of_ne _ _ hkey]
  · exact Descriptor.property?_eq_get? (properties_normalize_of_no_room h hroom) key

/-- Inside `meta` the alias is all that is added. -/
theorem inside?_normalize {name : String} (hname : name ≠ "component") :
    (l.normalize.property? "meta").bind (fun entry => entry.field? name) =
      inside? (properties.getD []) name := by
  by_cases hroom : HasRoom (properties.getD [])
  · obtain ⟨fields, hnormalized, hfields⟩ :=
      LegacyMeta.normalizedProperties_of_room component hroom
    have hproperties := (properties_normalize h).trans hnormalized
    rw [Descriptor.property?_eq_get? hproperties, Dict.get?_insert_self, ← hfields]
    exact Dict.get?_insert_of_ne fields _ hname
  · rw [Descriptor.property?_eq_get? (properties_normalize_of_no_room h hroom)]
    rfl

variable {m : ComponentMap} (hown : m.get? l.component = none)
include hown

theorem renderer?_normalize_of_room (hroom : HasRoom (properties.getD [])) :
    Registry.renderer? m l.normalize = m.get? component := by
  have hname : m.get? l.normalize.name = none := hown
  rw [Registry.renderer?, hname, alias?_normalize_of_room h hroom]
  rfl

theorem renderer?_normalize_of_no_room (hroom : ¬HasRoom (properties.getD [])) :
    Registry.renderer? m l.normalize = none := by
  have hname : m.get? l.normalize.name = none := hown
  rw [Registry.renderer?, hname, alias?_normalize_of_no_room h hroom]
  rfl

end Normalized

/-- The alias that an older node declares is the alias of its descriptor exactly when the node's
properties have room for it. All other properties are those of the node. Where a map binds only the
alias, the node gets the renderer of the alias in the one case, and is refused in the other. -/
theorem normalize_alias_iff (l : LegacyNode Node) (component : String)
    (properties : Option Properties) (h : l.info = some ⟨some component, properties⟩) :
    (l.normalize.alias? = some component ↔ HasRoom (properties.getD [])) ∧
    (∀ key, key ≠ "meta" →
      l.normalize.property? key = Dict.get? (properties.getD []) key) ∧
    (∀ name, name ≠ "component" →
      (l.normalize.property? "meta").bind (fun entry => entry.field? name) =
        inside? (properties.getD []) name) ∧
    (¬HasRoom (properties.getD []) →
      l.normalize.alias? = none ∧ l.normalize.properties = some (properties.getD [])) ∧
    ∀ (r : Registry) (renderer : Renderer), r.components.get? component = some renderer →
      r.components.get? l.component = none →
      (HasRoom (properties.getD []) → ∃ below, below <+: Node.preorderAll l.children ∧
        (r.register (.legacy l)).registry.history = r.history ++ l.normalize :: below ∧
        ((∀ d ∈ below, d.name ≠ l.component) →
          (r.register (.legacy l)).registry.resolve? l.component =
            some (Registry.entryOf l.normalize renderer))) ∧
      (¬HasRoom (properties.getD []) →
        (r.register (.legacy l)).failure = some (.unresolved l.component none) ∧
          (r.register (.legacy l)).registry = r) := by
  have halias : l.normalize.alias? = some component ↔ HasRoom (properties.getD []) := by
    constructor
    · intro hkept
      refine Classical.byContradiction (fun hroom => ?_)
      rw [alias?_normalize_of_no_room h hroom] at hkept
      cases hkept
    · exact alias?_normalize_of_room h
  refine ⟨halias, fun key hkey => property?_normalize h hkey,
    fun name hname => inside?_normalize h hname, fun hroom => ?_, ?_⟩
  · exact ⟨alias?_normalize_of_no_room h hroom, properties_normalize_of_no_room h hroom⟩
  · intro r renderer hbound hown
    rw [Registry.register_eq_recordAll, Node.preorder_legacy]
    constructor
    · intro hroom
      have hrenderer := (renderer?_normalize_of_room h hown hroom).trans hbound
      exact Registry.exists_recorded_below hrenderer _
    · intro hroom
      have hunbound := Registry.renderer?_eq_none.mp (renderer?_normalize_of_no_room h hown hroom)
      have hrefused :=
        Registry.recordAll_cons_of_not_bound hunbound (Node.preorderAll l.children)
      rw [alias?_normalize_of_no_room h hroom] at hrefused
      exact hrefused

/-- A grid that is shown as a table, with an entry `meta` of its own among its properties. -/
def grid (own : Json) : LegacyNode Node where
  component := "UserGrid"
  info := some ⟨some "TableRenderer", some [("meta", own), ("rows", .str "20")]⟩
  children := [.descriptor { name := "TableRenderer" }]

def tableRegistry : Registry := { components := ({} : ComponentMap).bind "TableRenderer" .obj }

theorem grid_keeps_alias :
    (grid (.obj [("size", .str "wide")])).info = some ⟨some "TableRenderer",
        some [("meta", .obj [("size", .str "wide")]), ("rows", .str "20")]⟩ ∧
      (grid (.obj [("size", .str "wide")])).normalize.alias? = some "TableRenderer" ∧
      ((grid (.obj [("size", .str "wide")])).normalize.property? "meta").bind
        (fun entry => entry.field? "size") = some (.str "wide") ∧
      (tableRegistry.register (.legacy (grid (.obj [("size", .str "wide")])))).registry.resolve?
        "UserGrid" =
          some (Registry.entryOf (grid (.obj [("size", .str "wide")])).normalize ⟨0, .obj⟩) := by
  obtain ⟨halias, _, hinside, _, hregister⟩ := normalize_alias_iff
    (grid (.obj [("size", .str "wide")])) "TableRenderer"
    (some [("meta", .obj [("size", .str "wide")]), ("rows", .str "20")]) rfl
  have hroom : HasRoom [("meta", .obj [("size", .str "wide")]), ("rows", .str "20")] := by
    intro entry hentry
    exact ⟨_, (Option.some.inj hentry).symm⟩
  obtain ⟨below, hprefix, _, hentry⟩ := (hregister tableRegistry ⟨0, .obj⟩ rfl rfl).1 hroom
  refine ⟨rfl, halias.mpr hroom, hinside "size" (by decide), hentry (fun d hd => ?_)⟩
  have hmem : d ∈ [({ name := "TableRenderer" } : Descriptor Node)] := hprefix.subset hd
  rw [List.mem_singleton.mp hmem]
  decide

theorem grid_loses_alias :
    (grid (.str "wide")).info = some ⟨some "TableRenderer",
        some [("meta", .str "wide"), ("rows", .str "20")]⟩ ∧
      (grid (.str "wide")).normalize.alias? ≠ some "TableRenderer" ∧
      tableRegistry.components.contains "TableRenderer" = true ∧
      (tableRegistry.register (.legacy (grid (.str "wide")))).failure =
        some (.unresolved "UserGrid" none) := by
  refine ⟨rfl, ?_, rfl, rfl⟩
  decide

end LegacyNode

end UiSchema
