import UiSchema.Proofs.Registry.Stopping

/-!
# Entries follow the history

A registry keeps an entry for every name and a history of all descriptors. Both are fed by the same
walk, which may fail in the middle, and they stay in step: the history holds what was recorded, in
order, and the entry of a name is that of the descriptor recorded last under it.
-/

namespace UiSchema.Registry

set_option autoImplicit false

/-- The descriptor is in the list, and none behind it has its name. -/
def IsLatest (ds : List (Descriptor Node)) (d : Descriptor Node) : Prop :=
  ∃ before after, ds = before ++ d :: after ∧ ∀ e ∈ after, e.name ≠ d.name

theorem IsLatest.mem {ds : List (Descriptor Node)} {d : Descriptor Node} (h : IsLatest ds d) :
    d ∈ ds := by
  obtain ⟨before, after, rfl, _⟩ := h
  exact List.mem_append_right before List.mem_cons_self

theorem isLatest_concat {ds : List (Descriptor Node)} {d x : Descriptor Node} :
    IsLatest (ds ++ [d]) x ↔ x = d ∨ (d.name ≠ x.name ∧ IsLatest ds x) := by
  constructor
  · rintro ⟨before, after, heq, hafter⟩
    rcases List.eq_nil_or_concat after with rfl | ⟨init, last, rfl⟩
    · obtain ⟨_, hlast⟩ := List.append_inj' heq rfl
      cases hlast
      exact Or.inl rfl
    · rw [List.concat_eq_append] at heq hafter
      rw [← List.cons_append, ← List.append_assoc] at heq
      obtain ⟨hfront, hlast⟩ := List.append_inj' heq rfl
      cases hlast
      refine Or.inr ⟨hafter d (List.mem_append_right init List.mem_cons_self), before, init,
        hfront, fun e he => ?_⟩
      exact hafter e (List.mem_append_left _ he)
  · rintro (rfl | ⟨hname, before, after, rfl, hafter⟩)
    · exact ⟨ds, [], rfl, List.forall_mem_nil _⟩
    · refine ⟨before, after ++ [d], by simp, fun e he => ?_⟩
      rcases List.mem_append.mp he with he | he
      · exact hafter e he
      · rw [List.mem_singleton.mp he]
        exact hname

theorem exists_isLatest {ds : List (Descriptor Node)} {name : String}
    (h : ∃ d ∈ ds, d.name = name) : ∃ d, IsLatest ds d ∧ d.name = name := by
  induction ds with
  | nil =>
    obtain ⟨d, hd, _⟩ := h
    cases hd
  | cons d rest ih =>
    by_cases hrest : ∃ e ∈ rest, e.name = name
    · obtain ⟨e, ⟨before, after, heq, hafter⟩, hname⟩ := ih hrest
      exact ⟨e, ⟨d :: before, after, congrArg (d :: ·) heq, hafter⟩, hname⟩
    · obtain ⟨e, he, hname⟩ := h
      rcases List.mem_cons.mp he with rfl | he
      · exact ⟨e, ⟨[], rest, rfl, fun x hx hsame => hrest ⟨x, hx, hsame.trans hname⟩⟩, hname⟩
      · exact absurd ⟨e, he, hname⟩ hrest

/-- What a map binds to a descriptor: the renderer of its name or, when that is unbound, the one of
its alias. -/
def Binds (m : ComponentMap) (d : Descriptor Node) (renderer : Renderer) : Prop :=
  m.get? d.name = some renderer ∨
    (m.get? d.name = none ∧ ∃ other, d.alias? = some other ∧ m.get? other = some renderer)

theorem renderer?_eq_some {m : ComponentMap} {d : Descriptor Node} {renderer : Renderer} :
    renderer? m d = some renderer ↔ Binds m d renderer := by
  rw [renderer?, Binds, Option.or_eq_some_iff, Option.bind_eq_some_iff]

/-- The descriptors in front of the first one that is not bound. -/
def upToUnbound (m : ComponentMap) (ds : List (Descriptor Node)) : List (Descriptor Node) :=
  ds.takeWhile (fun d => decide (Bound m d))

theorem upToUnbound_cons_of_bound {m : ComponentMap} {d : Descriptor Node} (h : Bound m d)
    (ds : List (Descriptor Node)) : upToUnbound m (d :: ds) = d :: upToUnbound m ds :=
  List.takeWhile_cons_of_pos (decide_eq_true h)

theorem upToUnbound_cons_of_not_bound {m : ComponentMap} {d : Descriptor Node} (h : ¬Bound m d)
    (ds : List (Descriptor Node)) : upToUnbound m (d :: ds) = [] :=
  List.takeWhile_cons_of_neg (mt of_decide_eq_true h)

/-- The descriptors that registering a tree records: all up to the first that is not bound. -/
def recordedOf (m : ComponentMap) (n : Node) : List (Descriptor Node) := upToUnbound m n.preorder

/-- The descriptors recorded over several registrations, oldest first. -/
def recorded (m : ComponentMap) (history : List Node) : List (Descriptor Node) :=
  history.flatMap (recordedOf m)

/-- The registry holds what was recorded: all of it in the history, the latest of each name in the
entries. -/
structure Follows (r : Registry) (m : ComponentMap) (ds : List (Descriptor Node)) : Prop where
  components : r.components = m
  history : r.history = ds
  contains_iff : ∀ name, r.contains name = true ↔ ∃ d ∈ ds, d.name = name
  latest : ∀ d, IsLatest ds d → ∃ renderer, Binds m d renderer ∧
    r.resolve? d.name =
      some ⟨d.name, d.path, d.isMenuItem, d.content, d.properties, renderer⟩

section Runs

variable {r : Registry} {m : ComponentMap} {ds : List (Descriptor Node)}

theorem follows_new (m : ComponentMap) : Follows { components := m } m [] where
  components := rfl
  history := rfl
  contains_iff _ := ⟨nofun, nofun⟩
  latest _ h := absurd h.mem List.not_mem_nil

/-- Recording one more descriptor puts it behind the others and over their entries. -/
theorem Follows.insert (h : r.Follows m ds) {d : Descriptor Node} {renderer : Renderer}
    (hrenderer : Binds m d renderer) :
    Follows { r with
      entries := Dict.insert r.entries d.name (entryOf d renderer)
      history := r.history ++ [d] } m (ds ++ [d]) where
  components := h.components
  history := congrArg (· ++ [d]) h.history
  contains_iff name := by
    have hcontains := h.contains_iff name
    rw [contains, Dict.contains] at hcontains ⊢
    by_cases hname : name = d.name
    · subst hname
      rw [Dict.get?_insert_self]
      exact ⟨fun _ => ⟨d, List.mem_append_right ds List.mem_cons_self, rfl⟩, fun _ => rfl⟩
    · rw [Dict.get?_insert_of_ne _ _ hname, hcontains]
      constructor
      · rintro ⟨e, he, hnamed⟩
        exact ⟨e, List.mem_append_left [d] he, hnamed⟩
      · rintro ⟨e, he, hnamed⟩
        rcases List.mem_append.mp he with he | he
        · exact ⟨e, he, hnamed⟩
        · rw [List.mem_singleton.mp he] at hnamed
          exact absurd hnamed.symm hname
  latest x hx := by
    rcases isLatest_concat.mp hx with rfl | ⟨hname, hx⟩
    · exact ⟨renderer, hrenderer, Dict.get?_insert_self _ _ _⟩
    · obtain ⟨bound, hbound, hentry⟩ := h.latest x hx
      refine ⟨bound, hbound, ?_⟩
      rw [resolve?] at hentry ⊢
      rw [Dict.get?_insert_of_ne _ _ (Ne.symm hname), hentry]

theorem follows_recordAll (h : r.Follows m ds) (es : List (Descriptor Node)) :
    (r.recordAll es).registry.Follows m (ds ++ upToUnbound m es) := by
  induction es generalizing r ds with
  | nil =>
    rw [upToUnbound, List.takeWhile_nil, List.append_nil]
    exact h
  | cons d rest ih =>
    rw [recordAll]
    rcases r.record_cases d with ⟨hrenderer, heq⟩ | ⟨renderer, hrenderer, heq⟩
    · -- the walk stops here, and the list of what is recorded ends here too
      rw [h.components] at hrenderer
      have hstop := upToUnbound_cons_of_not_bound (renderer?_eq_none.mp hrenderer) rest
      rw [heq, hstop, List.append_nil]
      exact h
    · rw [h.components] at hrenderer
      have hgoes := upToUnbound_cons_of_bound (bound_of_renderer? hrenderer) rest
      rw [hgoes, ← List.singleton_append, ← List.append_assoc, heq]
      exact ih (h.insert (renderer?_eq_some.mp hrenderer))

theorem follows_afterAll (h : r.Follows m ds) (history : List Node) :
    (r.afterAll history).Follows m (ds ++ recorded m history) := by
  induction history generalizing r ds with
  | nil =>
    rw [recorded, List.flatMap_nil, List.append_nil]
    exact h
  | cons n rest ih =>
    rw [recorded, List.flatMap_cons, ← List.append_assoc]
    refine ih ?_
    dsimp only
    rw [register_eq_recordAll]
    exact follows_recordAll h n.preorder

/-- Every entry has the name that it is found under. -/
theorem Follows.name_of_resolve? (h : r.Follows m ds) {name : String} {entry : RegistryEntry}
    (hentry : r.resolve? name = some entry) : entry.name = name := by
  have hcontains : r.contains name = true := by
    rw [resolve?] at hentry
    rw [contains, Dict.contains, hentry]
    rfl
  obtain ⟨d, hd, rfl⟩ := exists_isLatest ((h.contains_iff name).mp hcontains)
  obtain ⟨renderer, _, hlatest⟩ := h.latest d hd
  rw [hentry] at hlatest
  cases hlatest
  rfl

end Runs

/-- What the registry answers is read off what was recorded. -/
structure Reports (r : Registry) (m : ComponentMap) (ds : List (Descriptor Node)) : Prop
    extends Follows r m ds where
  pathOf : ∀ d, IsLatest ds d → r.pathOf d.name = d.path.getD notFound
  propertiesOf : ∀ d, IsLatest ds d → r.propertiesOf? d.name = d.properties
  absent : ∀ name, (∀ d ∈ ds, d.name ≠ name) →
    r.resolve? name = none ∧ r.pathOf name = notFound ∧ r.propertiesOf? name = none
  routes : r.routes = ds.filterMap (fun d => d.path.map (fun path => (path, d)))
  menuItems : r.menuItems = ds.filter (fun d => d.isMenuItem)

theorem Follows.reports {r : Registry} {m : ComponentMap} {ds : List (Descriptor Node)}
    (h : r.Follows m ds) : r.Reports m ds where
  toFollows := h
  pathOf d hd := by
    obtain ⟨renderer, _, hentry⟩ := h.latest d hd
    rw [Registry.pathOf, hentry]
    rfl
  propertiesOf d hd := by
    obtain ⟨renderer, _, hentry⟩ := h.latest d hd
    rw [Registry.propertiesOf?, hentry]
    rfl
  absent name hname := by
    have hcontains : ¬r.contains name = true := fun hcontains => by
      obtain ⟨d, hd, hnamed⟩ := (h.contains_iff name).mp hcontains
      exact hname d hd hnamed
    have hnone : r.resolve? name = none := by
      rwa [contains, Dict.contains, Option.not_isSome_iff_eq_none] at hcontains
    rw [Registry.pathOf, Registry.propertiesOf?, hnone]
    exact ⟨rfl, rfl, rfl⟩
  routes := by rw [Registry.routes, h.history]
  menuItems := by rw [Registry.menuItems, h.history]

/-- Over any registrations, failed ones with what they recorded before, a registry reports the last
descriptor of every name and lists them all. -/
theorem afterAll_reports (m : ComponentMap) (history : List Node) :
    (afterAll { components := m } history).Reports m (recorded m history) :=
  (follows_afterAll (follows_new m) history).reports

def pageMap : ComponentMap := (({} : ComponentMap).bind "page" .obj).bind "table" .obj

/-- A descriptor that is bound by its alias alone. -/
def gridDescriptor : Descriptor Node where
  name := "grid"
  properties := some [("meta", .obj [("component", .str "table")])]

def startPage : Descriptor Node where
  name := "page"
  path := some "/"
  isMenuItem := true
  children := [.descriptor gridDescriptor]

/-- The page at another path. Registering it stops at the chart, which is not bound, and does not
come to the table. -/
def movedPage : Descriptor Node where
  name := "page"
  path := some "/home"
  children := [.descriptor { name := "chart" }, .descriptor { name := "table" }]

def pageHistory : List Node := [.descriptor startPage, .descriptor movedPage]

theorem pages_reported :
    recorded pageMap pageHistory = [startPage, gridDescriptor, movedPage] ∧
      (afterAll { components := pageMap } pageHistory).pathOf "page" = "/home" ∧
      (∃ renderer, pageMap.get? "table" = some renderer ∧
        (afterAll { components := pageMap } pageHistory).resolve? "grid" =
          some (entryOf gridDescriptor renderer)) ∧
      (afterAll { components := pageMap } pageHistory).resolve? "chart" = none ∧
      (afterAll { components := pageMap } pageHistory).resolve? "table" = none ∧
      (afterAll { components := pageMap } pageHistory).routes =
        [("/", startPage), ("/home", movedPage)] ∧
      (afterAll { components := pageMap } pageHistory).menuItems = [startPage] := by
  have hrecorded : recorded pageMap pageHistory = [startPage, gridDescriptor, movedPage] := rfl
  have hreports := afterAll_reports pageMap pageHistory
  rw [hrecorded] at hreports
  have hlatest : IsLatest [startPage, gridDescriptor, movedPage] movedPage :=
    ⟨[startPage, gridDescriptor], [], rfl, List.forall_mem_nil _⟩
  have hgrid : IsLatest [startPage, gridDescriptor, movedPage] gridDescriptor := by
    refine ⟨[startPage], [movedPage], rfl, fun e he => ?_⟩
    rw [List.mem_singleton.mp he]
    decide
  obtain ⟨renderer, hbinds, hentry⟩ := hreports.latest gridDescriptor hgrid
  have htable : pageMap.get? "table" = some renderer := by
    rcases hbinds with hown | ⟨_, other, halias, hother⟩
    · cases hown
    · cases halias
      exact hother
  have habsent (name : String) (hpage : "page" ≠ name) (hgrid : "grid" ≠ name) :
      (afterAll { components := pageMap } pageHistory).resolve? name = none := by
    refine (hreports.absent name (fun d hd => ?_)).1
    simp only [List.mem_cons, List.not_mem_nil, or_false] at hd
    rcases hd with rfl | rfl | rfl
    · exact hpage
    · exact hgrid
    · exact hpage
  exact ⟨hrecorded, hreports.pathOf movedPage hlatest, ⟨renderer, htable, hentry⟩,
    habsent "chart" (by decide) (by decide), habsent "table" (by decide) (by decide),
    hreports.routes, hreports.menuItems⟩

end UiSchema.Registry
