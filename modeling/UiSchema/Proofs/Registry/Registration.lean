import UiSchema.Proofs.Node.Tree

/-!
# Registration goes down a list

Registering a tree records its descriptors in pre-order, each without its children, up to the first
one that has no renderer. What is recorded only adds names, so a name that was bound once has an
entry after every further registration, whether that one fails or not.
-/

namespace UiSchema.Registry

set_option autoImplicit false

/-- Records descriptors without their children, one after another, until one fails. -/
def recordAll (r : Registry) : List (Descriptor Node) → Registration
  | [] => { registry := r }
  | d :: rest => andThen (record r d) (fun r => recordAll r rest)

/-- The registry after trees were registered one after another, failures included. -/
def afterAll (r : Registry) (history : List Node) : Registry :=
  history.foldl (fun r n => (r.register n).registry) r

theorem andThen_assoc (first : Registration) (f g : Registry → Registration) :
    andThen (andThen first f) g = andThen first (fun r => andThen (f r) g) := by
  obtain ⟨r, notices, failure⟩ := first
  cases failure with
  | some e => rfl
  | none =>
    simp only [andThen]
    cases hf : (f r).failure with
    | some e => simp only [hf]
    | none => simp only [List.append_assoc]

theorem andThen_start (r : Registry) (next : Registry → Registration) :
    andThen { registry := r } next = next r := by
  simp only [andThen, List.nil_append]

theorem recordAll_append (r : Registry) (ds es : List (Descriptor Node)) :
    r.recordAll (ds ++ es) = andThen (r.recordAll ds) (fun r => r.recordAll es) := by
  induction ds generalizing r with
  | nil => exact (andThen_start r (fun r => r.recordAll es)).symm
  | cons d rest ih => simp only [List.cons_append, recordAll, ih, andThen_assoc]

theorem registerAll_eq_recordAll {nodes : List Node}
    (h : ∀ n ∈ nodes, ∀ r : Registry, r.register n = r.recordAll n.preorder) (r : Registry) :
    r.registerAll nodes = r.recordAll (Node.preorderAll nodes) := by
  induction nodes generalizing r with
  | nil => rfl
  | cons n rest ih =>
    have hrest := ih (fun m hm => h m (List.mem_cons_of_mem n hm))
    simp only [registerAll, Node.preorderAll, recordAll_append, h n List.mem_cons_self, hrest]

theorem register_eq_recordAll (r : Registry) (n : Node) :
    r.register n = r.recordAll n.preorder := by
  induction n using Node.induction generalizing r with
  | wrapper w ih =>
    rw [register, Node.preorder_wrapper]
    exact ih r
  | legacy l ih =>
    rw [register, Node.preorder_legacy, recordAll]
    exact congrArg _ (funext (fun r => registerAll_eq_recordAll ih r))
  | descriptor d ih =>
    rw [register, Node.preorder_descriptor, recordAll]
    exact congrArg _ (funext (fun r => registerAll_eq_recordAll ih r))

/-- What recording a descriptor does: it fails and changes nothing, or it binds the name. -/
theorem record_cases (r : Registry) (d : Descriptor Node) :
    (renderer? r.components d = none ∧
      r.record d =
        ⟨r, unboundNotices r.components d, some (.unresolved d.name d.alias?)⟩) ∨
    ∃ renderer, renderer? r.components d = some renderer ∧
      r.record d =
        ⟨{ r with
            entries := Dict.insert r.entries d.name (entryOf d renderer)
            history := r.history ++ [d] },
          unboundNotices r.components d, none⟩ := by
  unfold record
  cases hrenderer : renderer? r.components d with
  | none => exact Or.inl ⟨rfl, rfl⟩
  | some renderer => exact Or.inr ⟨renderer, rfl, rfl⟩

/-- Going on from a registration either stops at its failure or continues in its registry. -/
theorem andThen_cases (first : Registration) (next : Registry → Registration) :
    (first.failure ≠ none ∧ andThen first next = first) ∨
    (first.failure = none ∧ (andThen first next).registry = (next first.registry).registry ∧
      (andThen first next).failure = (next first.registry).failure) := by
  obtain ⟨r, notices, failure⟩ := first
  cases failure with
  | some e => exact Or.inl ⟨nofun, rfl⟩
  | none => exact Or.inr ⟨rfl, rfl, rfl⟩

section Names

variable {name : String}

theorem contains_insert_self (r : Registry) (e : RegistryEntry) (history : List (Descriptor Node)) :
    contains { r with entries := Dict.insert r.entries name e, history := history } name =
      true := by
  simp [contains, Dict.contains, Dict.get?_insert_self]

theorem contains_insert {r : Registry} (h : r.contains name = true) (other : String)
    (e : RegistryEntry) (history : List (Descriptor Node)) :
    contains { r with entries := Dict.insert r.entries other e, history := history } name =
      true := by
  by_cases hname : name = other
  · subst hname
    exact contains_insert_self r e history
  · simpa [contains, Dict.contains, Dict.get?_insert_of_ne _ _ hname] using h

theorem contains_record {r : Registry} (h : r.contains name = true) (d : Descriptor Node) :
    (r.record d).registry.contains name = true := by
  rcases r.record_cases d with ⟨_, heq⟩ | ⟨renderer, _, heq⟩
  · rw [heq]
    exact h
  · rw [heq]
    exact contains_insert h d.name _ _

theorem contains_recordAll {r : Registry} (h : r.contains name = true)
    (ds : List (Descriptor Node)) : (r.recordAll ds).registry.contains name = true := by
  induction ds generalizing r with
  | nil => exact h
  | cons d rest ih =>
    rw [recordAll]
    rcases andThen_cases (r.record d) (fun r => r.recordAll rest) with ⟨_, heq⟩ | ⟨_, heq, _⟩
    · rw [heq]
      exact contains_record h d
    · rw [heq]
      exact ih (contains_record h d)

theorem contains_afterAll {r : Registry} (h : r.contains name = true) (history : List Node) :
    (r.afterAll history).contains name = true := by
  induction history generalizing r with
  | nil => exact h
  | cons n rest ih =>
    rw [afterAll, List.foldl_cons, ← afterAll, register_eq_recordAll]
    exact ih (contains_recordAll h _)

/-- After recording succeeds every name has an entry. -/
theorem contains_of_recordAll {r : Registry} {ds : List (Descriptor Node)}
    (h : (r.recordAll ds).failure = none) :
    ∀ d ∈ ds, (r.recordAll ds).registry.contains d.name = true := by
  induction ds generalizing r with
  | nil => exact List.forall_mem_nil _
  | cons d rest ih =>
    rw [recordAll] at h ⊢
    rcases andThen_cases (r.record d) (fun r => r.recordAll rest) with
      ⟨hfailure, heq⟩ | ⟨hsuccess, hregistry, hfailure⟩
    · rw [heq] at h
      exact absurd h hfailure
    · rw [hregistry]
      rw [hfailure] at h
      refine List.forall_mem_cons.mpr ⟨?_, ih h⟩
      refine contains_recordAll ?_ rest
      rcases r.record_cases d with ⟨_, heq⟩ | ⟨renderer, _, heq⟩
      · rw [heq] at hsuccess
        cases hsuccess
      · rw [heq]
        exact contains_insert_self r _ _

end Names

end UiSchema.Registry
