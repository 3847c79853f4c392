import UiSchema.Proofs.Form.Submission
import UiSchema.Proofs.Registry.History
import UiSchema.Proofs.Registry.Lifecycle

/-!
# Redirects follow registrations

After a successful post the path of the component is looked up as a text, with a marker for a
missing path. Whatever registry is asked and whatever was registered before, a form leads on exactly
when the latest registration of the component has a path other than this marker. A path that reads
like the marker is taken for a missing one.
-/

namespace UiSchema

set_option autoImplicit false

namespace Registry

/-- The latest of the descriptors that have the name has the path. -/
def LatestPath (ds : List (Descriptor Node)) (name path : String) : Prop :=
  ∃ d, IsLatest ds d ∧ d.name = name ∧ d.path = some path

theorem Reports.pathOf_eq_iff {r : Registry} {m : ComponentMap} {ds : List (Descriptor Node)}
    (h : r.Reports m ds) {name path : String} (hmarked : path ≠ notFound) :
    r.pathOf name = path ↔ LatestPath ds name path := by
  constructor
  · intro hpath
    have hnamed : ∃ d ∈ ds, d.name = name := by
      by_contra hnone
      have habsent := h.absent name (fun d hd hname => hnone ⟨d, hd, hname⟩)
      rw [habsent.2.1] at hpath
      exact hmarked hpath.symm
    obtain ⟨d, hlatest, rfl⟩ := exists_isLatest hnamed
    rw [h.pathOf d hlatest] at hpath
    refine ⟨d, hlatest, rfl, ?_⟩
    cases hd : d.path with
    | none =>
      rw [hd] at hpath
      exact absurd hpath.symm hmarked
    | some found =>
      rw [hd] at hpath
      exact congrArg some hpath
  · rintro ⟨d, hlatest, rfl, hd⟩
    rw [h.pathOf d hlatest, hd]
    rfl

end Registry

namespace CompiledForm

/-- What a submission finds when it looks for a registry, and what was recorded there: in the one
that it is given or, without one, in the shared one since it was last set up. -/
inductive Consults : Option Registry → SharedRegistry → List (Descriptor Node) → Prop
  | given (m : ComponentMap) (history : List Node) (shared : SharedRegistry) :
    Consults (some (Registry.afterAll { components := m } history)) shared
      (Registry.recorded m history)
  | shared {calls : List SharedCall} {m : ComponentMap} {since : List SharedCall}
    (h : SharedRegistry.SetUp calls m since) :
    Consults none (SharedRegistry.after calls)
      (Registry.recorded m (SharedRegistry.registered since))
  | nowhere {calls : List SharedCall} (h : ¬∃ m since, SharedRegistry.SetUp calls m since) :
    Consults none (SharedRegistry.after calls) []

theorem exists_consults (calls : List SharedCall) :
    ∃ ds, Consults none (SharedRegistry.after calls) ds := by
  by_cases h : ∃ m since, SharedRegistry.SetUp calls m since
  · obtain ⟨m, since, hsetUp⟩ := h
    exact ⟨_, .shared hsetUp⟩
  · exact ⟨[], .nowhere h⟩

section Templates

variable {given : Option Registry} {shared : SharedRegistry} {ds : List (Descriptor Node)}

theorem Consults.redirectRegistry (h : Consults given shared ds) :
    (∃ r m, redirectRegistry given shared = .ok r ∧ r.Reports m ds) ∨
      (redirectRegistry given shared = .error .notInitialized ∧ ds = []) := by
  cases h with
  | given m history shared =>
    have hfollows := Registry.follows_afterAll (Registry.follows_new m) history
    exact Or.inl ⟨_, m, rfl, hfollows.reports⟩
  | @shared calls m since hsetUp =>
    have hfollows := Registry.follows_afterAll (Registry.follows_new m)
      (SharedRegistry.registered since)
    refine Or.inl ⟨_, m, ?_, hfollows.reports⟩
    rw [CompiledForm.redirectRegistry, SharedRegistry.read, hsetUp.current]
    rfl
  | @nowhere calls hidle =>
    rcases SharedRegistry.current_cases calls with ⟨hnone, _⟩ | ⟨r, _, husing⟩
    · refine Or.inr ⟨?_, rfl⟩
      rw [CompiledForm.redirectRegistry, SharedRegistry.read, hnone]
    · exact absurd husing hidle

theorem Consults.template_eq_iff (h : Consults given shared ds) {component template : String}
    (hmarked : template ≠ Registry.notFound) (j : Journal) :
    ((redirectTemplate (CompiledForm.redirectRegistry given shared) component).run j).1 =
        template ↔
      Registry.LatestPath ds component template := by
  rcases h.redirectRegistry with ⟨r, m, heq, hreports⟩ | ⟨heq, rfl⟩
  · rw [heq]
    exact hreports.pathOf_eq_iff hmarked
  · rw [heq]
    constructor
    · intro htemplate
      exact absurd htemplate.symm hmarked
    · rintro ⟨d, hlatest, _⟩
      exact absurd hlatest.mem List.not_mem_nil

end Templates

/-- A form leads on to what its template makes of the response, unless that is the marker. -/
theorem redirectFor_eq_some_iff {form : CompiledForm} {target : RedirectTarget}
    (htarget : form.dispatch.bind (·.redirect) = some target) (response : Json)
    (registry : Except RegistryError Registry) (j : Journal) (text : String) :
    ((form.redirectFor response registry).run j).1 = some text ↔
      ∃ template, ((redirectTemplate registry target.component).run j).1 = template ∧
        template ≠ Registry.notFound ∧
        text = Route.resolve template response target.payloadPath := by
  rw [redirectFor, htarget]
  simp only
  rw [Remote.run_bind]
  generalize (redirectTemplate registry target.component).run j = found
  by_cases hmarked : found.1 = Registry.notFound
  · rw [if_pos hmarked]
    constructor
    · intro hnone
      cases hnone
    · rintro ⟨template, htemplate, hother, _⟩
      exact absurd (htemplate.symm.trans hmarked) hother
  · rw [if_neg hmarked]
    constructor
    · intro hsome
      exact ⟨found.1, rfl, hmarked, (Option.some.inj hsome).symm⟩
    · rintro ⟨template, rfl, _, rfl⟩
      rfl

/-- A submission whose post succeeds leads on exactly when the latest registration of the component
has a path that does not read like the marker, and then to what the response makes of this path. -/
theorem submit_redirects_iff {form : CompiledForm} {target : RedirectTarget}
    (htarget : form.dispatch.bind (·.redirect) = some target) {given : Option Registry}
    {shared : SharedRegistry} {ds : List (Descriptor Node)} (h : Consults given shared ds)
    (t : Transport) (values : Submission) (j : Journal) (response : Json)
    (haction : form.action ≠ "") (hvalues : ¬form.Refuses values)
    (hpost : t.post j.calls form.action (form.toNested values) = .ok response) :
    ∃ redirect, ((form.submit t values given shared).run j).1 = .ok ⟨response, redirect⟩ ∧
      ∀ text, redirect = some text ↔ ∃ path, Registry.LatestPath ds target.component path ∧
        path ≠ Registry.notFound ∧ text = Route.resolve path response target.payloadPath := by
  rw [submit_of_accepted t given shared j haction hvalues hpost]
  refine ⟨_, rfl, fun text => ?_⟩
  rw [redirectFor_eq_some_iff htarget]
  apply exists_congr
  intro path
  apply and_congr_left
  intro hpath
  exact h.template_eq_iff hpath.1 (form.posted values j)

end CompiledForm

def salePages : ComponentMap := ({} : ComponentMap).bind "sales" .obj

def salesAt (path : String) : Node := .descriptor { name := "sales", path := some path }

def salesMoved : List Node := [salesAt "/sales", salesAt "/sales/:customer"]

theorem sale_leads_to_customer :
    saleForm.dispatch.bind (·.redirect) = some { component := "sales" } ∧
      CompiledForm.Consults (some (Registry.afterAll { components := salePages } salesMoved)) {}
        (Registry.recorded salePages salesMoved) ∧
      saleForm.action ≠ "" ∧ ¬saleForm.Refuses saleValues ∧
      echo.post [] saleForm.action (saleForm.toNested saleValues) =
        .ok (saleForm.toNested saleValues) ∧
      ((saleForm.submit echo saleValues
        (some (Registry.afterAll { components := salePages } salesMoved)) {}).run {}).1 =
          .ok ⟨saleForm.toNested saleValues, some "/sales/Ada"⟩ := by
  have htarget : saleForm.dispatch.bind (·.redirect) = some { component := "sales" } := rfl
  have hconsults := CompiledForm.Consults.given salePages salesMoved {}
  have haction : saleForm.action ≠ "" := by decide +kernel
  have hvalues : ¬saleForm.Refuses saleValues := by decide +kernel
  have hpost : echo.post [] saleForm.action (saleForm.toNested saleValues) =
      .ok (saleForm.toNested saleValues) := rfl
  refine ⟨htarget, hconsults, haction, hvalues, hpost, ?_⟩
  obtain ⟨redirect, hsubmit, hredirect⟩ := CompiledForm.submit_redirects_iff htarget hconsults
    echo saleValues {} _ haction hvalues hpost
  have hlatest : Registry.LatestPath (Registry.recorded salePages salesMoved) "sales"
      "/sales/:customer" := ⟨_, ⟨[_], [], rfl, List.forall_mem_nil _⟩, rfl, rfl⟩
  have htext : redirect = some "/sales/Ada" := by
    refine (hredirect "/sales/Ada").mpr ⟨"/sales/:customer", hlatest, ?_, ?_⟩
    · decide
    · decide +kernel
  rw [hsubmit, htext]

/-- Here the component is registered at a path, and the form leads nowhere. -/
theorem sale_leads_nowhere :
    saleForm.dispatch.bind (·.redirect) = some { component := "sales" } ∧
      Registry.LatestPath (Registry.recorded salePages [salesAt "notFound"]) "sales" "notFound" ∧
      Route.resolve "notFound" (saleForm.toNested saleValues) none = "notFound" ∧
      ((saleForm.submit echo saleValues
        (some (Registry.afterAll { components := salePages } [salesAt "notFound"])) {}).run {}).1 =
          .ok ⟨saleForm.toNested saleValues, none⟩ := by
  have hlatest : Registry.LatestPath (Registry.recorded salePages [salesAt "notFound"]) "sales"
      "notFound" := ⟨_, ⟨[], [], rfl, List.forall_mem_nil _⟩, rfl, rfl⟩
  refine ⟨rfl, hlatest, ?_, ?_⟩
  · decide +kernel
  · rfl

end UiSchema
