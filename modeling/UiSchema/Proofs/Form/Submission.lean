import UiSchema.Form.Submit
import UiSchema.Proofs.Form.Nesting
import UiSchema.Proofs.Remote

/-!
# One post for each submission

A submission is answered without a call when the form has no action or a rule refuses a value. In
all other cases it is one post, and where the form leads to afterwards only adds notices. The object
that is posted holds the values that were checked, so they pass again when they are read from it.
-/

namespace UiSchema

set_option autoImplicit false

open CompiledField

namespace CompiledForm

/-- Some rule of some leaf rejects the value of the leaf. -/
def Refuses (form : CompiledForm) (values : Submission) : Prop :=
  ∃ leaf ∈ form.leaves, ∃ rule ∈ leaf.rules,
    rule.passes (Dict.get? values leaf.fullName) = false

instance (form : CompiledForm) (values : Submission) : Decidable (form.Refuses values) :=
  inferInstanceAs (Decidable (∃ leaf ∈ form.leaves, ∃ rule ∈ leaf.rules,
    rule.passes (Dict.get? values leaf.fullName) = false))

/-- What a submission to a form calls and what it answers, from one journal to another. -/
structure SubmitsOnce (form : CompiledForm) (t : Transport) (values : Submission)
    (before after : Journal) (answer : Except SubmitError SubmitOutcome) : Prop where
  calls : after.calls = before.calls ∨
    after.calls = before.calls ++ [.post form.action (form.toNested values)]
  missing : form.action = "" → answer = .error .missingAction ∧ after.calls = before.calls
  invalid : form.action ≠ "" → form.Refuses values →
    ∃ errors, form.validate values = .error errors ∧ answer = .error (.invalid errors) ∧
      after.calls = before.calls
  posted : form.action ≠ "" → ¬form.Refuses values →
    after.calls = before.calls ++ [.post form.action (form.toNested values)] ∧
      match t.post before.calls form.action (form.toNested values) with
      | .error errors => answer = .error (.rejected errors)
      | .ok response => ∃ redirect, answer = .ok ⟨response, redirect⟩
  again : ¬form.Refuses values → DistinctNames form.fields →
    ∃ nested, form.toNested values = .obj nested ∧ form.validate (form.valuesFrom nested) = .ok ()

section Validation

variable {form : CompiledForm} {values : Submission}

theorem validationErrors_eq_nil_iff : form.validationErrors values = [] ↔ ¬form.Refuses values := by
  rw [validationErrors, Dict.ofList_eq_nil_iff, List.filterMap_eq_nil_iff]
  simp [failures, Refuses]

theorem validate_of_not_refuses (h : ¬form.Refuses values) : form.validate values = .ok () := by
  simp only [validate, validationErrors_eq_nil_iff.mpr h, List.isEmpty_nil, if_true]

theorem validate_of_refuses (h : form.Refuses values) :
    form.validate values = .error (form.validationErrors values) := by
  have hne : form.validationErrors values ≠ [] := fun hnil =>
    validationErrors_eq_nil_iff.mp hnil h
  simp only [validate, List.isEmpty_eq_false_iff.mpr hne, Bool.false_eq_true, if_false]

theorem refuses_congr {other : Submission}
    (h : ∀ leaf ∈ form.leaves,
      Dict.get? other leaf.fullName = Dict.get? values leaf.fullName) :
    form.Refuses other ↔ form.Refuses values := by
  refine exists_congr (fun leaf => and_congr_right (fun hleaf => ?_))
  rw [h leaf hleaf]

end Validation

theorem silent_redirectTemplate (registry : Except RegistryError Registry) (component : String) :
    (redirectTemplate registry component).Silent := by
  unfold redirectTemplate
  split
  · exact Remote.silent_pure _
  · exact (Remote.silent_warn _).bind (fun _ => Remote.silent_pure _)

theorem silent_redirectFor (form : CompiledForm) (response : Json)
    (registry : Except RegistryError Registry) : (form.redirectFor response registry).Silent := by
  unfold redirectFor
  split
  · exact Remote.silent_pure _
  · refine (silent_redirectTemplate registry _).bind (fun template => ?_)
    split
    · exact (Remote.silent_warn _).bind (fun _ => Remote.silent_pure _)
    · exact Remote.silent_pure _

/-- A journal with the post of a form behind its calls. -/
def posted (form : CompiledForm) (values : Submission) (j : Journal) : Journal :=
  { j with calls := j.calls ++ [.post form.action (form.toNested values)] }

section Runs

variable {form : CompiledForm} {values : Submission} (t : Transport) (given : Option Registry)
variable (shared : SharedRegistry) (j : Journal)

theorem submit_of_no_action (haction : form.action = "") :
    (form.submit t values given shared).run j = (.error .missingAction, j) := by
  rw [submit, if_pos haction]
  rfl

theorem submit_of_refuses (haction : form.action ≠ "") (hvalues : form.Refuses values) :
    (form.submit t values given shared).run j =
      (.error (.invalid (form.validationErrors values)), j) := by
  rw [submit, if_neg haction, validate_of_refuses hvalues]
  rfl

theorem submit_of_rejected (haction : form.action ≠ "") (hvalues : ¬form.Refuses values)
    {errors : ErrorSet}
    (hpost : t.post j.calls form.action (form.toNested values) = .error errors) :
    (form.submit t values given shared).run j =
      (.error (.rejected errors), form.posted values j) := by
  rw [submit, if_neg haction, validate_of_not_refuses hvalues]
  simp only
  rw [Remote.run_bind, Remote.run_post, hpost]
  rfl

theorem submit_of_accepted (haction : form.action ≠ "") (hvalues : ¬form.Refuses values)
    {response : Json}
    (hpost : t.post j.calls form.action (form.toNested values) = .ok response) :
    (form.submit t values given shared).run j =
      let found := (form.redirectFor response (redirectRegistry given shared)).run
        (form.posted values j)
      (.ok ⟨response, found.1⟩, found.2) := by
  rw [submit, if_neg haction, validate_of_not_refuses hvalues]
  simp only
  rw [Remote.run_bind, Remote.run_post, hpost]
  rfl

/-- When all rules pass, there is one post, and its answer decides. -/
theorem submit_of_passes (haction : form.action ≠ "") (hvalues : ¬form.Refuses values) :
    ((form.submit t values given shared).run j).2.calls =
        j.calls ++ [.post form.action (form.toNested values)] ∧
      match t.post j.calls form.action (form.toNested values) with
      | .error errors =>
        ((form.submit t values given shared).run j).1 = .error (.rejected errors)
      | .ok response =>
        ∃ redirect, ((form.submit t values given shared).run j).1 = .ok ⟨response, redirect⟩ := by
  cases hpost : t.post j.calls form.action (form.toNested values) with
  | error errors =>
    rw [submit_of_rejected t given shared j haction hvalues hpost]
    exact ⟨rfl, rfl⟩
  | ok response =>
    rw [submit_of_accepted t given shared j haction hvalues hpost]
    -- after the post there are only notices
    exact ⟨silent_redirectFor form response _ _, _, rfl⟩

end Runs

/-- What was posted reads back as values that pass. -/
theorem validate_valuesFrom {form : CompiledForm} {values : Submission}
    (haddr : ∀ f ∈ form.fields, Addressed [] f) (hnames : DistinctNames form.fields)
    (h : ¬form.Refuses values) :
    ∃ nested, form.toNested values = .obj nested ∧
      form.validate (form.valuesFrom nested) = .ok () := by
  obtain ⟨nested, hnested⟩ := toNested_obj haddr values
  refine ⟨nested, hnested, validate_of_not_refuses (mt (refuses_congr ?_).mp h)⟩
  intro leaf hleaf
  have hread : ∀ f ∈ form.leaves,
      (Json.obj nested).readAt f.path = Dict.get? values f.fullName := fun f hf => by
    rw [← hnested]
    exact readAt_toNested haddr hnames values hf
  have hnamed : form.leaves.any (fun f => f.fullName == leaf.fullName) = true :=
    List.any_eq_true.mpr ⟨leaf, hleaf, beq_self_eq_true _⟩
  rw [valuesFrom, get?_collect hread, get?_restrict, if_pos hnamed]

/-- A submission to a compiled form, edited or not, makes at most one call, and that is the post of
the nested values to the action of the form. -/
theorem submit_once {schema : FormSchema} {seed : Option Properties} {form : CompiledForm}
    (h : compile schema seed = .ok form) (edits : List RowEdit) (t : Transport)
    (values : Submission) (given : Option Registry) (shared : SharedRegistry) (j : Journal) :
    (form.edited edits).SubmitsOnce t values j
      (((form.edited edits).submit t values given shared).run j).2
      (((form.edited edits).submit t values given shared).run j).1 := by
  have hagain := fun (hvalues : ¬(form.edited edits).Refuses values) hnames =>
    validate_valuesFrom (addressed_edited (addressed_of_compile h) edits) hnames hvalues
  by_cases haction : (form.edited edits).action = ""
  · rw [submit_of_no_action t given shared j haction]
    exact ⟨Or.inl rfl, fun _ => ⟨rfl, rfl⟩, fun hne => absurd haction hne,
      fun hne => absurd haction hne, hagain⟩
  · by_cases hvalues : (form.edited edits).Refuses values
    · rw [submit_of_refuses t given shared j haction hvalues]
      exact ⟨Or.inl rfl, fun heq => absurd heq haction,
        fun _ _ => ⟨_, validate_of_refuses hvalues, rfl, rfl⟩,
        fun _ hpasses => absurd hvalues hpasses, hagain⟩
    · have hposted := submit_of_passes t given shared j haction hvalues
      exact ⟨Or.inr hposted.1, fun heq => absurd heq haction,
        fun _ hrefuses => absurd hrefuses hvalues, fun _ _ => hposted, hagain⟩

end CompiledForm

/-- A sale of the items of an order to a customer, who must be named. -/
def compiledSale : Except SchemaError CompiledForm :=
  CompiledForm.compile
    { fields := [{ name := "customer", label := "Customer", required := true }, orderItems]
      action := "/sales"
      dispatch := some { redirect := some { component := "sales" } } }
    (some [("items", .arr orderRows)])

def saleForm : CompiledForm := compiledSale.toOption.getD ⟨[], "", none⟩

/-- A transport that knows no resource and answers a post with what was posted. -/
def echo : Transport where
  get _ url := .error (.status url 404)
  post _ _ payload := .ok payload

def saleValues : Submission := [("customer", .str "Ada"), ("items.1.sku", .str "C")]

theorem sale_submitted_once :
    compiledSale = .ok saleForm ∧ (saleForm.edited orderEdits).action ≠ "" ∧
      ¬(saleForm.edited orderEdits).Refuses saleValues ∧
      DistinctNames (saleForm.edited orderEdits).fields ∧
      (saleForm.edited orderEdits).SubmitsOnce echo saleValues {}
        (((saleForm.edited orderEdits).submit echo saleValues none {}).run {}).2
        (((saleForm.edited orderEdits).submit echo saleValues none {}).run {}).1 := by
  have h : compiledSale = .ok saleForm := rfl
  refine ⟨h, ?_, ?_, ?_, CompiledForm.submit_once h orderEdits echo saleValues none {} {}⟩
  · decide +kernel
  · decide +kernel
  · decide +kernel

end UiSchema
