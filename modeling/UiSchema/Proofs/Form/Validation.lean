import UiSchema.Proofs.Form.Submission

/-!
# What checking a submission reports

A submission is in order when every rule of every leaf passes the value under the full name of the
leaf. Otherwise the messages of the rules that refuse are reported by full name. A missing value,
null, the empty text and the empty list are all the same to every rule: they are refused by the
required rule alone, and everything else is refused by the other rules alone. So submissions that
differ in such values, or in entries of no leaf, are checked alike.
-/

namespace UiSchema

set_option autoImplicit false

/-- Nothing was entered. -/
inductive NoValue : Option Json → Prop
  | absent : NoValue none
  | null : NoValue (some .null)
  | text : NoValue (some (.str ""))
  | list : NoValue (some (.arr []))

theorem isEmptyValue_iff {value : Option Json} : isEmptyValue value = true ↔ NoValue value := by
  constructor
  · intro h
    unfold isEmptyValue at h
    split at h
    · exact .absent
    · exact .null
    · rw [beq_iff_eq.mp h]
      exact .text
    · rw [List.isEmpty_iff.mp h]
      exact .list
    · cases h
  · rintro (_ | _ | _ | _) <;> rfl

namespace ValidationRule

theorem passes_of_noValue {value : Option Json} (h : NoValue value) (rule : ValidationRule) :
    rule.passes value = false ↔ ∃ message, rule = .required message := by
  have hempty := isEmptyValue_iff.mpr h
  cases rule with
  | required message => simp [passes, hempty]
  | email message => simp [passes, hempty]
  | minLength bound message => simp [passes, hempty]
  | maxLength bound message => simp [passes, hempty]
  | min bound message => simp [passes, hempty]
  | max bound message => simp [passes, hempty]

theorem passes_required {value : Option Json} (h : ¬NoValue value) (message : String) :
    (required message).passes value = true := by
  have hempty : isEmptyValue value = false := by
    rw [← Bool.not_eq_true, isEmptyValue_iff]
    exact h
  rw [passes, hempty]
  rfl

end ValidationRule

/-- The values are one value, or no value on both sides. -/
def Alike (value value' : Option Json) : Prop := value = value' ∨ NoValue value ∧ NoValue value'

theorem ValidationRule.passes_congr {value value' : Option Json} (h : Alike value value')
    (rule : ValidationRule) : rule.passes value = rule.passes value' := by
  rcases h with rfl | ⟨hvalue, hvalue'⟩
  · rfl
  · have hiff := (passes_of_noValue hvalue rule).trans (passes_of_noValue hvalue' rule).symm
    rw [Bool.eq_iff_iff, ← not_iff_not, Bool.not_eq_true, Bool.not_eq_true]
    exact hiff

namespace CompiledForm

variable {form : CompiledForm} {values : Submission}

theorem failures_congr {value value' : Option Json} (h : Alike value value') (leaf : LeafField) :
    failures leaf value = failures leaf value' := by
  unfold failures
  simp only [ValidationRule.passes_congr h]

theorem validate_congr {other : Submission}
    (h : ∀ leaf ∈ form.leaves,
      Alike (Dict.get? values leaf.fullName) (Dict.get? other leaf.fullName)) :
    form.validate values = form.validate other := by
  have herrors : form.validationErrors values = form.validationErrors other := by
    unfold validationErrors
    congr 1
    apply List.filterMap_congr
    intro leaf hleaf
    rw [failures_congr (h leaf hleaf)]
  rw [validate, validate, herrors]

theorem failures_ne_nil_iff {leaf : LeafField} {value : Option Json} :
    failures leaf value ≠ [] ↔ ∃ rule ∈ leaf.rules, rule.passes value = false := by
  simp [failures]

/-- The messages reported of a leaf, if there are any. -/
def failures? (values : Submission) (leaf : LeafField) : Option (List String) :=
  if (failures leaf (Dict.get? values leaf.fullName)).isEmpty then none
  else some (failures leaf (Dict.get? values leaf.fullName))

theorem failures?_eq_some {leaf : LeafField} {messages : List String} :
    failures? values leaf = some messages ↔
      (∃ rule ∈ leaf.rules, rule.passes (Dict.get? values leaf.fullName) = false) ∧
        messages = failures leaf (Dict.get? values leaf.fullName) := by
  rw [← failures_ne_nil_iff, failures?]
  by_cases hnil : failures leaf (Dict.get? values leaf.fullName) = []
  · simp [hnil]
  · have hempty := List.isEmpty_eq_false_iff.mpr hnil
    rw [hempty, if_neg Bool.false_ne_true, Option.some.injEq, and_iff_right hnil]
    exact eq_comm

theorem validationErrors_eq (form : CompiledForm) (values : Submission) :
    form.validationErrors values = Dict.ofList (form.leaves.filterMap
      (fun leaf => (failures? values leaf).map (fun messages => (leaf.fullName, messages)))) := by
  unfold validationErrors failures?
  congr 2
  funext leaf
  dsimp only
  split
  · rfl
  · rfl

theorem get?_validationErrors (hnames : (form.leaves.map LeafField.fullName).Nodup) {name : String}
    {messages : List String} :
    Dict.get? (form.validationErrors values) name = some messages ↔
      ∃ leaf ∈ form.leaves, leaf.fullName = name ∧
        (∃ rule ∈ leaf.rules, rule.passes (Dict.get? values name) = false) ∧
          messages = failures leaf (Dict.get? values name) := by
  rw [validationErrors_eq, Dict.get?_ofList_keyed hnames]
  constructor
  · rintro ⟨leaf, hleaf, rfl, hmessages⟩
    exact ⟨leaf, hleaf, rfl, failures?_eq_some.mp hmessages⟩
  · rintro ⟨leaf, hleaf, rfl, hmessages⟩
    exact ⟨leaf, hleaf, rfl, failures?_eq_some.mpr hmessages⟩

theorem validationErrors_ne_nil {entry : String × List String}
    (h : entry ∈ form.validationErrors values) : entry.2 ≠ [] := by
  rw [validationErrors_eq] at h
  rcases Dict.mem_overlay h with h | h
  · cases h
  · obtain ⟨leaf, _, hentry⟩ := List.mem_filterMap.mp h
    obtain ⟨messages, hmessages, rfl⟩ := Option.map_eq_some_iff.mp hentry
    obtain ⟨hrule, rfl⟩ := failures?_eq_some.mp hmessages
    exact failures_ne_nil_iff.mpr hrule

theorem validate_eq_error {errors : ValidationErrors} :
    form.validate values = .error errors ↔
      form.Refuses values ∧ errors = form.validationErrors values := by
  by_cases h : form.Refuses values
  · rw [validate_of_refuses h, Except.error.injEq, eq_comm]
    exact (and_iff_right h).symm
  · rw [validate_of_not_refuses h]
    exact iff_of_false nofun (fun hrefuses => h hrefuses.1)

theorem validate_eq_ok :
    form.validate values = .ok () ↔ ∀ leaf ∈ form.leaves, ∀ rule ∈ leaf.rules,
      rule.passes (Dict.get? values leaf.fullName) = true := by
  have hiff : form.validate values = .ok () ↔ ¬form.Refuses values := by
    by_cases h : form.Refuses values
    · rw [validate_of_refuses h]
      exact iff_of_false nofun (fun hpasses => hpasses h)
    · rw [validate_of_not_refuses h]
      exact iff_of_true rfl h
  rw [hiff, Refuses]
  push Not
  simp only [Bool.not_eq_false]

/-- What checking a submission reports of the values at the leaves of a form. -/
structure Reports (form : CompiledForm) (values : Submission) : Prop where
  ok_iff : form.validate values = .ok () ↔ ∀ leaf ∈ form.leaves, ∀ rule ∈ leaf.rules,
    rule.passes (Dict.get? values leaf.fullName) = true
  ascending : ∀ errors, form.validate values = .error errors → Dict.Ascending errors
  ne_nil : ∀ errors, form.validate values = .error errors → ∀ entry ∈ errors, entry.2 ≠ []
  messages : (form.leaves.map LeafField.fullName).Nodup →
    ∀ errors, form.validate values = .error errors →
      ∀ name messages, Dict.get? errors name = some messages ↔
        ∃ leaf ∈ form.leaves, leaf.fullName = name ∧
          (∃ rule ∈ leaf.rules, rule.passes (Dict.get? values name) = false) ∧
          messages = (leaf.rules.filter (fun rule => !rule.passes (Dict.get? values name))).map
            ValidationRule.message
  alike : ∀ other : Submission,
    (∀ leaf ∈ form.leaves,
      Alike (Dict.get? values leaf.fullName) (Dict.get? other leaf.fullName)) →
    form.validate other = form.validate values

/-- Checking reports the rules that refuse a value, and cannot tell one missing value from another:
these are refused by the required rule alone, which refuses nothing else. -/
theorem validate_reports (form : CompiledForm) (values : Submission) :
    form.Reports values ∧
      ∀ (rule : ValidationRule) (value : Option Json),
        (NoValue value → rule.passes value = false → ∃ message, rule = .required message) ∧
          (¬NoValue value → ∀ message, rule = .required message → rule.passes value = true) := by
  refine ⟨⟨validate_eq_ok, ?_, ?_, ?_, ?_⟩, fun rule value => ⟨?_, ?_⟩⟩
  · intro errors herrors
    rw [(validate_eq_error.mp herrors).2]
    exact Dict.ascending_ofList _
  · intro errors herrors entry hentry
    rw [(validate_eq_error.mp herrors).2] at hentry
    exact validationErrors_ne_nil hentry
  · intro hnames errors herrors name messages
    rw [(validate_eq_error.mp herrors).2]
    exact get?_validationErrors hnames
  · intro other halike
    exact (validate_congr halike).symm
  · intro hvalue hrefused
    exact (ValidationRule.passes_of_noValue hvalue rule).mp hrefused
  · rintro hvalue message rfl
    exact ValidationRule.passes_required hvalue message

end CompiledForm

/-- An account with an address of at least six characters, and the town of its owner. -/
def signUpSchema : FormSchema where
  fields := [
    { name := "account"
      label := "Account"
      required := true
      properties := some [("email", .bool true), ("minLength", .int 6)] },
    { name := "owner"
      kind := .object
      properties := some [("fields", .arr [
        .obj [("label", .str "Town"), ("name", .str "town"), ("required", .bool true)]])] }]

def compiledSignUp : Except SchemaError CompiledForm := CompiledForm.compile signUpSchema none

def signUpForm : CompiledForm := compiledSignUp.toOption.getD ⟨[], "", none⟩

theorem signUp_reports_both_leaves :
    compiledSignUp = .ok signUpForm ∧
      (signUpForm.leaves.map LeafField.fullName).Nodup ∧
      signUpForm.validate [("account", .str "ann"), ("owner.town", .null)] =
        .error [("account", ["Enter a valid email", "Account must be at least 6 characters"]),
          ("owner.town", ["Town is required"])] ∧
      signUpForm.validate [("account", .str "ann"), ("hint", .int 1), ("owner.town", .arr [])] =
        signUpForm.validate [("account", .str "ann"), ("owner.town", .null)] ∧
      ∃ leaf ∈ signUpForm.leaves, leaf.fullName = "owner.town" ∧
        ∃ rule ∈ leaf.rules, ∃ message, rule = .required message := by
  have hnames : signUpForm.leaves.map LeafField.fullName = ["account", "owner.town"] := rfl
  have hnodup : (signUpForm.leaves.map LeafField.fullName).Nodup := by
    rw [hnames]
    decide
  have hinvalid : signUpForm.validate [("account", .str "ann"), ("owner.town", .null)] =
      .error [("account", ["Enter a valid email", "Account must be at least 6 characters"]),
        ("owner.town", ["Town is required"])] := rfl
  obtain ⟨hreports, hrules⟩ := CompiledForm.validate_reports signUpForm
    [("account", .str "ann"), ("owner.town", .null)]
  refine ⟨rfl, hnodup, hinvalid, hreports.alike _ (fun leaf hleaf => ?_), ?_⟩
  · have hname : leaf.fullName ∈ ["account", "owner.town"] :=
      hnames ▸ List.mem_map_of_mem hleaf
    rcases List.mem_pair.mp hname with hname | hname
    · rw [hname]
      exact Or.inl rfl
    · rw [hname]
      exact Or.inr ⟨.null, .list⟩
  · obtain ⟨leaf, hleaf, hname, ⟨rule, hrule, hrefused⟩, _⟩ :=
      (hreports.messages hnodup _ hinvalid "owner.town" ["Town is required"]).mp rfl
    exact ⟨leaf, hleaf, hname, rule, hrule, (hrules rule _).1 .null hrefused⟩

end UiSchema
