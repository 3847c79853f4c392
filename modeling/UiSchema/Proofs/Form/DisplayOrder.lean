import Mathlib.Data.List.Forall2
import UiSchema.Proofs.Form.Construction

/-!
# Display order

Fields are shown in ascending order of their keys, and fields of one key in the order of the schema.
That settles the order of a list, so lists that differ only in how fields of different keys stand to
each other are shown alike. A compiled form is in display order at the top, inside every group and
in every row, and stays so whatever rows are added and removed.
-/

namespace UiSchema

set_option autoImplicit false

open CompiledField

/-- The second list has the elements of the first one, those of one key in the same order. Elements
without a key may stand anywhere. -/
def Reorders {α : Type} (key? : α → Option Int) (as bs : List α) : Prop :=
  bs.Perm as ∧ ∀ k, bs.filter (fun b => key? b = some k) = as.filter (fun a => key? a = some k)

theorem Reorders.symm {α : Type} {key? : α → Option Int} {as bs : List α}
    (h : Reorders key? as bs) : Reorders key? bs as :=
  ⟨h.1.symm, fun k => (h.2 k).symm⟩

/-- Neighbours of different keys may change places. -/
theorem Reorders.swap {α : Type} {key? : α → Option Int} {a b : α} (h : key? a ≠ key? b)
    (rest : List α) : Reorders key? (a :: b :: rest) (b :: a :: rest) := by
  refine ⟨.swap a b rest, fun k => ?_⟩
  simp only [List.filter_cons, decide_eq_true_eq]
  by_cases ha : key? a = some k
  · have hb : key? b ≠ some k := fun hb => h (ha.trans hb.symm)
    rw [if_neg hb, if_neg hb]
  · rw [if_neg ha, if_neg ha]

namespace FieldSchema

/-- The key by which a field is shown; keys are compared as all numbers are, not by value. -/
def displayKey? (f : FieldSchema) : Option Int := some f.orderKey.totalKey

/-- The second list is the first one in display order. -/
structure DisplayOrder (fields shown : List FieldSchema) : Prop where
  reorders : Reorders displayKey? fields shown
  ordered : Ordered shown

section Sorting

theorem filter_key_cons (k : Int) (f : FieldSchema) (fields : List FieldSchema) :
    (f :: fields).filter (fun g => displayKey? g = some k) =
      if f.orderKey.totalKey = k then f :: fields.filter (fun g => displayKey? g = some k)
      else fields.filter (fun g => displayKey? g = some k) := by
  simp only [List.filter_cons, displayKey?, Option.some.injEq, decide_eq_true_eq]

theorem filter_insertOrdered (k : Int) (f : FieldSchema) (fields : List FieldSchema) :
    (insertOrdered f fields).filter (fun g => displayKey? g = some k) =
      (f :: fields).filter (fun g => displayKey? g = some k) := by
  induction fields with
  | nil => rfl
  | cons g rest ih =>
    rw [insertOrdered]
    split
    · rfl
    · rename_i hlt
      rw [filter_key_cons, ih, filter_key_cons, filter_key_cons, filter_key_cons]
      -- the field goes behind a field of a smaller key, so the two do not share the key
      by_cases hg : g.orderKey.totalKey = k
      · have hf : f.orderKey.totalKey ≠ k := by omega
        rw [if_neg hf, if_neg hf]
      · rw [if_neg hg, if_neg hg]

theorem filter_sortByOrder (k : Int) (fields : List FieldSchema) :
    (sortByOrder fields).filter (fun g => displayKey? g = some k) =
      fields.filter (fun g => displayKey? g = some k) := by
  induction fields with
  | nil => rfl
  | cons f rest ih =>
    rw [sortByOrder, List.foldr_cons, ← sortByOrder, filter_insertOrdered, filter_key_cons, ih,
      ← filter_key_cons]

theorem displayOrder_sortByOrder (fields : List FieldSchema) :
    DisplayOrder fields (sortByOrder fields) where
  reorders := ⟨sortByOrder_perm fields, fun k => filter_sortByOrder k fields⟩
  ordered := ordered_sortByOrder fields

theorem mem_of_filter {fields other : List FieldSchema}
    (h : ∀ k, fields.filter (fun f => displayKey? f = some k) =
      other.filter (fun f => displayKey? f = some k)) {f : FieldSchema} (hf : f ∈ fields) :
    f ∈ other := by
  have hmem : f ∈ fields.filter (fun g => displayKey? g = some f.orderKey.totalKey) :=
    List.mem_filter.mpr ⟨hf, decide_eq_true rfl⟩
  rw [h] at hmem
  exact List.mem_of_mem_filter hmem

theorem Ordered.head_le {f g : FieldSchema} {fields : List FieldSchema}
    (h : Ordered (f :: fields)) (hg : g ∈ f :: fields) :
    f.orderKey.totalKey ≤ g.orderKey.totalKey := by
  rcases List.mem_cons.mp hg with rfl | hg
  · exact Int.le_refl _
  · exact List.rel_of_pairwise_cons h hg

/-- The order of the keys and the order within each key settle the order of a list. -/
theorem eq_of_filter {fields other : List FieldSchema} (hfields : Ordered fields)
    (hother : Ordered other)
    (h : ∀ k, fields.filter (fun f => displayKey? f = some k) =
      other.filter (fun f => displayKey? f = some k)) : fields = other := by
  induction fields generalizing other with
  | nil =>
    cases other with
    | nil => rfl
    | cons g rest' => cases mem_of_filter (fun k => (h k).symm) List.mem_cons_self
  | cons f rest ih =>
    cases other with
    | nil => cases mem_of_filter h List.mem_cons_self
    | cons g rest' =>
      have hfg := hfields.head_le (mem_of_filter (fun k => (h k).symm) List.mem_cons_self)
      have hgf := hother.head_le (mem_of_filter h List.mem_cons_self)
      have hkey : g.orderKey.totalKey = f.orderKey.totalKey := Int.le_antisymm hgf hfg
      have hheads := h f.orderKey.totalKey
      rw [filter_key_cons, filter_key_cons, if_pos rfl, if_pos hkey, List.cons.injEq] at hheads
      obtain ⟨rfl, htails⟩ := hheads
      congr 1
      refine ih (List.Pairwise.of_cons hfields) (List.Pairwise.of_cons hother) (fun k => ?_)
      by_cases hk : f.orderKey.totalKey = k
      · subst hk
        exact htails
      · have hrest := h k
        rw [filter_key_cons, filter_key_cons, if_neg hk, if_neg hk] at hrest
        exact hrest

theorem DisplayOrder.eq_sortByOrder {fields shown : List FieldSchema}
    (h : DisplayOrder fields shown) : shown = sortByOrder fields :=
  eq_of_filter h.ordered (ordered_sortByOrder fields)
    (fun k => (h.reorders.2 k).trans (filter_sortByOrder k fields).symm)

end Sorting

/-- Lists that differ only in how fields of different keys stand to each other are shown alike. -/
theorem sortByOrder_of_reorders {fields other : List FieldSchema}
    (h : Reorders displayKey? fields other) : sortByOrder other = sortByOrder fields := by
  have hshown := displayOrder_sortByOrder other
  refine DisplayOrder.eq_sortByOrder ⟨⟨hshown.reorders.1.trans h.1, fun k => ?_⟩, hshown.ordered⟩
  exact (hshown.reorders.2 k).trans (h.2 k)

/-- The compiled field shows the field, and shows the fields inside it in display order: those of a
group, those of every row, and those that are kept for further rows. -/
inductive Shows : FieldSchema → CompiledField → Prop
  | leaf {f : FieldSchema} (path : FieldPath) (initial : Option Json) :
      f.kind ≠ .object → f.kind ≠ .objectArray →
      Shows f (.leaf ⟨path, f.name, f.label, f.kind, f.required, initial, f.rules, f.properties⟩)
  | group {f : FieldSchema} (path : FieldPath) {nested shown : List FieldSchema}
      {fields : List CompiledField} : f.kind = .object → f.nestedFields .fields "" = .ok nested →
      DisplayOrder nested shown → List.Forall₂ Shows shown fields →
      Shows f (.group ⟨path, f.name, f.label, fields⟩)
  | repeated {f : FieldSchema} (path : FieldPath) {nested shown : List FieldSchema}
      {rows : List (List CompiledField)} : f.kind = .objectArray →
      f.nestedFields .itemFields "" = .ok nested → DisplayOrder nested shown →
      (∀ row ∈ rows, List.Forall₂ Shows shown row) →
      Shows f (.repeated ⟨path, f.name, f.label, shown, rows⟩)

theorem Makes.shows {f : FieldSchema} {c : CompiledField} (h : Makes f c) : Shows f c := by
  induction c using CompiledField.induction generalizing f with
  | leaf leaf =>
    cases h with
    | leaf path initial hobject harray => exact .leaf path initial hobject harray
  | group g ih =>
    cases h with
    | group path hkind hnested hfields =>
      exact .group path hkind hnested (displayOrder_sortByOrder _)
        (forall₂_of_mem_right hfields (fun c hc _ hmakes => ih c hc hmakes))
  | repeated g ih =>
    cases h with
    | repeated path hkind hnested hrows =>
      exact .repeated path hkind hnested (displayOrder_sortByOrder _)
        (fun row hrow => forall₂_of_mem_right (hrows row hrow)
          (fun c hc _ hmakes => ih row hrow c hc hmakes))

end FieldSchema

open FieldSchema

/-- After any edits of what was compiled from a list, the list is shown in display order, at the top
and inside. -/
theorem CompiledForm.shows_edited {fields : List FieldSchema} {parent : FieldPath} {seed : Seed}
    {form : CompiledForm} (h : FieldSchema.compile fields parent seed = .ok form.fields)
    (edits : List RowEdit) :
    ∃ shown, DisplayOrder fields shown ∧ List.Forall₂ Shows shown (form.edited edits).fields := by
  have hmakes : List.Forall₂ Makes (sortByOrder fields) (form.edited edits).fields :=
    edited_of_step (P := fun result => List.Forall₂ Makes (sortByOrder fields) result)
      (fun hnew hreplaced hresult =>
        hreplaced.makes (fun _ hold => RepeatGroup.makes_of_edited hnew hold) hresult)
      (makes_of_compile h) edits
  exact ⟨_, displayOrder_sortByOrder fields, hmakes.imp (fun _ _ hc => hc.shows)⟩

end UiSchema
