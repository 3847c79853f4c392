import Mathlib.Data.List.Perm.Basic
import Mathlib.Logic.Relation
import UiSchema.Proofs.Form.DisplayOrder
import UiSchema.Proofs.Form.Likeness

/-!
# Schemas in another order

The lists of a schema may be written in another order, at the top and inside fields at any depth, as
long as fields of one key keep their order. Such schemas are shown alike: they have the same leaves
in the same places, or neither of them compiles.
-/

namespace UiSchema

set_option autoImplicit false

open CompiledField

/-- The display key of a field that is still to be read, if it can be read. -/
def Json.displayKey? (v : Json) : Option Int :=
  (FieldSchema.codec.decode v).toOption.bind FieldSchema.displayKey?

theorem Codec.sameOutcome_decodeItems {α : Type} {decode : Json → Except DecodeError α}
    {items items' : List Json} {R : α → α → Prop}
    (h : List.Forall₂ (fun v w => SameOutcome R (decode v) (decode w)) items items') :
    SameOutcome (List.Forall₂ R) (decodeItems decode items) (decodeItems decode items') := by
  induction h with
  | nil => exact .ok .nil
  | cons hfirst _ ih =>
    rw [decodeItems, decodeItems]
    refine hfirst.bind (fun a a' ha => ih.bind (fun as as' has => ?_))
    exact .ok (.cons ha has)

namespace FieldSchema

/-- Items in another order are read as fields in another order. -/
theorem exists_reordered {items items' : List Json} {fields : List FieldSchema}
    (h : Reorders Json.displayKey? items items')
    (hread : List.Forall₂ (fun v f => codec.decode v = .ok f) items fields) :
    ∃ fields', List.Forall₂ (fun v f => codec.decode v = .ok f) items' fields' ∧
      Reorders displayKey? fields fields' := by
  obtain ⟨fields', hread', hperm⟩ := List.perm_comp_forall₂ h.1 hread
  refine ⟨fields', hread', hperm, fun k => ?_⟩
  have hkey {v : Json} {f : FieldSchema} (hv : codec.decode v = .ok f) :
      decide (v.displayKey? = some k) = true ↔ decide (f.displayKey? = some k) = true := by
    simp only [Json.displayKey?, hv, Except.toOption, Option.bind_some]
  have hfilter := List.rel_filter (fun _ _ hv => hkey hv) hread
  have hfilter' := List.rel_filter (fun _ _ hv => hkey hv) hread'
  rw [h.2 k] at hfilter'
  refine List.right_unique_forall₂' (fun v f g hf hg => ?_) hfilter' hfilter
  exact Except.ok.inj (hf.symm.trans hg)

theorem sameOutcome_of_reorders {items items' : List Json}
    (h : Reorders Json.displayKey? items items') :
    SameOutcome (fun nested nested' => List.Forall₂ Alike (sortByOrder nested) (sortByOrder nested'))
      (Codec.decodeItems codec.decode items) (Codec.decodeItems codec.decode items') := by
  cases hread : Codec.decodeItems codec.decode items with
  | ok nested =>
    obtain ⟨nested', hread', hnested⟩ := exists_reordered h (Codec.decodeItems_eq_ok.mp hread)
    rw [Codec.decodeItems_eq_ok.mpr hread']
    refine .ok ?_
    rw [sortByOrder_of_reorders hnested]
    exact Alike.forall₂_refl _
  | error e =>
    cases hread' : Codec.decodeItems codec.decode items' with
    | ok nested' =>
      obtain ⟨nested, hback, _⟩ := exists_reordered h.symm (Codec.decodeItems_eq_ok.mp hread')
      rw [Codec.decodeItems_eq_ok.mpr hback] at hread
      cases hread
    | error e' => exact .error e e'

/-- The field with other items in its list of a key. -/
def withItems (f : FieldSchema) (key : NestedKey) (items : List Json) : FieldSchema :=
  { f with properties := some (Dict.insert (f.properties.getD []) key.name (.arr items)) }

theorem property?_withItems (f : FieldSchema) (key : NestedKey) (items : List Json) :
    (f.withItems key items).property? key.name = some (.arr items) :=
  Dict.get?_insert_self _ _ _

/-- One list inside a field is put in another order: the list of the field itself, or a list inside
one of the items of that list. -/
inductive ListRearranged : FieldSchema → FieldSchema → Prop
  | own {f : FieldSchema} {key : NestedKey} {items items' : List Json} :
      f.nestedKey? = some key → f.property? key.name = some (.arr items) →
      Reorders Json.displayKey? items items' → ListRearranged f (f.withItems key items')
  | inside {f g g' : FieldSchema} {key : NestedKey} {item item' : Json} (before after : List Json) :
      f.nestedKey? = some key → f.property? key.name = some (.arr (before ++ item :: after)) →
      codec.decode item = .ok g → codec.decode item' = .ok g' → ListRearranged g g' →
      ListRearranged f (f.withItems key (before ++ item' :: after))

/-- One list of a schema is put in another order: the list of its fields, or a list inside one of
them. -/
inductive RearrangedOnce : List FieldSchema → List FieldSchema → Prop
  | top {fields fields' : List FieldSchema} :
      Reorders displayKey? fields fields' → RearrangedOnce fields fields'
  | inside {f g : FieldSchema} (before after : List FieldSchema) :
      ListRearranged f g → RearrangedOnce (before ++ f :: after) (before ++ g :: after)

/-- Any lists of a schema are put in another order, at any depth. -/
def Rearranged : List FieldSchema → List FieldSchema → Prop := Relation.ReflTransGen RearrangedOnce

section Alike

variable {f g : FieldSchema}

theorem nestedFields_of_property {key : NestedKey} {items : List Json}
    (h : f.property? key.name = some (.arr items)) (path : String) :
    f.nestedFields key path = (Codec.decodeItems codec.decode items).mapError
      (SchemaError.decode (path ++ "." ++ key.name)) := by
  rw [nestedFields, h]
  rfl

theorem alike_withItems {key : NestedKey} {items items' : List Json}
    (hkey : f.nestedKey? = some key) (hitems : f.property? key.name = some (.arr items))
    (h : SameOutcome
      (fun nested nested' => List.Forall₂ Alike (sortByOrder nested) (sortByOrder nested'))
      (Codec.decodeItems codec.decode items) (Codec.decodeItems codec.decode items')) :
    Alike f (f.withItems key items') := by
  have hread := nestedFields_of_property hitems ""
  have hread' := nestedFields_of_property (f.property?_withItems key items') ""
  generalize Codec.decodeItems codec.decode items = result at h hread
  generalize Codec.decodeItems codec.decode items' = result' at h hread'
  cases h with
  | ok halike => exact .nested hkey hread hread' halike
  | error e e' =>
    refine .unreadable hkey (fun nested hnested => ?_) (fun nested hnested => ?_)
    · rw [hread] at hnested
      cases hnested
    · have hnested : (f.withItems key items').nestedFields key "" = .ok nested := hnested
      rw [hread'] at hnested
      cases hnested

theorem ListRearranged.alike (h : ListRearranged f g) : Alike f g := by
  induction h with
  | own hkey hitems hreorders => exact alike_withItems hkey hitems (sameOutcome_of_reorders hreorders)
  | @inside f g g' key item item' before after hkey hitems hread hread' _ ih =>
    have hsame (items : List Json) : List.Forall₂
        (fun v w => SameOutcome Alike (codec.decode v) (codec.decode w)) items items :=
      List.forall₂_same.mpr (fun v _ => .refl Alike.same (codec.decode v))
    have hitem : SameOutcome Alike (codec.decode item) (codec.decode item') := by
      rw [hread, hread']
      exact .ok ih
    refine alike_withItems hkey hitems ((Codec.sameOutcome_decodeItems (List.rel_append
      (hsame before) (.cons hitem (hsame after)))).imp (fun _ _ halike => ?_))
    exact forall₂_sortByOrder (fun _ _ hf => hf.orderKey_eq) halike

theorem RearrangedOnce.alike {fields fields' : List FieldSchema}
    (h : RearrangedOnce fields fields') :
    List.Forall₂ Alike (sortByOrder fields) (sortByOrder fields') := by
  cases h with
  | top hreorders =>
    rw [sortByOrder_of_reorders hreorders]
    exact Alike.forall₂_refl _
  | inside before after hlist =>
    refine forall₂_sortByOrder (fun _ _ hf => hf.orderKey_eq) ?_
    exact List.rel_append (Alike.forall₂_refl before) (.cons hlist.alike (Alike.forall₂_refl after))

end Alike

end FieldSchema

/-- The compiled fields have the same leaves, and so they have after any edits. -/
def SameLeaves (fields fields' : List CompiledField) : Prop :=
  ∀ action dispatch edits, ((⟨fields', action, dispatch⟩ : CompiledForm).edited edits).leaves =
    ((⟨fields, action, dispatch⟩ : CompiledForm).edited edits).leaves

theorem sameLeaves_of_alike {fields fields' : List CompiledField}
    (h : List.Forall₂ CompiledField.Alike fields fields') : SameLeaves fields fields' :=
  fun _ _ edits => leavesOf_eq_of_alike (CompiledForm.alike_edited h edits)

namespace FieldSchema

theorem Rearranged.sameOutcome {fields fields' : List FieldSchema} (h : Rearranged fields fields')
    (parent : FieldPath) (seed : Seed) :
    SameOutcome SameLeaves (compile fields parent seed) (compile fields' parent seed) := by
  induction h with
  | refl => exact .refl (fun _ _ _ _ => rfl) _
  | tail _ hstep ih =>
    have hlast := (sameOutcome_compile hstep.alike parent seed).imp
      (fun _ _ halike => sameLeaves_of_alike halike)
    refine ih.trans (fun first second third hfirst hthird => ?_) hlast
    exact fun action dispatch edits =>
      (hthird action dispatch edits).trans (hfirst action dispatch edits)

/-- What is compiled from a list shows the list and all lists inside it in display order, after any
edits; and a list that is rearranged at any depth compiles to the same leaves, or both fail. -/
theorem compile_displays_in_order (fields : List FieldSchema) (parent : FieldPath)
    (given : Option Properties) :
    (∀ form : CompiledForm, compile fields parent (.values given) = .ok form.fields →
      ∀ edits, ∃ shown, DisplayOrder fields shown ∧
        List.Forall₂ Shows shown (form.edited edits).fields) ∧
    ∀ other, Rearranged fields other → SameOutcome SameLeaves
      (compile fields parent (.values given)) (compile other parent (.values given)) :=
  ⟨fun _ h edits => CompiledForm.shows_edited h edits, fun _ h => h.sameOutcome parent _⟩

end FieldSchema

open FieldSchema

/-- A list of days with the item fields given, as it is written and as it is read. -/
def daysJson (itemFields : List Json) : Json := .obj [
  ("inputType", .str "object[]"),
  ("name", .str "days"),
  ("properties", .obj [("itemFields", .arr itemFields)])]

def days (itemFields : List Json) : FieldSchema where
  name := "days"
  kind := .objectArray
  properties := some [("itemFields", .arr itemFields)]

def tripOf (itemFields : List Json) : FieldSchema where
  name := "trip"
  kind := .object
  order := some (Binary64.ofInt (-1))
  properties := some [("fields", .arr [.obj [("name", .str "to")], daysJson itemFields])]

def contact : FieldSchema := { name := "contact" }

def dayNote : Json := .obj [("name", .str "note"), ("order", .int 1)]

def dayDate : Json := .obj [("name", .str "date")]

def dayPlace : Json := .obj [("name", .str "place")]

def visit : List FieldSchema := [contact, tripOf [dayNote, dayDate, dayPlace]]

def visitForm : CompiledForm :=
  ⟨(FieldSchema.compile visit [] (.values none)).toOption.getD [], "/visits", none⟩

/-- The same trip with the note of a day between its date and its place, in front of the contact. -/
def rearrangedVisit : List FieldSchema := [tripOf [dayDate, dayNote, dayPlace], contact]

theorem rearranged_visit : Rearranged visit rearrangedVisit := by
  have hdays : Reorders Json.displayKey? [dayNote, dayDate, dayPlace]
      [dayDate, dayNote, dayPlace] := Reorders.swap (by decide) [dayPlace]
  have hlist : ListRearranged (days [dayNote, dayDate, dayPlace])
      ((days [dayNote, dayDate, dayPlace]).withItems .itemFields [dayDate, dayNote, dayPlace]) :=
    .own rfl rfl hdays
  have hread (itemFields : List Json) :
      FieldSchema.codec.decode (daysJson itemFields) = .ok (days itemFields) := rfl
  have htrip : ListRearranged (tripOf [dayNote, dayDate, dayPlace])
      ((tripOf [dayNote, dayDate, dayPlace]).withItems .fields
        ([.obj [("name", .str "to")]] ++ [daysJson [dayDate, dayNote, dayPlace]])) :=
    .inside [.obj [("name", .str "to")]] [] rfl rfl (hread _) (hread _) hlist
  have htop : Reorders displayKey? [contact, tripOf [dayDate, dayNote, dayPlace]]
      rearrangedVisit := Reorders.swap (by decide) []
  exact .tail (.single (.inside [contact] [] htrip)) (.top htop)

theorem visit_displays_in_order :
    FieldSchema.compile visit [] (.values none) = .ok visitForm.fields ∧
      (∃ shown, DisplayOrder visit shown ∧
        List.Forall₂ Shows shown (visitForm.edited [.add "trip.days"]).fields) ∧
      SameOutcome SameLeaves (FieldSchema.compile visit [] (.values none))
        (FieldSchema.compile rearrangedVisit [] (.values none)) := by
  have h : FieldSchema.compile visit [] (.values none) = .ok visitForm.fields := rfl
  obtain ⟨hshown, hrearranged⟩ := compile_displays_in_order visit [] none
  exact ⟨h, hshown visitForm h _, hrearranged _ rearranged_visit⟩

example : (visitForm.edited [.add "trip.days"]).leaves.map LeafField.fullName =
    ["trip.to", "trip.days.0.date", "trip.days.0.place", "trip.days.0.note", "contact"] := by
  decide +kernel

end UiSchema
