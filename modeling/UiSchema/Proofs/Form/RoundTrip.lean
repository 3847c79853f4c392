import UiSchema.Form.Field
import UiSchema.Proofs.Decode.Record

/-!
# Forms are restored

The records of a form and its fields are lawful and restore what they read.
-/

namespace UiSchema

set_option autoImplicit false

open RecordField

variable {A : Json.Arrangement} {n : Nat}

attribute [ext] FieldSchema RedirectTarget Dispatch FormSchema

theorem InputKind.roundTrips_codec : codec.RoundTrips A n :=
  Codec.roundTrips_variant (fun k => by cases k <;> decide)

theorem FieldSchema.lawful : record.Lawful where
  keys := by decide
  independent := by simp [record, Independent.of_stores]
  determined h := by
    simp only [record, List.forall_mem_cons] at h
    obtain ⟨hname, hlabel, hkind, hrequired, horder, hproperties, hvalue, _⟩ := h
    exact FieldSchema.ext (hname.get_eq rfl) (hlabel.get_eq rfl) (hkind.get_eq rfl)
      (hrequired.get_eq rfl) (horder.get_eq rfl) (hproperties.get_eq rfl) (hvalue.get_eq rfl)

theorem FieldSchema.roundTrips_codec : codec.RoundTrips A n := by
  refine Record.Lawful.roundTrips FieldSchema.lawful ?_
  simp only [record, List.forall_mem_cons]
  exact ⟨roundTrips_mandatory Codec.roundTrips_text ⟨rfl, rfl⟩,
    roundTrips_defaulted Codec.roundTrips_text (Codec.restores_scalar rfl rfl) ⟨rfl, rfl⟩,
    (roundTrips_defaulted InputKind.roundTrips_codec
      (Codec.restores_scalar rfl rfl) ⟨rfl, rfl⟩).withAlias "inputKind",
    roundTrips_defaulted Codec.roundTrips_bool (Codec.restores_scalar rfl rfl) ⟨rfl, rfl⟩,
    roundTrips_optional Codec.roundTrips_number rfl ⟨rfl, rfl⟩,
    roundTrips_optional Codec.roundTrips_properties rfl ⟨rfl, rfl⟩,
    roundTrips_optional Codec.roundTrips_raw rfl ⟨rfl, rfl⟩, nofun⟩

theorem RedirectTarget.lawful : record.Lawful where
  keys := by decide
  independent := by simp [record, Independent.of_stores]
  determined h := by
    simp only [record, List.forall_mem_cons] at h
    obtain ⟨hcomponent, hpath, _⟩ := h
    exact RedirectTarget.ext (hcomponent.get_eq rfl) (hpath.get_eq rfl)

theorem RedirectTarget.roundTrips_codec : record.codec.RoundTrips A n := by
  refine Record.Lawful.roundTrips RedirectTarget.lawful ?_
  simp only [record, List.forall_mem_cons]
  exact ⟨roundTrips_mandatory Codec.roundTrips_text ⟨rfl, rfl⟩,
    roundTrips_optional Codec.roundTrips_text rfl ⟨rfl, rfl⟩, nofun⟩

theorem Dispatch.lawful : record.Lawful where
  keys := by decide
  independent := by simp [record]
  determined h := by
    simp only [record, List.forall_mem_cons] at h
    exact Dispatch.ext (h.1.get_eq rfl)

theorem Dispatch.roundTrips_codec : record.codec.RoundTrips A n := by
  refine Record.Lawful.roundTrips Dispatch.lawful ?_
  simp only [record, List.forall_mem_cons]
  exact ⟨roundTrips_optional RedirectTarget.roundTrips_codec rfl ⟨rfl, rfl⟩, nofun⟩

theorem FormSchema.lawful : record.Lawful where
  keys := by decide
  independent := by simp [record, Independent.of_stores]
  determined h := by
    simp only [record, List.forall_mem_cons] at h
    obtain ⟨hfields, haction, hdispatch, _⟩ := h
    exact FormSchema.ext (hfields.get_eq rfl) (haction.get_eq rfl) (hdispatch.get_eq rfl)

theorem FormSchema.roundTrips_codec : record.codec.RoundTrips A n := by
  refine Record.Lawful.roundTrips FormSchema.lawful ?_
  simp only [record, List.forall_mem_cons]
  exact ⟨roundTrips_mandatory (.list FieldSchema.roundTrips_codec) ⟨rfl, rfl⟩,
    roundTrips_defaulted Codec.roundTrips_text (Codec.restores_scalar rfl rfl) ⟨rfl, rfl⟩,
    roundTrips_optional Dispatch.roundTrips_codec rfl ⟨rfl, rfl⟩, nofun⟩

end UiSchema
