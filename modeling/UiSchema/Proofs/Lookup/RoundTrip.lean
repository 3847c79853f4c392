import UiSchema.Lookup.Checkbox
import UiSchema.Lookup.Option
import UiSchema.Proofs.Decode.Record

/-!
# Lookups and checkboxes are restored

The records of the properties of lookup and checkbox fields are lawful and restore what they read.
-/

namespace UiSchema

set_option autoImplicit false

open RecordField

variable {A : Json.Arrangement} {n : Nat}

attribute [ext] ResultMap LookupProperties CheckboxOption CheckboxProperties

theorem ResultMap.lawful : record.Lawful where
  keys := by decide
  independent := by simp [record, Independent.of_stores]
  determined h := by
    simp only [record, List.forall_mem_cons] at h
    obtain ⟨hlabel, hvalue, _⟩ := h
    exact ResultMap.ext (hlabel.get_eq rfl) (hvalue.get_eq rfl)

theorem ResultMap.roundTrips_codec : record.codec.RoundTrips A n := by
  refine Record.Lawful.roundTrips ResultMap.lawful ?_
  simp only [record, List.forall_mem_cons]
  exact ⟨roundTrips_mandatory Codec.roundTrips_text ⟨rfl, rfl⟩,
    roundTrips_mandatory Codec.roundTrips_text ⟨rfl, rfl⟩, nofun⟩

theorem LookupProperties.lawful : record.Lawful where
  keys := by decide
  independent := by simp [record, Independent.of_stores]
  determined h := by
    simp only [record, List.forall_mem_cons] at h
    obtain ⟨hfetch, hsearch, hmap, hmultiple, hallowSearch, hallowAdd, hcreate, hdebounce,
      hplaceholder, hdisabled, _⟩ := h
    exact LookupProperties.ext (hfetch.get_eq rfl) (hsearch.get_eq rfl) (hmap.get_eq rfl)
      (hmultiple.get_eq rfl) (hallowSearch.get_eq rfl) (hallowAdd.get_eq rfl) (hcreate.get_eq rfl)
      (hdebounce.get_eq rfl) (hplaceholder.get_eq rfl) (hdisabled.get_eq rfl)

theorem LookupProperties.roundTrips_codec : record.codec.RoundTrips A n := by
  refine Record.Lawful.roundTrips LookupProperties.lawful ?_
  simp only [record, List.forall_mem_cons]
  exact ⟨roundTrips_mandatory Codec.roundTrips_text ⟨rfl, rfl⟩,
    roundTrips_defaulted Codec.roundTrips_text (Codec.restores_scalar rfl rfl) ⟨rfl, rfl⟩,
    roundTrips_defaulted (.list ResultMap.roundTrips_codec) Codec.list_restores_nil ⟨rfl, rfl⟩,
    roundTrips_defaulted Codec.roundTrips_bool (Codec.restores_scalar rfl rfl) ⟨rfl, rfl⟩,
    roundTrips_defaulted Codec.roundTrips_bool (Codec.restores_scalar rfl rfl) ⟨rfl, rfl⟩,
    roundTrips_defaulted Codec.roundTrips_bool (Codec.restores_scalar rfl rfl) ⟨rfl, rfl⟩,
    roundTrips_optional Codec.roundTrips_text rfl ⟨rfl, rfl⟩,
    roundTrips_defaulted (Codec.roundTrips_natural 64) (Codec.restores_scalar rfl rfl) ⟨rfl, rfl⟩,
    roundTrips_optional Codec.roundTrips_text rfl ⟨rfl, rfl⟩,
    roundTrips_defaulted Codec.roundTrips_bool (Codec.restores_scalar rfl rfl) ⟨rfl, rfl⟩, nofun⟩

theorem CheckboxOption.lawful : record.Lawful where
  keys := by decide
  independent := by simp [record, Independent.of_stores]
  determined h := by
    simp only [record, List.forall_mem_cons] at h
    obtain ⟨hlabel, hvalue, hchecked, hdisabled, _⟩ := h
    exact CheckboxOption.ext (hlabel.get_eq rfl) (hvalue.get_eq rfl) (hchecked.get_eq rfl)
      (hdisabled.get_eq rfl)

theorem CheckboxOption.roundTrips_codec : record.codec.RoundTrips A n := by
  refine Record.Lawful.roundTrips CheckboxOption.lawful ?_
  simp only [record, List.forall_mem_cons]
  exact ⟨roundTrips_mandatory Codec.roundTrips_text ⟨rfl, rfl⟩,
    roundTrips_mandatory Codec.roundTrips_raw ⟨rfl, rfl⟩,
    roundTrips_optional Codec.roundTrips_bool rfl ⟨rfl, rfl⟩,
    roundTrips_optional Codec.roundTrips_bool rfl ⟨rfl, rfl⟩, nofun⟩

theorem CheckboxProperties.lawful : record.Lawful where
  keys := by decide
  independent := by simp [record, Independent.of_stores]
  determined h := by
    simp only [record, List.forall_mem_cons] at h
    obtain ⟨hfetch, hoptions, hchecked, hdisabled, _⟩ := h
    exact CheckboxProperties.ext (hfetch.get_eq rfl) (hoptions.get_eq rfl) (hchecked.get_eq rfl)
      (hdisabled.get_eq rfl)

theorem CheckboxProperties.roundTrips_codec : record.codec.RoundTrips A n := by
  refine Record.Lawful.roundTrips CheckboxProperties.lawful ?_
  simp only [record, List.forall_mem_cons]
  exact ⟨roundTrips_optional Codec.roundTrips_text rfl ⟨rfl, rfl⟩,
    roundTrips_defaulted (.list CheckboxOption.roundTrips_codec) Codec.list_restores_nil ⟨rfl, rfl⟩,
    roundTrips_defaulted Codec.roundTrips_bool (Codec.restores_scalar rfl rfl) ⟨rfl, rfl⟩,
    roundTrips_defaulted Codec.roundTrips_bool (Codec.restores_scalar rfl rfl) ⟨rfl, rfl⟩, nofun⟩

end UiSchema
