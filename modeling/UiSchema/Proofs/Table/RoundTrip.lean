import UiSchema.Proofs.Form.RoundTrip
import UiSchema.Table.Query

/-!
# Tables and queries are restored

The records of a table, its columns and its search queries are lawful and restore what they read.
-/

namespace UiSchema

set_option autoImplicit false

open RecordField

variable {A : Json.Arrangement} {n : Nat}

attribute [ext] Filterable ColumnSchema TableSchema SearchCondition SearchQuery

theorem Filterable.lawful : record.Lawful where
  keys := by decide
  independent := by simp [record, Independent.of_stores]
  determined h := by
    simp only [record, List.forall_mem_cons] at h
    obtain ⟨happly, hkind, hfield, hoperator, _⟩ := h
    exact Filterable.ext (happly.get_eq rfl) (hkind.get_eq rfl) (hfield.get_eq rfl)
      (hoperator.get_eq rfl)

theorem Filterable.roundTrips_codec : record.codec.RoundTrips A n := by
  refine Record.Lawful.roundTrips Filterable.lawful ?_
  simp only [record, List.forall_mem_cons]
  exact ⟨roundTrips_defaulted Codec.roundTrips_bool (Codec.restores_scalar rfl rfl) ⟨rfl, rfl⟩,
    (roundTrips_optional InputKind.roundTrips_codec rfl ⟨rfl, rfl⟩).withAlias "inputKind",
    roundTrips_optional Codec.roundTrips_text rfl ⟨rfl, rfl⟩,
    roundTrips_optional Codec.roundTrips_text rfl ⟨rfl, rfl⟩, nofun⟩

theorem ColumnSchema.lawful : record.Lawful where
  keys := by decide
  independent := by simp [record, Independent.of_stores]
  determined h := by
    simp only [record, List.forall_mem_cons] at h
    obtain ⟨hindex, hkey, htitle, hsortable, hwidth, hfilterable, _⟩ := h
    exact ColumnSchema.ext (hindex.get_eq rfl) (hkey.get_eq rfl) (htitle.get_eq rfl)
      (hsortable.get_eq rfl) (hwidth.get_eq rfl) (hfilterable.get_eq rfl)

theorem ColumnSchema.roundTrips_codec : codec.RoundTrips A n := by
  refine Record.Lawful.roundTrips ColumnSchema.lawful ?_
  simp only [record, List.forall_mem_cons]
  exact ⟨roundTrips_mandatory Codec.roundTrips_text ⟨rfl, rfl⟩,
    roundTrips_optional Codec.roundTrips_text rfl ⟨rfl, rfl⟩,
    roundTrips_defaulted Codec.roundTrips_text (Codec.restores_scalar rfl rfl) ⟨rfl, rfl⟩,
    roundTrips_defaulted Codec.roundTrips_bool (Codec.restores_scalar rfl rfl) ⟨rfl, rfl⟩,
    roundTrips_optional Codec.roundTrips_raw rfl ⟨rfl, rfl⟩,
    roundTrips_optional Filterable.roundTrips_codec rfl ⟨rfl, rfl⟩, nofun⟩

theorem TableSchema.lawful : record.Lawful where
  keys := by decide
  independent := by simp [record, Independent.of_stores]
  determined h := by
    simp only [record, List.forall_mem_cons] at h
    obtain ⟨hurl, hcolumns, hrowKey, _⟩ := h
    exact TableSchema.ext (hurl.get_eq rfl) (hcolumns.get_eq rfl) (hrowKey.get_eq rfl)

theorem TableSchema.roundTrips_codec : record.codec.RoundTrips A n := by
  refine Record.Lawful.roundTrips TableSchema.lawful ?_
  simp only [record, List.forall_mem_cons]
  exact ⟨roundTrips_mandatory Codec.roundTrips_text ⟨rfl, rfl⟩,
    roundTrips_mandatory (.list ColumnSchema.roundTrips_codec) ⟨rfl, rfl⟩,
    roundTrips_defaulted Codec.roundTrips_text (Codec.restores_scalar rfl rfl) ⟨rfl, rfl⟩, nofun⟩

theorem SearchCondition.lawful : record.Lawful where
  keys := by decide
  independent := by simp [record, Independent.of_stores]
  determined h := by
    simp only [record, List.forall_mem_cons] at h
    obtain ⟨hfield, hoperator, hvalue, _⟩ := h
    exact SearchCondition.ext (hfield.get_eq rfl) (hoperator.get_eq rfl) (hvalue.get_eq rfl)

theorem SearchCondition.roundTrips_codec : record.codec.RoundTrips A n := by
  refine Record.Lawful.roundTrips SearchCondition.lawful ?_
  simp only [record, List.forall_mem_cons]
  exact ⟨roundTrips_mandatory Codec.roundTrips_text ⟨rfl, rfl⟩,
    roundTrips_mandatory Codec.roundTrips_text ⟨rfl, rfl⟩,
    roundTrips_mandatory Codec.roundTrips_raw ⟨rfl, rfl⟩, nofun⟩

theorem SearchQuery.lawful : record.Lawful where
  keys := by decide
  independent := by simp [record]
  determined h := by
    simp only [record, List.forall_mem_cons] at h
    exact SearchQuery.ext (h.1.get_eq rfl)

theorem SearchQuery.roundTrips_codec : record.codec.RoundTrips A n := by
  refine Record.Lawful.roundTrips SearchQuery.lawful ?_
  simp only [record, List.forall_mem_cons]
  exact ⟨roundTrips_defaulted (.list SearchCondition.roundTrips_codec) Codec.list_restores_nil
      ⟨rfl, rfl⟩, nofun⟩

end UiSchema
