import UiSchema.Proofs.Node.Decoding
import UiSchema.Proofs.Node.Hints

/-!
# The shapes of nodes are restored

Over any codec of the nodes inside, the records of the three shapes are lawful, and they restore
nodes of one more level than the codec does. The keys of an encoding tell its shape: only a wrapper
has a detail, only an older node besides has a component, and none has a type.
-/

namespace UiSchema

set_option autoImplicit false

open RecordField

variable {A : Json.Arrangement} {n : Nat} {c : Codec Node}

attribute [ext] LegacyMeta LegacyNode Descriptor Wrapper

theorem LegacyMeta.lawful : record.Lawful where
  keys := by decide
  independent := by simp [record, Independent.of_stores]
  determined h := by
    simp only [record, List.forall_mem_cons] at h
    obtain ⟨hcomponent, hproperties, _⟩ := h
    exact LegacyMeta.ext (hcomponent.get_eq rfl) (hproperties.get_eq rfl)

theorem LegacyMeta.roundTrips_codec : record.codec.RoundTrips A n := by
  refine Record.Lawful.roundTrips LegacyMeta.lawful ?_
  simp only [record, List.forall_mem_cons]
  exact ⟨roundTrips_optional Codec.roundTrips_text rfl ⟨rfl, rfl⟩,
    roundTrips_optional Codec.roundTrips_properties rfl ⟨rfl, rfl⟩, nofun⟩

theorem LegacyNode.lawful (c : Codec Node) : (record c).Lawful where
  keys := by
    have hkeys : (record c).knownKeys =
        ["component", "path", "isMenuItem", "content", "meta", "children"] := rfl
    rw [hkeys]
    decide
  independent := by simp [record, Independent.of_stores]
  determined h := by
    simp only [record, List.forall_mem_cons] at h
    obtain ⟨hcomponent, hpath, hmenu, hcontent, hinfo, hchildren, _⟩ := h
    exact LegacyNode.ext (hcomponent.get_eq rfl) (hpath.get_eq rfl) (hmenu.get_eq rfl)
      (hcontent.get_eq rfl) (hinfo.get_eq rfl) (hchildren.get_eq rfl)

theorem LegacyNode.roundTrips_codec (h : c.RoundTrips A n) :
    (record c).codec.RoundTrips A (n + 1) := by
  refine (LegacyNode.lawful c).roundTrips_succ ?_
  simp only [record, List.forall_mem_cons]
  exact ⟨roundTrips_mandatory Codec.roundTrips_text ⟨rfl, rfl⟩,
    roundTrips_optional Codec.roundTrips_text rfl ⟨rfl, rfl⟩,
    roundTrips_defaulted Codec.roundTrips_bool (Codec.restores_scalar rfl rfl) ⟨rfl, rfl⟩,
    roundTrips_optional Codec.roundTrips_text rfl ⟨rfl, rfl⟩,
    roundTrips_optional LegacyMeta.roundTrips_codec rfl ⟨rfl, rfl⟩,
    roundTrips_unlessEmpty h.list ⟨.arr [], rfl⟩ rfl ⟨rfl, rfl⟩, nofun⟩

theorem Descriptor.lawful (c : Codec Node) : (record c).Lawful where
  keys := by
    have hkeys : (record c).knownKeys =
        ["name", "type", "path", "isMenuItem", "content", "properties", "props", "children"] := rfl
    rw [hkeys]
    decide
  independent := by simp [record, Independent.of_stores]
  determined h := by
    simp only [record, List.forall_mem_cons] at h
    obtain ⟨hname, hpath, hmenu, hcontent, hproperties, hchildren, _⟩ := h
    exact Descriptor.ext (hname.get_eq rfl) (hpath.get_eq rfl) (hmenu.get_eq rfl)
      (hcontent.get_eq rfl) (hproperties.get_eq rfl) (hchildren.get_eq rfl)

theorem Descriptor.roundTrips_codec (h : c.RoundTrips A n) :
    (record c).codec.RoundTrips A (n + 1) := by
  refine (Descriptor.lawful c).roundTrips_succ ?_
  simp only [record, List.forall_mem_cons]
  exact ⟨(roundTrips_mandatory Codec.roundTrips_text ⟨rfl, rfl⟩).withAlias "type",
    roundTrips_optional Codec.roundTrips_text rfl ⟨rfl, rfl⟩,
    roundTrips_defaulted Codec.roundTrips_bool (Codec.restores_scalar rfl rfl) ⟨rfl, rfl⟩,
    roundTrips_optional Codec.roundTrips_text rfl ⟨rfl, rfl⟩,
    (roundTrips_optional Codec.roundTrips_properties rfl ⟨rfl, rfl⟩).withAlias "props",
    roundTrips_unlessEmpty h.list ⟨.arr [], rfl⟩ rfl ⟨rfl, rfl⟩, nofun⟩

theorem Wrapper.lawful (c : Codec Node) : (record c).Lawful where
  keys := by
    have hkeys : (record c).knownKeys =
        ["componentDetail", "mode", "layout", "interaction", "display", "responsive",
          "animation", "cssClasses", "customStyles", "accessibility"] := rfl
    rw [hkeys]
    decide
  independent := by simp [record, Independent.of_stores]
  determined h := by
    simp only [record, List.forall_mem_cons] at h
    obtain ⟨hdetail, hmode, hlayout, hinteraction, hdisplay, hresponsive, hanimation, hclasses,
      hstyles, haccessibility, _⟩ := h
    exact Wrapper.ext (hdetail.get_eq rfl) (hmode.get_eq rfl) (hlayout.get_eq rfl)
      (hinteraction.get_eq rfl) (hdisplay.get_eq rfl) (hresponsive.get_eq rfl)
      (hanimation.get_eq rfl) (hclasses.get_eq rfl) (hstyles.get_eq rfl) (haccessibility.get_eq rfl)

theorem Wrapper.roundTrips_codec (h : c.RoundTrips A n) :
    (record c).codec.RoundTrips A (n + 1) := by
  refine (Wrapper.lawful c).roundTrips_succ ?_
  simp only [record, List.forall_mem_cons]
  exact ⟨roundTrips_mandatory h ⟨rfl, rfl⟩,
    roundTrips_optional Codec.roundTrips_text rfl ⟨rfl, rfl⟩,
    roundTrips_optional LayoutHints.roundTrips_codec rfl ⟨rfl, rfl⟩,
    roundTrips_optional InteractionHints.roundTrips_codec rfl ⟨rfl, rfl⟩,
    roundTrips_optional DisplayHints.roundTrips_codec rfl ⟨rfl, rfl⟩,
    roundTrips_optional ResponsiveHints.roundTrips_codec rfl ⟨rfl, rfl⟩,
    roundTrips_optional Codec.roundTrips_raw rfl ⟨rfl, rfl⟩,
    roundTrips_unlessEmpty (.list Codec.roundTrips_text) ⟨.arr [], rfl⟩ rfl ⟨rfl, rfl⟩,
    roundTrips_unlessEmpty (.dict CssValue.roundTrips_codec) ⟨.obj [], rfl⟩ rfl ⟨rfl, rfl⟩,
    roundTrips_optional AccessibilityHints.roundTrips_codec rfl ⟨rfl, rfl⟩, nofun⟩

end UiSchema
