import UiSchema.Node.Hints
import UiSchema.Proofs.Decode.Record

/-!
# Hints are restored

The records of presentation hints are lawful and restore what they read, from the innermost hints
outwards.
-/

namespace UiSchema

set_option autoImplicit false

open RecordField

variable {A : Json.Arrangement} {n : Nat}

attribute [ext] LayoutHints InteractionHints DisplayHints HintOverride Breakpoints ResponsiveHints
  AccessibilityHints

theorem Viewport.roundTrips_codec : codec.RoundTrips A n :=
  Codec.roundTrips_variant (fun v => by cases v <;> rfl)

theorem CssValue.roundTrips_codec : codec.RoundTrips A n := by
  refine .of_scalar (fun v => ?_) (fun _ v _ => ?_) nofun
  · cases v <;> rfl
  · cases v <;> rfl

theorem LayoutHints.lawful : record.Lawful where
  keys := by decide
  independent := by simp [record, Independent.of_stores]
  determined h := by
    simp only [record, List.forall_mem_cons] at h
    obtain ⟨hdisplay, hcolumns, hspacing, halignment, _⟩ := h
    exact LayoutHints.ext (hdisplay.get_eq rfl) (hcolumns.get_eq rfl) (hspacing.get_eq rfl)
      (halignment.get_eq rfl)

theorem LayoutHints.roundTrips_codec : record.codec.RoundTrips A n := by
  refine Record.Lawful.roundTrips LayoutHints.lawful ?_
  simp only [record, List.forall_mem_cons]
  exact ⟨roundTrips_optional Codec.roundTrips_text rfl ⟨rfl, rfl⟩,
    roundTrips_optional (Codec.roundTrips_natural 32) rfl ⟨rfl, rfl⟩,
    roundTrips_optional CssValue.roundTrips_codec rfl ⟨rfl, rfl⟩,
    roundTrips_optional Codec.roundTrips_text rfl ⟨rfl, rfl⟩, nofun⟩

theorem InteractionHints.lawful : record.Lawful where
  keys := by decide
  independent := by simp [record, Independent.of_stores]
  determined h := by
    simp only [record, List.forall_mem_cons] at h
    obtain ⟨hclickable, hhoverable, hdraggable, hnavigable, _⟩ := h
    exact InteractionHints.ext (hclickable.get_eq rfl) (hhoverable.get_eq rfl)
      (hdraggable.get_eq rfl) (hnavigable.get_eq rfl)

theorem InteractionHints.roundTrips_codec : record.codec.RoundTrips A n := by
  refine Record.Lawful.roundTrips InteractionHints.lawful ?_
  simp only [record, List.forall_mem_cons]
  exact ⟨roundTrips_optional Codec.roundTrips_bool rfl ⟨rfl, rfl⟩,
    roundTrips_optional Codec.roundTrips_bool rfl ⟨rfl, rfl⟩,
    roundTrips_optional Codec.roundTrips_bool rfl ⟨rfl, rfl⟩,
    roundTrips_optional Codec.roundTrips_bool rfl ⟨rfl, rfl⟩, nofun⟩

theorem DisplayHints.lawful : record.Lawful where
  keys := by decide
  independent := by simp [record, Independent.of_stores]
  determined h := by
    simp only [record, List.forall_mem_cons] at h
    obtain ⟨hborder, hshadow, hbackground, htext, hradius, hopacity, _⟩ := h
    exact DisplayHints.ext (hborder.get_eq rfl) (hshadow.get_eq rfl) (hbackground.get_eq rfl)
      (htext.get_eq rfl) (hradius.get_eq rfl) (hopacity.get_eq rfl)

theorem DisplayHints.roundTrips_codec : record.codec.RoundTrips A n := by
  refine Record.Lawful.roundTrips DisplayHints.lawful ?_
  simp only [record, List.forall_mem_cons]
  exact ⟨roundTrips_optional Codec.roundTrips_bool rfl ⟨rfl, rfl⟩,
    roundTrips_optional Codec.roundTrips_bool rfl ⟨rfl, rfl⟩,
    roundTrips_optional Codec.roundTrips_text rfl ⟨rfl, rfl⟩,
    roundTrips_optional Codec.roundTrips_text rfl ⟨rfl, rfl⟩,
    roundTrips_optional CssValue.roundTrips_codec rfl ⟨rfl, rfl⟩,
    roundTrips_optional Codec.roundTrips_number rfl ⟨rfl, rfl⟩, nofun⟩

theorem HintOverride.lawful : record.Lawful where
  keys := by decide
  independent := by simp [record, Independent.of_stores]
  determined h := by
    simp only [record, List.forall_mem_cons] at h
    obtain ⟨hlayout, hdisplay, _⟩ := h
    exact HintOverride.ext (hlayout.get_eq rfl) (hdisplay.get_eq rfl)

theorem HintOverride.roundTrips_codec : record.codec.RoundTrips A n := by
  refine Record.Lawful.roundTrips HintOverride.lawful ?_
  simp only [record, List.forall_mem_cons]
  exact ⟨roundTrips_optional LayoutHints.roundTrips_codec rfl ⟨rfl, rfl⟩,
    roundTrips_optional DisplayHints.roundTrips_codec rfl ⟨rfl, rfl⟩, nofun⟩

theorem Breakpoints.lawful : record.Lawful where
  keys := by decide
  independent := by simp [record, Independent.of_stores]
  determined h := by
    simp only [record, List.forall_mem_cons] at h
    obtain ⟨hmobile, htablet, hdesktop, _⟩ := h
    exact Breakpoints.ext (hmobile.get_eq rfl) (htablet.get_eq rfl) (hdesktop.get_eq rfl)

theorem Breakpoints.roundTrips_codec : record.codec.RoundTrips A n := by
  refine Record.Lawful.roundTrips Breakpoints.lawful ?_
  simp only [record, List.forall_mem_cons]
  exact ⟨roundTrips_optional HintOverride.roundTrips_codec rfl ⟨rfl, rfl⟩,
    roundTrips_optional HintOverride.roundTrips_codec rfl ⟨rfl, rfl⟩,
    roundTrips_optional HintOverride.roundTrips_codec rfl ⟨rfl, rfl⟩, nofun⟩

theorem ResponsiveHints.lawful : record.Lawful where
  keys := by decide
  independent := by simp [record, Independent.of_stores]
  determined h := by
    simp only [record, List.forall_mem_cons] at h
    obtain ⟨hbreakpoints, hhidden, _⟩ := h
    exact ResponsiveHints.ext (hbreakpoints.get_eq rfl) (hhidden.get_eq rfl)

theorem ResponsiveHints.roundTrips_codec : record.codec.RoundTrips A n := by
  refine Record.Lawful.roundTrips ResponsiveHints.lawful ?_
  simp only [record, List.forall_mem_cons]
  exact ⟨roundTrips_optional Breakpoints.roundTrips_codec rfl ⟨rfl, rfl⟩,
    roundTrips_unlessEmpty (.list Viewport.roundTrips_codec) ⟨.arr [], rfl⟩ rfl ⟨rfl, rfl⟩, nofun⟩

theorem AccessibilityHints.lawful : record.Lawful where
  keys := by decide
  independent := by simp [record, Independent.of_stores]
  determined h := by
    simp only [record, List.forall_mem_cons] at h
    obtain ⟨hrole, hlabel, hdescription, htab, _⟩ := h
    exact AccessibilityHints.ext (hrole.get_eq rfl) (hlabel.get_eq rfl) (hdescription.get_eq rfl)
      (htab.get_eq rfl)

theorem AccessibilityHints.roundTrips_codec : record.codec.RoundTrips A n := by
  refine Record.Lawful.roundTrips AccessibilityHints.lawful ?_
  simp only [record, List.forall_mem_cons]
  exact ⟨roundTrips_optional Codec.roundTrips_text rfl ⟨rfl, rfl⟩,
    roundTrips_optional Codec.roundTrips_text rfl ⟨rfl, rfl⟩,
    roundTrips_optional Codec.roundTrips_text rfl ⟨rfl, rfl⟩,
    roundTrips_optional Codec.roundTrips_int32 rfl ⟨rfl, rfl⟩, nofun⟩

end UiSchema
