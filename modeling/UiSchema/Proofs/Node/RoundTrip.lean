import UiSchema.Proofs.Node.Shapes

/-!
# Nodes are restored

The keys of an arranged encoding tell which shape the node has, so it is decoded by the record that
it was written with; by induction on the depth of the values that they were decoded from, nodes are
restored.
-/

namespace UiSchema.Node

set_option autoImplicit false

variable (A : Json.Arrangement)

section Keys

theorem field?_wrapper (w : Wrapper Node) :
    ((A.form (wrapper w).toJson).field? "componentDetail").isSome = true := by
  have hfield := (Wrapper.lawful codec).field?_form_encode A List.mem_cons_self w
  rw [toJson_wrapper]
  exact (congrArg Option.isSome hfield).trans rfl

theorem field?_legacy (l : LegacyNode Node) :
    (A.form (legacy l).toJson).field? "componentDetail" = none ∧
      ((A.form (legacy l).toJson).field? "component").isSome = true := by
  have hfield := (LegacyNode.lawful codec).field?_form_encode A List.mem_cons_self l
  rw [toJson_legacy]
  exact ⟨(LegacyNode.lawful codec).field?_form_encode_of_not_mem A (by decide) l,
    (congrArg Option.isSome hfield).trans rfl⟩

theorem field?_descriptor (d : Descriptor Node) :
    (A.form (descriptor d).toJson).field? "componentDetail" = none ∧
      (A.form (descriptor d).toJson).field? "component" = none := by
  rw [toJson_descriptor]
  exact ⟨(Descriptor.lawful codec).field?_form_encode_of_not_mem A (by decide) d,
    (Descriptor.lawful codec).field?_form_encode_of_not_mem A (by decide) d⟩

/-- No node is written with a type, so none is read as a page. -/
theorem field?_type (n : Node) : (A.form n.toJson).field? "type" = none := by
  cases n with
  | wrapper w =>
    rw [toJson_wrapper]
    exact (Wrapper.lawful codec).field?_form_encode_of_not_mem A (by decide) w
  | legacy l =>
    rw [toJson_legacy]
    exact (LegacyNode.lawful codec).field?_form_encode_of_not_mem A (by decide) l
  | descriptor d =>
    rw [toJson_descriptor]
    exact (Descriptor.lawful codec).field?_form_encode_of_not_mem A (by decide) d

end Keys

section Shapes

variable {A}

theorem decode_form_wrapper {w : Wrapper Node}
    (h : (Wrapper.record codec).decode (A.form ((Wrapper.record codec).encode w)) = .ok w) :
    codec.decode (A.form (wrapper w).toJson) = .ok (wrapper w) := by
  have hdetail := field?_wrapper A w
  obtain ⟨fields, hform, _⟩ := (Wrapper.lawful codec).form_encode A w
  rw [toJson_wrapper] at hdetail ⊢
  refine decode_codec_eq_ok.mpr ⟨⟨fields, hform⟩, ?_⟩
  rw [decodeShape, if_pos hdetail, h]
  rfl

theorem decode_form_legacy {l : LegacyNode Node}
    (h : (LegacyNode.record codec).decode (A.form ((LegacyNode.record codec).encode l)) = .ok l) :
    codec.decode (A.form (legacy l).toJson) = .ok (legacy l) := by
  obtain ⟨hdetail, hcomponent⟩ := field?_legacy A l
  obtain ⟨fields, hform, _⟩ := (LegacyNode.lawful codec).form_encode A l
  rw [toJson_legacy] at hdetail hcomponent ⊢
  refine decode_codec_eq_ok.mpr ⟨⟨fields, hform⟩, ?_⟩
  rw [decodeShape, hdetail, if_neg (by simp), if_pos hcomponent, h]
  rfl

theorem decode_form_descriptor {d : Descriptor Node}
    (h : (Descriptor.record codec).decode (A.form ((Descriptor.record codec).encode d)) = .ok d) :
    codec.decode (A.form (descriptor d).toJson) = .ok (descriptor d) := by
  obtain ⟨hdetail, hcomponent⟩ := field?_descriptor A d
  obtain ⟨fields, hform, _⟩ := (Descriptor.lawful codec).form_encode A d
  rw [toJson_descriptor] at hdetail hcomponent ⊢
  refine decode_codec_eq_ok.mpr ⟨⟨fields, hform⟩, ?_⟩
  rw [decodeShape, hdetail, hcomponent, if_neg (by simp), if_neg (by simp), h]
  rfl

theorem decode_null (n : Node) : codec.decode .null ≠ .ok n := nofun

/-- Nodes are restored from the values that they were decoded from, level by level. -/
theorem roundTrips_codec (depth : Nat) : codec.RoundTrips A depth := by
  -- the nodes inside a node were read from parts of its value, which are less deep
  induction depth with
  | zero =>
    exact ⟨fun _ hdepth => absurd hdepth (Nat.not_lt_zero _),
      fun hnull => absurd hnull (decode_null _)⟩
  | succ depth ih =>
    refine ⟨fun {v n} hkept hdepth hdecode => ?_, fun hnull => absurd hnull (decode_null _)⟩
    obtain ⟨_, hshape⟩ := decode_codec_eq_ok.mp hdecode
    unfold decodeShape at hshape
    split at hshape
    · obtain ⟨w, hw, rfl⟩ := map_eq_ok.mp hshape
      exact decode_form_wrapper ((Wrapper.roundTrips_codec ih).restores hkept hdepth hw)
    · split at hshape
      · obtain ⟨l, hl, rfl⟩ := map_eq_ok.mp hshape
        exact decode_form_legacy ((LegacyNode.roundTrips_codec ih).restores hkept hdepth hl)
      · obtain ⟨d, hd, rfl⟩ := map_eq_ok.mp hshape
        exact decode_form_descriptor ((Descriptor.roundTrips_codec ih).restores hkept hdepth hd)

end Shapes

end UiSchema.Node
