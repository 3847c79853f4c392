import UiSchema.Config
import UiSchema.Layout
import UiSchema.Proofs.Lookup.RoundTrip
import UiSchema.Proofs.Node.RoundTrip
import UiSchema.Proofs.Table.RoundTrip

/-!
# Decoding undoes encoding

Whatever was decoded as one of the documents is decoded again from its encoding, be its keys in
declared or in ascending order. At the root of a document an encoded node is never taken for a page,
and an encoded page always is.
-/

namespace UiSchema

set_option autoImplicit false

open RecordField

variable {A : Json.Arrangement} {n : Nat}

attribute [ext] ApiConfig LookupConfig Config LayoutSlot ContentSlot LayoutDocument

section Config

theorem ApiConfig.lawful : record.Lawful where
  keys := by decide
  independent := by simp [record, Independent.of_stores]
  determined h := by
    simp only [record, List.forall_mem_cons] at h
    obtain ⟨hurl, htoken, _⟩ := h
    exact ApiConfig.ext (hurl.get_eq rfl) (htoken.get_eq rfl)

theorem ApiConfig.roundTrips : ∀ f ∈ record.fields, f.RoundTrips A n record.initial := by
  simp only [record, List.forall_mem_cons]
  exact ⟨roundTrips_nullable Codec.roundTrips_text rfl ⟨rfl, rfl⟩,
    roundTrips_nullable Codec.roundTrips_text rfl ⟨rfl, rfl⟩, nofun⟩

theorem LookupConfig.lawful : record.Lawful where
  keys := by decide
  independent := by simp [record]
  determined h := by
    simp only [record, List.forall_mem_cons] at h
    exact LookupConfig.ext (h.1.get_eq rfl)

theorem LookupConfig.roundTrips : ∀ f ∈ record.fields, f.RoundTrips A n record.initial := by
  simp only [record, List.forall_mem_cons]
  exact ⟨roundTrips_defaulted (Codec.roundTrips_natural 64) (Codec.restores_scalar rfl rfl)
      ⟨rfl, rfl⟩, nofun⟩

theorem Config.lawful : record.Lawful where
  keys := by decide
  independent := by simp [record, Independent.of_stores]
  determined h := by
    simp only [record, List.forall_mem_cons] at h
    obtain ⟨hapi, hlookup, hcomponents, haliases, hviewport, _⟩ := h
    exact Config.ext (hapi.get_eq rfl) (hlookup.get_eq rfl) (hcomponents.get_eq rfl)
      (haliases.get_eq rfl) (hviewport.get_eq rfl)

theorem Config.roundTrips_codec : record.codec.RoundTrips A n := by
  have hapi : ∀ f ∈ ApiConfig.record.fields, f.RoundTrips A n ApiConfig.record.initial :=
    ApiConfig.roundTrips
  have hlookup : ∀ f ∈ LookupConfig.record.fields, f.RoundTrips A n LookupConfig.record.initial :=
    LookupConfig.roundTrips
  refine Record.Lawful.roundTrips Config.lawful ?_
  simp only [record, List.forall_mem_cons]
  exact ⟨roundTrips_defaulted (Record.Lawful.roundTrips ApiConfig.lawful hapi)
      (Record.Lawful.restores_initial ApiConfig.lawful hapi (by decide)) ⟨rfl, rfl⟩,
    roundTrips_defaulted (Record.Lawful.roundTrips LookupConfig.lawful hlookup)
      (Record.Lawful.restores_initial LookupConfig.lawful hlookup (by decide)) ⟨rfl, rfl⟩,
    roundTrips_defaulted (.list Codec.roundTrips_text) Codec.list_restores_nil ⟨rfl, rfl⟩,
    roundTrips_defaulted (.dict Codec.roundTrips_text) Codec.dict_restores_nil ⟨rfl, rfl⟩,
    roundTrips_nullable Viewport.roundTrips_codec rfl ⟨rfl, rfl⟩, nofun⟩

end Config

section Layout

theorem LayoutSlot.lawful : record.Lawful where
  keys := by decide
  independent := by simp [record]
  determined h := by
    simp only [record, List.forall_mem_cons] at h
    exact LayoutSlot.ext (h.1.get_eq rfl)

theorem LayoutSlot.roundTrips_codec : record.codec.RoundTrips A n := by
  refine Record.Lawful.roundTrips LayoutSlot.lawful ?_
  simp only [record, List.forall_mem_cons]
  exact ⟨roundTrips_optional (Node.roundTrips_codec n) rfl ⟨rfl, rfl⟩, nofun⟩

theorem ContentSlot.lawful : record.Lawful where
  keys := by decide
  independent := by simp [record]
  determined h := by
    simp only [record, List.forall_mem_cons] at h
    exact ContentSlot.ext (h.1.get_eq rfl)

theorem ContentSlot.roundTrips_codec : record.codec.RoundTrips A n := by
  refine Record.Lawful.roundTrips ContentSlot.lawful ?_
  simp only [record, List.forall_mem_cons]
  exact ⟨roundTrips_mandatory (Node.roundTrips_codec n) ⟨rfl, rfl⟩, nofun⟩

namespace LayoutDocument

theorem lawful : record.Lawful where
  keys := by decide
  independent := by simp [record, Independent.of_stores]
  determined h := by
    simp only [record, List.forall_mem_cons] at h
    obtain ⟨hkind, hheader, hcontent, hsider, hfooter, _⟩ := h
    exact LayoutDocument.ext (hkind.get_eq rfl) (hheader.get_eq rfl) (hcontent.get_eq rfl)
      (hsider.get_eq rfl) (hfooter.get_eq rfl)

theorem roundTrips_codec : record.codec.RoundTrips A n := by
  refine Record.Lawful.roundTrips lawful ?_
  simp only [record, List.forall_mem_cons]
  exact ⟨roundTrips_mandatory Codec.roundTrips_text ⟨rfl, rfl⟩,
    roundTrips_optional LayoutSlot.roundTrips_codec rfl ⟨rfl, rfl⟩,
    roundTrips_mandatory ContentSlot.roundTrips_codec ⟨rfl, rfl⟩,
    roundTrips_optional LayoutSlot.roundTrips_codec rfl ⟨rfl, rfl⟩,
    roundTrips_optional LayoutSlot.roundTrips_codec rfl ⟨rfl, rfl⟩, nofun⟩

/-- A page is written with a type and an object for its content. -/
theorem isLayoutDocument_form_encode (d : LayoutDocument) :
    isLayoutDocument (A.form (record.encode d)) = true := by
  have htype : (A.form (record.encode d)).field? "type" = some (A.form (.str d.kind)) := by
    have hfield := Record.Lawful.field?_form_encode lawful A List.mem_cons_self d
    exact hfield
  have hcontent : (A.form (record.encode d)).field? "content" =
      some (A.form (ContentSlot.record.encode d.content)) := by
    have hfield := Record.Lawful.field?_form_encode lawful A
      (List.mem_cons_of_mem _ (List.mem_cons_of_mem _ List.mem_cons_self)) d
    exact hfield
  obtain ⟨fields, hform, _⟩ := Record.Lawful.form_encode ContentSlot.lawful A d.content
  rw [isLayoutDocument, htype, hcontent, hform]
  rfl

theorem decodeRoot_form_encode {d : LayoutDocument}
    (h : record.decode (A.form (record.encode d)) = .ok d) :
    decodeRoot (A.form (record.encode d)) = .ok (.descriptor d.root) := by
  rw [decodeRoot, if_pos (isLayoutDocument_form_encode d), h]
  rfl

end LayoutDocument

end Layout

section Roots

theorem Node.isLayoutDocument_form_toJson (n : Node) :
    isLayoutDocument (A.form n.toJson) = false := by
  rw [isLayoutDocument, field?_type]
  rfl

/-- Where errors are reported does not matter to a value that is decoded as a node. -/
theorem Node.decodeRoot_form_toJson {n : Node} (h : codec.decode (A.form n.toJson) = .ok n) :
    (∀ path, decodeAt path (A.form n.toJson) = .ok n) ∧ decodeRoot (A.form n.toJson) = .ok n := by
  have hat (path : String) : decodeAt path (A.form n.toJson) = .ok n :=
    decodeAt_eq_ok.mpr (decode_codec_eq_ok.mp h)
  refine ⟨hat, ?_⟩
  rw [decodeRoot, isLayoutDocument_form_toJson, if_neg Bool.false_ne_true, hat]

end Roots

/-- A way to write something that was decoded from a value: its encoding as it is, or with ascending
keys if the keys of the value ascend. -/
def Json.Rewritten (v encoding w : Json) : Prop :=
  w = encoding ∨ (v.Canonical ∧ w = encoding.sorted)

theorem Json.Rewritten.exists_arrangement {v encoding w : Json} (h : Rewritten v encoding w) :
    ∃ A : Arrangement, A.Kept v ∧ w = A.form encoding := by
  rcases h with rfl | ⟨hcanonical, rfl⟩
  · exact ⟨.asWritten, trivial, rfl⟩
  · exact ⟨.ascending, hcanonical, rfl⟩

/-- What the codec decodes from a value it decodes again from every encoding. -/
def Codec.Faithful {α : Type} (c : Codec α) : Prop :=
  ∀ v a, c.decode v = .ok a → ∀ w, v.Rewritten (c.encode a) w → c.decode w = .ok a

theorem Codec.faithful_of_roundTrips {α : Type} {c : Codec α}
    (h : ∀ A n, c.RoundTrips A n) : c.Faithful := by
  intro v a hdecode w hw
  obtain ⟨A, hkept, rfl⟩ := hw.exists_arrangement
  exact (h A (v.depth + 1)).restores hkept (Nat.lt_succ_self _) hdecode

/-- All documents are decoded again from their encodings; at a root, so are nodes, never as pages,
and pages as the descriptors that they stand for. -/
theorem decode_encode_documents :
    (Node.codec.Faithful ∧ LayoutDocument.record.codec.Faithful ∧
      FormSchema.record.codec.Faithful ∧ TableSchema.record.codec.Faithful ∧
      SearchQuery.record.codec.Faithful ∧ LookupProperties.record.codec.Faithful ∧
      CheckboxProperties.record.codec.Faithful ∧ Config.record.codec.Faithful) ∧
    (∀ path v n, Node.decodeAt path v = .ok n → ∀ w, v.Rewritten n.toJson w →
      (∀ path, Node.decodeAt path w = .ok n) ∧ isLayoutDocument w = false ∧
        decodeRoot w = .ok n) ∧
    (∀ v d, LayoutDocument.record.decode v = .ok d →
      ∀ w, v.Rewritten (LayoutDocument.record.encode d) w →
        decodeRoot w = .ok (.descriptor d.root)) := by
  refine ⟨⟨?_, ?_, ?_, ?_, ?_, ?_, ?_, ?_⟩, ?_, ?_⟩
  · exact Codec.faithful_of_roundTrips (fun _ => Node.roundTrips_codec)
  · exact Codec.faithful_of_roundTrips (fun _ _ => LayoutDocument.roundTrips_codec)
  · exact Codec.faithful_of_roundTrips (fun _ _ => FormSchema.roundTrips_codec)
  · exact Codec.faithful_of_roundTrips (fun _ _ => TableSchema.roundTrips_codec)
  · exact Codec.faithful_of_roundTrips (fun _ _ => SearchQuery.roundTrips_codec)
  · exact Codec.faithful_of_roundTrips (fun _ _ => LookupProperties.roundTrips_codec)
  · exact Codec.faithful_of_roundTrips (fun _ _ => CheckboxProperties.roundTrips_codec)
  · exact Codec.faithful_of_roundTrips (fun _ _ => Config.roundTrips_codec)
  · intro path v n hdecode w hw
    obtain ⟨A, hkept, rfl⟩ := hw.exists_arrangement
    have hcodec : Node.codec.decode v = .ok n :=
      Node.decode_codec_eq_ok.mpr (Node.decodeAt_eq_ok.mp hdecode)
    obtain ⟨hat, hroot⟩ := Node.decodeRoot_form_toJson
      ((Node.roundTrips_codec (v.depth + 1)).restores hkept (Nat.lt_succ_self _) hcodec)
    exact ⟨hat, Node.isLayoutDocument_form_toJson n, hroot⟩
  · intro v d hdecode w hw
    obtain ⟨A, hkept, rfl⟩ := hw.exists_arrangement
    exact LayoutDocument.decodeRoot_form_encode
      (LayoutDocument.roundTrips_codec.restores hkept (Nat.lt_succ_self v.depth) hdecode)

/-- A wrapped layout under alias keys, with hints and the payload of an older node by position. -/
def wrappedLayout : Json := .obj [
  ("componentDetail", .obj [
    ("children", .arr [
      .obj [("component", .str "UserGrid"), ("meta", .arr [.str "TableRenderer", .null])]]),
    ("path", .null),
    ("props", .obj [("gap", .int 4)]),
    ("type", .str "layout")]),
  ("customStyles", .obj [("height", .str "auto"), ("width", .int 3)]),
  ("layout", .arr [.str "grid", .null, .int 2])]

def wrappedLayoutNode : Node := .wrapper {
  detail := .descriptor {
    name := "layout"
    properties := some [("gap", .int 4)]
    children := [
      .legacy { component := "UserGrid", info := some { component := some "TableRenderer" } }] }
  layout := some { display := some "grid", spacing := some (.number (Binary64.ofInt 2)) }
  customStyles := [("height", .text "auto"), ("width", .number (Binary64.ofInt 3))] }

theorem wrappedLayout_decode_encode :
    Node.decodeAt "root" wrappedLayout = .ok wrappedLayoutNode ∧ wrappedLayout.Canonical ∧
      decodeRoot wrappedLayoutNode.toJson = .ok wrappedLayoutNode ∧
      decodeRoot wrappedLayoutNode.toJson.sorted = .ok wrappedLayoutNode := by
  have hdecode : Node.decodeAt "root" wrappedLayout = .ok wrappedLayoutNode := by rfl
  have hcanonical : wrappedLayout.Canonical := by
    simp only [wrappedLayout, Json.Canonical, Json.CanonicalFields, Json.CanonicalItems,
      Dict.Ascending]
    decide
  obtain ⟨_, hnodes, _⟩ := decode_encode_documents
  have hread := hnodes "root" wrappedLayout wrappedLayoutNode hdecode
  exact ⟨hdecode, hcanonical, (hread _ (Or.inl rfl)).2.2,
    (hread _ (Or.inr ⟨hcanonical, rfl⟩)).2.2⟩

end UiSchema
