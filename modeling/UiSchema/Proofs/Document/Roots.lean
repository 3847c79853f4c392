import UiSchema.Proofs.Decode.Entries
import UiSchema.Proofs.Document.RoundTrip

/-!
# Roots of documents

The root of a document is read as a page if it has a type and an object for its content, otherwise
as a node. No value is both: a wrapper and an older node have no type, and the content of a
descriptor is a text. So reading roots extends reading nodes, and what it adds are the pages, each
read as the descriptor of its regions.
-/

namespace UiSchema

set_option autoImplicit false

open Record RecordField

section Absent

variable {α : Type} {c : Codec α}

/-- A part that is absent or null is nothing, and any other part is what its codec reads. -/
theorem rel_of_readOptional {part : Option Json} {read : Option α}
    (h : readOptional c (part.getD .null) = .ok read) :
    Option.Rel (fun w a => c.decode w = .ok a) (part.filter (fun w => !w.isNull)) read := by
  have hnull (h : readOptional c .null = .ok read) : read = none := by
    cases h
    rfl
  cases part with
  | none =>
    rw [hnull h]
    exact .none
  | some w =>
    cases w with
    | null =>
      rw [hnull h]
      exact .none
    | _ =>
      obtain ⟨a, ha, rfl⟩ := map_eq_ok.mp h
      exact .some ha

variable {σ : Type} {r : Record σ} {entries : List (String × Json)} {s : σ} (name : String)

/-- What an exact record holds in an optional field. -/
theorem optional_of_decode (hexact : r.exact = true) (hr : r.Lawful)
    (hsettles : ∀ f ∈ r.fields, f.Settles) {set : Option α → σ → σ} {get : σ → Option α}
    (hf : optional name c set get ∈ r.fields) (hlens : Lens set get)
    (hinitial : get r.initial = none) (h : r.decode (.obj entries) = .ok s) :
    readOptional c (((Json.obj entries).field? name).getD .null) = .ok (get s) := by
  rcases holds_of_decode hexact h hr hsettles hf rfl with ⟨v, hv, hholds⟩ | ⟨hv, _, hkeeps⟩
  · have hv : (Json.obj entries).field? name = some v := hv
    rw [hv]
    exact (holds_iff hlens).mp hholds
  · have hv : (Json.obj entries).field? name = none := hv
    rw [hv]
    exact (holds_iff hlens).mp (hkeeps .null ((holds_iff hlens).mpr (hinitial ▸ readOptional_null)))

/-- What an exact record holds in a mandatory field. -/
theorem mandatory_of_decode (hexact : r.exact = true) (hr : r.Lawful)
    (hsettles : ∀ f ∈ r.fields, f.Settles) {set : α → σ → σ} {get : σ → α}
    (hf : mandatory name c set get ∈ r.fields) (hlens : Lens set get)
    (h : r.decode (.obj entries) = .ok s) :
    ∃ v, (Json.obj entries).field? name = some v ∧ c.decode v = .ok (get s) := by
  rcases holds_of_decode hexact h hr hsettles hf rfl with ⟨v, hv, hholds⟩ | ⟨_, hrequired, _⟩
  · exact ⟨v, hv, (holds_iff hlens).mp hholds⟩
  · cases hrequired

end Absent

section Regions

/-- The node of a region as it is given, by name or by position; null gives none. -/
def Json.slotNode? (slot : Json) : Option Json :=
  let given : Option Json := match slot with
    | .obj fields => Dict.get? fields "meta"
    | .arr items => items.head?
    | _ => none
  given.filter (fun w => !w.isNull)

/-- The node of the region of a page, as it is given. -/
def Json.regionNode? (page : Json) (region : String) : Option Json :=
  (page.field? region).bind slotNode?

/-- The value is read as the node. -/
def Node.ReadFrom (w : Json) (n : Node) : Prop := codec.decode w = .ok n

theorem LayoutSlot.settles : ∀ f ∈ record.fields, f.Settles := by
  simp only [record, List.forall_mem_cons]
  exact ⟨RecordField.settles ⟨rfl, rfl⟩, List.forall_mem_nil _⟩

theorem ContentSlot.settles : ∀ f ∈ record.fields, f.Settles := by
  simp only [record, List.forall_mem_cons]
  exact ⟨RecordField.settles ⟨rfl, rfl⟩, List.forall_mem_nil _⟩

theorem LayoutDocument.settles : ∀ f ∈ record.fields, f.Settles := by
  simp only [record, List.forall_mem_cons]
  exact ⟨RecordField.settles ⟨rfl, rfl⟩, RecordField.settles ⟨rfl, rfl⟩,
    RecordField.settles ⟨rfl, rfl⟩, RecordField.settles ⟨rfl, rfl⟩,
    RecordField.settles ⟨rfl, rfl⟩, List.forall_mem_nil _⟩

theorem LayoutSlot.rel_node {slot : Json} {s : LayoutSlot}
    (h : record.codec.decode slot = .ok s) : Option.Rel Node.ReadFrom slot.slotNode? s.node := by
  cases slot with
  | obj entries =>
    exact rel_of_readOptional (optional_of_decode "meta" rfl LayoutSlot.lawful settles
      List.mem_cons_self ⟨rfl, rfl⟩ rfl h)
  | arr items =>
    apply rel_of_readOptional (c := Node.codec)
    match items, h with
    | [], h =>
      cases h
      rfl
    | [w], h =>
      simp only [Record.codec, Record.decode, record, loadItems, bind_eq_ok, Except.ok.injEq,
        load_optional, map_eq_ok] at h
      obtain ⟨_, ⟨node, hnode, rfl⟩, rfl⟩ := h
      exact hnode
    | _ :: _ :: _, h =>
      simp only [Record.codec, Record.decode, record, loadItems, bind_eq_ok] at h
      obtain ⟨_, _, h⟩ := h
      cases h
  | _ => cases h

theorem ContentSlot.rel_node {entries : List (String × Json)} {s : ContentSlot}
    (h : record.decode (.obj entries) = .ok s) :
    Option.Rel Node.ReadFrom (Json.slotNode? (.obj entries)) (some s.node) := by
  obtain ⟨w, hw, hnode⟩ := mandatory_of_decode "meta" rfl ContentSlot.lawful settles
    List.mem_cons_self ⟨rfl, rfl⟩ h
  have hw : Dict.get? entries "meta" = some w := hw
  simp only [Json.slotNode?, hw]
  cases w with
  | obj fields => exact .some hnode
  | _ => cases hnode

namespace LayoutDocument

/-- A region that is left out, null or empty has no node on either side. -/
theorem rel_slot {given : Option Json} {slot : Option LayoutSlot}
    (h : readOptional LayoutSlot.record.codec (given.getD .null) = .ok slot) :
    Option.Rel Node.ReadFrom (given.bind Json.slotNode?) (slot.bind (·.node)) := by
  have hslot := rel_of_readOptional h
  cases given with
  | none =>
    cases hslot
    exact .none
  | some w =>
    cases w with
    | null =>
      cases hslot
      exact .none
    | _ =>
      cases hslot with
      | some hread => exact LayoutSlot.rel_node hread

variable {entries : List (String × Json)} {d : LayoutDocument}
variable (h : record.decode (.obj entries) = .ok d)
include h

theorem rel_regions (hcontent : ∃ fields, (Json.obj entries).field? "content" = some (.obj fields)) :
    List.Forall₂ Node.ReadFrom
      (["header", "sider", "content", "footer"].filterMap (Json.obj entries).regionNode?)
      d.regions := by
  have hheader := optional_of_decode "header" rfl lawful settles
    (List.mem_of_getElem? (i := 1) rfl) ⟨rfl, rfl⟩ rfl h
  have hsider := optional_of_decode "sider" rfl lawful settles
    (List.mem_of_getElem? (i := 3) rfl) ⟨rfl, rfl⟩ rfl h
  have hfooter := optional_of_decode "footer" rfl lawful settles
    (List.mem_of_getElem? (i := 4) rfl) ⟨rfl, rfl⟩ rfl h
  obtain ⟨slot, hslot, hread⟩ := mandatory_of_decode "content" rfl lawful settles
    (List.mem_of_getElem? (i := 2) rfl) ⟨rfl, rfl⟩ h
  obtain ⟨fields, hfields⟩ := hcontent
  rw [hfields] at hslot
  cases hslot
  have hcontent : Option.Rel Node.ReadFrom ((Json.obj entries).regionNode? "content")
      (some d.content.node) := by
    rw [Json.regionNode?, hfields]
    exact ContentSlot.rel_node hread
  have hrel : List.Forall₂
      (fun region node => Option.Rel Node.ReadFrom ((Json.obj entries).regionNode? region) node)
      ["header", "sider", "content", "footer"]
      [d.header.bind (·.node), d.sider.bind (·.node), some d.content.node,
        d.footer.bind (·.node)] :=
    .cons (rel_slot hheader) (.cons (rel_slot hsider) (.cons hcontent (.cons (rel_slot hfooter) .nil)))
  exact List.rel_filterMap (fun _ _ hnode => hnode) hrel

theorem field?_type : (Json.obj entries).field? "type" = some (.str d.kind) := by
  obtain ⟨v, hv, hkind⟩ := mandatory_of_decode "type" rfl lawful settles
    List.mem_cons_self ⟨rfl, rfl⟩ h
  cases v with
  | str s =>
    cases hkind
    exact hv
  | _ => cases hkind

end LayoutDocument

end Regions

section Disjoint

/-- A value that is read as a page has a type and an object for its content. -/
theorem isLayoutDocument_iff {v : Json} :
    isLayoutDocument v = true ↔ (v.field? "type").isSome = true ∧
      ∃ fields, v.field? "content" = some (.obj fields) := by
  rw [isLayoutDocument, Bool.and_eq_true]
  refine and_congr_right (fun _ => ?_)
  constructor
  · intro h
    split at h
    · rename_i fields hcontent
      exact ⟨fields, hcontent⟩
    · cases h
  · rintro ⟨fields, hcontent⟩
    rw [hcontent]

/-- The shape of a value that is read as a node, told by what the value has. -/
theorem Node.decodeAt_cases {path : String} {v : Json} {n : Node} (h : decodeAt path v = .ok n) :
    ∃ entries, v = .obj entries ∧
      (((v.field? "componentDetail").isSome = true ∧
          ∃ w, (Wrapper.record codec).decode v = .ok w ∧ n = .wrapper w) ∨
        (v.field? "componentDetail" = none ∧ (v.field? "component").isSome = true ∧
          ∃ l, (LegacyNode.record codec).decode v = .ok l ∧ n = .legacy l) ∨
        (v.field? "componentDetail" = none ∧ v.field? "component" = none ∧
          ∃ d, (Descriptor.record codec).decode v = .ok d ∧ n = .descriptor d)) := by
  obtain ⟨⟨entries, rfl⟩, hshape⟩ := decodeAt_eq_ok.mp h
  refine ⟨entries, rfl, ?_⟩
  unfold decodeShape at hshape
  split at hshape
  · rename_i hdetail
    obtain ⟨w, hw, rfl⟩ := map_eq_ok.mp hshape
    exact Or.inl ⟨hdetail, w, hw, rfl⟩
  · rename_i hdetail
    rw [Option.not_isSome_iff_eq_none] at hdetail
    split at hshape
    · rename_i hcomponent
      obtain ⟨l, hl, rfl⟩ := map_eq_ok.mp hshape
      exact Or.inr (Or.inl ⟨hdetail, hcomponent, l, hl, rfl⟩)
    · rename_i hcomponent
      rw [Option.not_isSome_iff_eq_none] at hcomponent
      obtain ⟨d, hd, rfl⟩ := map_eq_ok.mp hshape
      exact Or.inr (Or.inr ⟨hdetail, hcomponent, d, hd, rfl⟩)

/-- The content of a descriptor is no object and no list. -/
theorem Descriptor.content_of_decode {entries : List (String × Json)} {d : Descriptor Node}
    (h : (record Node.codec).decode (.obj entries) = .ok d) {v : Json}
    (hv : (Json.obj entries).field? "content" = some v) : v.depth = 0 := by
  have hfield : (record Node.codec).field? "content" =
      some (.optional "content" .text (fun a s => { s with content := a }) (·.content)) := rfl
  obtain ⟨_, _, hload⟩ := stored_of_decode h (Dict.mem_of_get? hv) hfield
  cases v with
  | arr items => cases hload
  | obj fields => cases hload
  | _ => rfl

/-- The content of a page is an object or a list. -/
theorem LayoutDocument.content_of_decode {entries : List (String × Json)} {d : LayoutDocument}
    (h : record.decode (.obj entries) = .ok d) :
    ∃ v, (Json.obj entries).field? "content" = some v ∧ v.depth ≠ 0 := by
  obtain ⟨v, hv, hread⟩ := mandatory_of_decode "content" rfl lawful settles
    (List.mem_of_getElem? (i := 2) rfl) ⟨rfl, rfl⟩ h
  refine ⟨v, hv, ?_⟩
  cases v with
  | arr items => exact Nat.succ_ne_zero _
  | obj fields => exact Nat.succ_ne_zero _
  | _ => cases hread

/-- No value is read both as a node and as a page. -/
theorem Node.not_layoutDocument {path : String} {v : Json} {n : Node}
    (h : decodeAt path v = .ok n) (d : LayoutDocument) : LayoutDocument.record.decode v ≠ .ok d := by
  intro hd
  obtain ⟨entries, rfl, ⟨hdetail, _⟩ | ⟨_, hcomponent, _⟩ | ⟨_, _, descriptor, hdescriptor, _⟩⟩ :=
    decodeAt_cases h
  · exact absurd (known_of_decode rfl hd hdetail) (by decide)
  · exact absurd (known_of_decode rfl hd hcomponent) (by decide)
  · obtain ⟨v, hv, hdepth⟩ := LayoutDocument.content_of_decode hd
    exact hdepth (Descriptor.content_of_decode hdescriptor hv)

theorem Node.isLayoutDocument_of_decodeAt {path : String} {v : Json} {n : Node}
    (h : decodeAt path v = .ok n) : isLayoutDocument v = false := by
  rw [← Bool.not_eq_true, isLayoutDocument_iff]
  rintro ⟨htype, fields, hcontent⟩
  obtain ⟨entries, rfl, ⟨_, w, hw, _⟩ | ⟨_, _, l, hl, _⟩ | ⟨_, _, d, hd, _⟩⟩ := decodeAt_cases h
  · exact absurd (known_of_decode rfl hw htype) (by decide)
  · exact absurd (known_of_decode rfl hl htype) (by decide)
  · have hdepth := Descriptor.content_of_decode hd hcontent
    cases hdepth

theorem Node.not_both_keys {v : Json} (hdetail : (v.field? "componentDetail").isSome = true)
    (hcomponent : (v.field? "component").isSome = true) (path : String) (n : Node) :
    decodeAt path v ≠ .ok n := by
  intro h
  obtain ⟨entries, rfl, ⟨_, w, hw, _⟩ | ⟨hnone, _⟩ | ⟨hnone, _⟩⟩ := decodeAt_cases h
  · exact absurd (known_of_decode rfl hw hcomponent) (by decide)
  · simp [hnone] at hdetail
  · simp [hnone] at hdetail

end Disjoint

theorem decodeRoot_of_page {v : Json} (hpage : isLayoutDocument v = true) {n : Node} :
    decodeRoot v = .ok n ↔
      ∃ d, LayoutDocument.record.decode v = .ok d ∧ n = .descriptor d.root := by
  rw [decodeRoot, if_pos hpage, mapError_eq_ok, map_eq_ok]
  exact exists_congr (fun d => and_congr_right (fun _ => eq_comm))

theorem decodeRoot_of_not_page {v : Json} (hpage : isLayoutDocument v = false) :
    decodeRoot v = Node.decodeAt "root" v := by
  rw [decodeRoot, hpage, if_neg Bool.false_ne_true]

/-- The value is a page, and the node is the layout of its regions: the descriptor with the type of
the page among its properties and the nodes given for the header, the sider, the content and the
footer as its children. -/
def IsLayoutOf (v : Json) (n : Node) : Prop :=
  ∃ d, LayoutDocument.record.decode v = .ok d ∧ v.field? "type" = some (.str d.kind) ∧
    ∃ children, List.Forall₂ Node.ReadFrom
        (["header", "sider", "content", "footer"].filterMap v.regionNode?) children ∧
      n = .descriptor {
        name := "layout", properties := some [("type", .str d.kind)], children := children }

/-- Reading a root agrees with reading a node on all nodes, none of which is a page; every other
root is read as the layout of the regions of a page; and no value has both the key of a wrapper and
that of an older node. -/
theorem decodeRoot_extends_decodeAt (v : Json) :
    (∀ n, Node.decodeAt "root" v = .ok n →
      decodeRoot v = .ok n ∧ isLayoutDocument v = false ∧
        ∀ d, LayoutDocument.record.decode v ≠ .ok d) ∧
    (∀ n, decodeRoot v = .ok n → (∀ m, Node.decodeAt "root" v ≠ .ok m) → IsLayoutOf v n) ∧
    ((v.field? "componentDetail").isSome = true → (v.field? "component").isSome = true →
      (∀ path n, Node.decodeAt path v ≠ .ok n) ∧ ∀ n, decodeRoot v ≠ .ok n) := by
  refine ⟨fun n hn => ?_, fun n hn hnode => ?_, fun hdetail hcomponent => ?_⟩
  · have hpage := Node.isLayoutDocument_of_decodeAt hn
    exact ⟨(decodeRoot_of_not_page hpage).trans hn, hpage, Node.not_layoutDocument hn⟩
  · have hpage : isLayoutDocument v = true := by
      rw [← Bool.not_eq_false]
      intro hpage
      exact hnode n ((decodeRoot_of_not_page hpage).symm.trans hn)
    obtain ⟨htype, hcontent⟩ := isLayoutDocument_iff.mp hpage
    obtain ⟨d, hd, rfl⟩ := (decodeRoot_of_page hpage).mp hn
    cases v with
    | obj entries =>
      exact ⟨d, hd, LayoutDocument.field?_type hd, d.regions,
        LayoutDocument.rel_regions hd hcontent, rfl⟩
    | _ => cases htype
  · have hnodes := Node.not_both_keys hdetail hcomponent
    refine ⟨hnodes, fun n hn => ?_⟩
    cases hpage : isLayoutDocument v with
    | false => exact hnodes "root" n ((decodeRoot_of_not_page hpage).symm.trans hn)
    | true =>
      obtain ⟨d, hd, _⟩ := (decodeRoot_of_page hpage).mp hn
      cases v with
      | obj entries => exact absurd (known_of_decode rfl hd hdetail) (by decide)
      | _ => cases hdetail

/-- A page with an empty header, no sider and a footer by position. -/
def noticePage : Json := .obj [
  ("content", .obj [("meta", .obj [("component", .str "Notice")])]),
  ("footer", .arr [.obj [("name", .str "imprint")]]),
  ("header", .obj []),
  ("sider", .null),
  ("type", .str "plain")]

def noticePageNode : Node := .descriptor {
  name := "layout"
  properties := some [("type", .str "plain")]
  children := [.legacy { component := "Notice" }, .descriptor { name := "imprint" }] }

/-- An older spelling of a descriptor, which has a type and a content as pages have. -/
def plainText : Json := .obj [("content", .str "hi"), ("type", .str "text")]

theorem noticePage_isLayoutOf :
    (Node.decodeAt "root" plainText = .ok (.descriptor { name := "text", content := some "hi" }) ∧
      isLayoutDocument plainText = false) ∧
    (decodeRoot noticePage = .ok noticePageNode ∧
      (∀ m, Node.decodeAt "root" noticePage ≠ .ok m) ∧ IsLayoutOf noticePage noticePageNode) ∧
    ∀ n, decodeRoot (.obj [("component", .str "Grid"), ("componentDetail", plainText)]) ≠ .ok n := by
  have htext : Node.decodeAt "root" plainText =
      .ok (.descriptor { name := "text", content := some "hi" }) := rfl
  have hpage : decodeRoot noticePage = .ok noticePageNode := rfl
  have hnode : ∀ m, Node.decodeAt "root" noticePage ≠ .ok m := nofun
  refine ⟨⟨htext, ((decodeRoot_extends_decodeAt plainText).1 _ htext).2.1⟩,
    ⟨hpage, hnode, (decodeRoot_extends_decodeAt noticePage).2.1 _ hpage hnode⟩, ?_⟩
  exact ((decodeRoot_extends_decodeAt _).2.2 rfl rfl).2

end UiSchema
