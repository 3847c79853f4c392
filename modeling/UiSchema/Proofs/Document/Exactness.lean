import UiSchema.Proofs.Document.Roots

/-!
# Keys that a document does not know

A document is made of structures, each read from an object, or from an array by position. A key that
a structure does not know is refused wherever the structure stands, with one exception: the override
of the hints of a viewport ignores such keys. So a value that is read as a root is refused after a
key was added to one structure in it, unless that structure is an override, and then it is read as
before.
-/

namespace UiSchema

set_option autoImplicit false

open Record RecordField

/-- The structures that a layout is made of. -/
inductive Structure where
  | page
  | region
  | contentRegion
  | descriptor
  | older
  | olderInfo
  | wrapper
  | layout
  | interaction
  | display
  | responsive
  | breakpoints
  | hintOverride
  | accessibility
deriving DecidableEq

/-- What is expected at a place of a document. -/
inductive Expected where
  | one (s : Structure)
  | node
  | nodes
deriving DecidableEq

namespace Structure

def Carrier : Structure → Type
  | page => LayoutDocument
  | region => LayoutSlot
  | contentRegion => ContentSlot
  | descriptor => Descriptor Node
  | older => LegacyNode Node
  | olderInfo => LegacyMeta
  | wrapper => Wrapper Node
  | layout => LayoutHints
  | interaction => InteractionHints
  | display => DisplayHints
  | responsive => ResponsiveHints
  | breakpoints => Breakpoints
  | hintOverride => HintOverride
  | accessibility => AccessibilityHints

def record : (s : Structure) → Record s.Carrier
  | page => LayoutDocument.record
  | region => LayoutSlot.record
  | contentRegion => ContentSlot.record
  | descriptor => Descriptor.record Node.codec
  | older => LegacyNode.record Node.codec
  | olderInfo => LegacyMeta.record
  | wrapper => Wrapper.record Node.codec
  | layout => LayoutHints.record
  | interaction => InteractionHints.record
  | display => DisplayHints.record
  | responsive => ResponsiveHints.record
  | breakpoints => Breakpoints.record
  | hintOverride => HintOverride.record
  | accessibility => AccessibilityHints.record

/-- The names and aliases of the fields. -/
def keys (s : Structure) : List String := s.record.knownKeys

/-- The fields with structures inside them. -/
def inside : Structure → List (String × Expected)
  | page => [("header", .one region), ("content", .one contentRegion), ("sider", .one region),
      ("footer", .one region)]
  | region => [("meta", .node)]
  | contentRegion => [("meta", .node)]
  | descriptor => [("children", .nodes)]
  | older => [("meta", .one olderInfo), ("children", .nodes)]
  | wrapper => [("componentDetail", .node), ("layout", .one layout),
      ("interaction", .one interaction), ("display", .one display),
      ("responsive", .one responsive), ("accessibility", .one accessibility)]
  | responsive => [("breakpoints", .one breakpoints)]
  | breakpoints => [("mobile", .one hintOverride), ("tablet", .one hintOverride),
      ("desktop", .one hintOverride)]
  | hintOverride => [("layout", .one layout), ("display", .one display)]
  | _ => []

/-- The structure that a node stands for, told by its keys. -/
def ofNode (v : Json) : Structure :=
  if (v.field? "componentDetail").isSome then wrapper
  else if (v.field? "component").isSome then older
  else descriptor

end Structure

/-- The second value is the first one with a key added to one object in it that stands for a
structure of the kind `target`; the structure does not know the key. -/
inductive Widened (key : String) (x : Json) (target : Structure) : Expected → Json → Json → Prop
  | here {before after : List (String × Json)} :
      key ∉ target.keys → key ∉ Dict.keys (before ++ after) →
      Widened key x target (.one target) (.obj (before ++ after)) (.obj (before ++ (key, x) :: after))
  | entry {s : Structure} {name : String} {e : Expected} {w w' : Json}
      (before after : List (String × Json)) :
      (name, e) ∈ s.inside → Widened key x target e w w' →
      Widened key x target (.one s) (.obj (before ++ (name, w) :: after))
        (.obj (before ++ (name, w') :: after))
  | position {s : Structure} {name : String} {e : Expected} {w w' : Json}
      (before after : List Json) :
      (name, e) ∈ s.inside → (s.record.fields.map RecordField.name)[before.length]? = some name →
      Widened key x target e w w' →
      Widened key x target (.one s) (.arr (before ++ w :: after)) (.arr (before ++ w' :: after))
  | node {v v' : Json} :
      Widened key x target (.one (Structure.ofNode v)) v v' → Widened key x target .node v v'
  | item {w w' : Json} (before after : List Json) :
      Widened key x target .node w w' →
      Widened key x target .nodes (.arr (before ++ w :: after)) (.arr (before ++ w' :: after))

/-- What is expected at the root of a document. -/
def Expected.root (v : Json) : Expected := if isLayoutDocument v then .one .page else .node

namespace Expected

def Carrier : Expected → Type
  | one s => s.Carrier
  | node => Node
  | nodes => List Node

def codec : (e : Expected) → Codec e.Carrier
  | one s => s.record.codec
  | node => Node.codec
  | nodes => .list Node.codec

end Expected

section Tables

theorem Structure.lawful : ∀ s : Structure, s.record.Lawful
  | page => LayoutDocument.lawful
  | region => LayoutSlot.lawful
  | contentRegion => ContentSlot.lawful
  | descriptor => Descriptor.lawful Node.codec
  | older => LegacyNode.lawful Node.codec
  | olderInfo => LegacyMeta.lawful
  | wrapper => Wrapper.lawful Node.codec
  | layout => LayoutHints.lawful
  | interaction => InteractionHints.lawful
  | display => DisplayHints.lawful
  | responsive => ResponsiveHints.lawful
  | breakpoints => Breakpoints.lawful
  | hintOverride => HintOverride.lawful
  | accessibility => AccessibilityHints.lawful

theorem Structure.exact_iff (s : Structure) : s.record.exact = true ↔ s ≠ hintOverride := by
  cases s with
  | hintOverride => exact iff_of_false Bool.false_ne_true (fun h => h rfl)
  | _ => exact iff_of_true rfl nofun

/-- What the field loads of a value that is not null is what the codec reads. -/
def RecordField.Reads {σ α : Type} (f : RecordField σ) (c : Codec α) : Prop :=
  ∃ set : α → σ → σ, ∀ v, v ≠ .null → ∀ s, f.load v s = (c.decode v).map (fun a => set a s)

section Kinds

variable {σ α : Type} {name : String} {c : Codec α}

theorem reads_mandatory {set : α → σ → σ} {get : σ → α} : (mandatory name c set get).Reads c :=
  ⟨set, fun _ _ _ => rfl⟩

theorem reads_unlessEmpty {c : Codec (List α)} {set : List α → σ → σ} {get : σ → List α} :
    (unlessEmpty name c set get).Reads c :=
  ⟨set, fun _ _ _ => rfl⟩

theorem reads_optional {set : Option α → σ → σ} {get : σ → Option α} :
    (optional name c set get).Reads c := by
  refine ⟨fun a => set (some a), fun v hv s => ?_⟩
  cases v with
  | null => exact absurd rfl hv
  | _ => rfl

end Kinds

/-- The fields with structures inside them read what is expected there. -/
theorem Structure.reads_inside : ∀ (s : Structure), ∀ e ∈ s.inside,
    ∃ f, s.record.field? e.1 = some f ∧ f.Reads e.2.codec := by
  intro s
  cases s with
  | page =>
    simp only [inside, List.forall_mem_cons]
    exact ⟨⟨_, rfl, reads_optional⟩, ⟨_, rfl, reads_mandatory⟩, ⟨_, rfl, reads_optional⟩,
      ⟨_, rfl, reads_optional⟩, List.forall_mem_nil _⟩
  | region =>
    simp only [inside, List.forall_mem_cons]
    exact ⟨⟨_, rfl, reads_optional⟩, List.forall_mem_nil _⟩
  | contentRegion =>
    simp only [inside, List.forall_mem_cons]
    exact ⟨⟨_, rfl, reads_mandatory⟩, List.forall_mem_nil _⟩
  | descriptor =>
    simp only [inside, List.forall_mem_cons]
    exact ⟨⟨_, rfl, reads_unlessEmpty⟩, List.forall_mem_nil _⟩
  | older =>
    simp only [inside, List.forall_mem_cons]
    exact ⟨⟨_, rfl, reads_optional⟩, ⟨_, rfl, reads_unlessEmpty⟩, List.forall_mem_nil _⟩
  | wrapper =>
    simp only [inside, List.forall_mem_cons]
    exact ⟨⟨_, rfl, reads_mandatory⟩, ⟨_, rfl, reads_optional⟩, ⟨_, rfl, reads_optional⟩,
      ⟨_, rfl, reads_optional⟩, ⟨_, rfl, reads_optional⟩, ⟨_, rfl, reads_optional⟩,
      List.forall_mem_nil _⟩
  | responsive =>
    simp only [inside, List.forall_mem_cons]
    exact ⟨⟨_, rfl, reads_optional⟩, List.forall_mem_nil _⟩
  | breakpoints =>
    simp only [inside, List.forall_mem_cons]
    exact ⟨⟨_, rfl, reads_optional⟩, ⟨_, rfl, reads_optional⟩, ⟨_, rfl, reads_optional⟩,
      List.forall_mem_nil _⟩
  | hintOverride =>
    simp only [inside, List.forall_mem_cons]
    exact ⟨⟨_, rfl, reads_optional⟩, ⟨_, rfl, reads_optional⟩, List.forall_mem_nil _⟩
  | _ => exact List.forall_mem_nil _

/-- The field of a name stands at the position of the name. -/
theorem Structure.getElem?_fields {s : Structure} {name : String} {f : RecordField s.Carrier}
    (hf : s.record.field? name = some f) {i : Nat}
    (hi : (s.record.fields.map RecordField.name)[i]? = some name) :
    s.record.fields[i]? = some f := by
  rw [List.getElem?_map, Option.map_eq_some_iff] at hi
  obtain ⟨g, hg, rfl⟩ := hi
  rw [s.lawful.field?_eq (List.mem_of_getElem? hg), Option.some.injEq] at hf
  rw [hg, hf]

end Tables

namespace Widened

variable {key : String} {x : Json} {target : Structure} {s : Structure} {e : Expected} {v v' : Json}

theorem ne_null (h : Widened key x target e v v') : v ≠ .null ∧ v' ≠ .null := by
  induction h with
  | node _ ih => exact ih
  | _ => exact ⟨nofun, nofun⟩

/-- Objects stay objects, and lists lists. -/
theorem isObject (h : Widened key x target e v v') :
    (∃ entries, v = .obj entries) ↔ ∃ entries, v' = .obj entries := by
  induction h with
  | here => exact iff_of_true ⟨_, rfl⟩ ⟨_, rfl⟩
  | entry => exact iff_of_true ⟨_, rfl⟩ ⟨_, rfl⟩
  | position => exact iff_of_false nofun nofun
  | node _ ih => exact ih
  | item => exact iff_of_false nofun nofun

/-- What an object has under a key is the same, or was added, or was itself changed. -/
theorem field? (h : Widened key x target (.one s) v v') (k : String) :
    v'.field? k = v.field? k ∨
      (k = key ∧ target = s ∧ key ∉ target.keys ∧ v.field? k = none) ∨
        ∃ e w w', (k, e) ∈ s.inside ∧ v.field? k = some w ∧ v'.field? k = some w' ∧
          Widened key x target e w w' := by
  cases h with
  | @here before after hkey hnew =>
    by_cases hk : k = key
    · subst hk
      exact Or.inr (Or.inl ⟨rfl, rfl, hkey, Dict.get?_eq_none_of_not_mem hnew⟩)
    · exact Or.inl ((Dict.get?_add hnew x k).trans (if_neg hk))
  | @entry _ name e w w' before after hinside h =>
    rcases Dict.get?_replace before after name w w' k with heq | ⟨rfl, hw, hw'⟩
    · exact Or.inl heq
    · exact Or.inr (Or.inr ⟨e, w, w', hinside, hw, hw', h⟩)
  | position => exact Or.inl rfl

theorem field?_isSome (h : Widened key x target (.one s) v v') {k : String}
    (hk : (v.field? k).isSome = true) : (v'.field? k).isSome = true := by
  rcases h.field? k with heq | ⟨_, _, _, hnone⟩ | ⟨_, _, _, _, _, hw', _⟩
  · rw [heq]
    exact hk
  · rw [hnone] at hk
    cases hk
  · rw [hw']
    rfl

/-- A field that is known and has no structures inside stays as it is. -/
theorem field?_eq (h : Widened key x target (.one s) v v') {k : String} (hkey : k ∈ s.keys)
    (hinside : ∀ e, (k, e) ∉ s.inside) : v'.field? k = v.field? k := by
  rcases h.field? k with heq | ⟨rfl, rfl, hunknown, _⟩ | ⟨e, _, _, hmem, _⟩
  · exact heq
  · exact absurd hkey hunknown
  · exact absurd hmem (hinside e)

end Widened

section Parts

variable {σ α : Type} {r : Record σ} {f : RecordField σ} {c : Codec α} {w w' : Json}

theorem RecordField.Reads.decode_of_load (hreads : f.Reads c) (hw : w ≠ .null)
    (h : ∃ u u', f.load w u = .ok u') : ∃ a, c.decode w = .ok a := by
  obtain ⟨set, hload⟩ := hreads
  obtain ⟨u, u', hu⟩ := h
  rw [hload w hw, map_eq_ok] at hu
  obtain ⟨a, ha, _⟩ := hu
  exact ⟨a, ha⟩

theorem RecordField.Reads.load_congr (hreads : f.Reads c) (hw : w ≠ .null) (hw' : w' ≠ .null)
    (h : c.decode w' = c.decode w) (u : σ) : f.load w' u = f.load w u := by
  obtain ⟨set, hload⟩ := hreads
  rw [hload w hw, hload w' hw', h]

/-- A part of a value is placed under the name of its field, or at its position. -/
inductive Placed (r : Record σ) (f : RecordField σ) (w w' : Json) : Json → Json → Prop
  | entry {name : String} (before after : List (String × Json)) : r.field? name = some f →
      Placed r f w w' (.obj (before ++ (name, w) :: after)) (.obj (before ++ (name, w') :: after))
  | position (before after : List Json) : r.fields[before.length]? = some f →
      Placed r f w w' (.arr (before ++ w :: after)) (.arr (before ++ w' :: after))

variable {v v' : Json}

theorem Placed.symm (h : Placed r f w w' v v') : Placed r f w' w v' v := by
  cases h with
  | entry before after hf => exact .entry before after hf
  | position before after hf => exact .position before after hf

theorem Placed.load_of_decode (h : Placed r f w w' v v') {s : σ} (hv : r.decode v = .ok s) :
    ∃ u u', f.load w u = .ok u' := by
  cases h with
  | entry before after hf => exact stored_of_decode hv (by simp) hf
  | position before after hf => exact stored_of_loadItems hf hv

theorem Placed.decode_congr (h : Placed r f w w' v v') (hload : ∀ u, f.load w' u = f.load w u) :
    r.decode v' = r.decode v := by
  cases h with
  | entry before after hf => simp only [decode, loadEntries_replace hf hload]
  | position before after hf =>
    simp only [decode, List.length_append, List.length_cons, loadItems_replace hf hload]

end Parts

section Nodes

open Structure (ofNode)

variable {key : String} {x : Json} {target : Structure} {v v' : Json}

theorem Structure.ofNode_cases (v : Json) :
    (ofNode v = wrapper ∧ (v.field? "componentDetail").isSome = true) ∨
      (ofNode v = older ∧ v.field? "componentDetail" = none ∧
        (v.field? "component").isSome = true) ∨
      (ofNode v = descriptor ∧ v.field? "componentDetail" = none ∧ v.field? "component" = none) := by
  unfold ofNode
  split
  · exact Or.inl ⟨rfl, ‹_›⟩
  · rename_i hdetail
    rw [Option.not_isSome_iff_eq_none] at hdetail
    split
    · exact Or.inr (Or.inl ⟨rfl, hdetail, ‹_›⟩)
    · rename_i hcomponent
      rw [Option.not_isSome_iff_eq_none] at hcomponent
      exact Or.inr (Or.inr ⟨rfl, hdetail, hcomponent⟩)

theorem Node.decodeShape_eq_ok (v : Json) {n : Node} :
    decodeShape codec v = .ok n ↔
      (ofNode v = .wrapper ∧ ∃ w, (Wrapper.record codec).decode v = .ok w ∧ wrapper w = n) ∨
      (ofNode v = .older ∧ ∃ l, (LegacyNode.record codec).decode v = .ok l ∧ legacy l = n) ∨
      (ofNode v = .descriptor ∧
        ∃ d, (Descriptor.record codec).decode v = .ok d ∧ descriptor d = n) := by
  unfold decodeShape
  rcases Structure.ofNode_cases v with ⟨hof, hdetail⟩ | ⟨hof, hdetail, hcomponent⟩ |
    ⟨hof, hdetail, hcomponent⟩
  · simp [hof, hdetail, map_eq_ok]
  · simp [hof, hdetail, hcomponent, map_eq_ok]
  · simp [hof, hdetail, hcomponent, map_eq_ok]

theorem Structure.ofNode_ne (v : Json) : ofNode v ≠ hintOverride := by
  unfold ofNode
  split
  · exact nofun
  · split
    · exact nofun
    · exact nofun

/-- A descriptor has a name in one of its two spellings. -/
theorem Descriptor.named_of_decode {entries : List (String × Json)} {d : Descriptor Node}
    (h : (record Node.codec).decode (.obj entries) = .ok d) :
    ((Json.obj entries).field? "name").isSome = true ∨
      ((Json.obj entries).field? "type").isSome = true := by
  obtain ⟨key, hkey, hgiven⟩ :=
    given_of_required (Descriptor.lawful Node.codec) h List.mem_cons_self rfl
  have hkey : key ∈ ["name", "type"] := hkey
  rcases List.mem_pair.mp hkey with rfl | rfl
  · exact Or.inl hgiven
  · exact Or.inr hgiven

theorem Structure.ofNode_congr
    (hdetail : (v'.field? "componentDetail").isSome = (v.field? "componentDetail").isSome)
    (hcomponent : (v'.field? "component").isSome = (v.field? "component").isSome) :
    ofNode v' = ofNode v := by
  rw [ofNode, ofNode, hdetail, hcomponent]

/-- A key that is added to something inside a node does not change what the node stands for. -/
theorem Widened.ofNode_eq (h : Widened key x target (.one (ofNode v)) v v')
    (htarget : target ≠ ofNode v) : ofNode v' = ofNode v := by
  have hsame (k : String) : (v'.field? k).isSome = (v.field? k).isSome := by
    rcases h.field? k with heq | ⟨_, heq, _⟩ | ⟨_, w, w', _, hw, hw', _⟩
    · rw [heq]
    · exact absurd heq htarget
    · rw [hw, hw']
      rfl
  exact Structure.ofNode_congr (hsame _) (hsame _)

/-- A node that turns into another one by a key keeps a key that the other one does not know. -/
theorem Widened.ofNode_refused (h : Widened key x target (.one (ofNode v)) v v')
    (hne : ofNode v' ≠ ofNode v) {path : String} {n : Node} (hv : Node.decodeAt path v = .ok n)
    (path' : String) (m : Node) : Node.decodeAt path' v' ≠ .ok m := by
  intro hv'
  obtain ⟨entries', rfl, hcases'⟩ := Node.decodeAt_cases hv'
  obtain ⟨entries, rfl, hcases⟩ := Node.decodeAt_cases hv
  have hkeeps {k : String} := h.field?_isSome (k := k)
  rcases hcases with ⟨hdetail, _⟩ | ⟨hdetail, hcomponent, _⟩ | ⟨hdetail, hcomponent, d, hd, _⟩
  · have hdetail' := hkeeps hdetail
    exact hne (by rw [ofNode, ofNode, if_pos hdetail, if_pos hdetail'])
  · have hcomponent' := hkeeps hcomponent
    rcases hcases' with ⟨_, w, hw, _⟩ | ⟨hdetail', _⟩ | ⟨_, hnone, _⟩
    · exact absurd (known_of_decode rfl hw hcomponent') (by decide)
    · exact hne (Structure.ofNode_congr (by rw [hdetail, hdetail']) (by rw [hcomponent, hcomponent']))
    · rw [hnone] at hcomponent'
      cases hcomponent'
  · have hnamed := (Descriptor.named_of_decode hd).imp hkeeps hkeeps
    rcases hcases' with ⟨_, w, hw, _⟩ | ⟨_, _, l, hl, _⟩ | ⟨hdetail', hcomponent', _⟩
    · rcases hnamed with hname | htype
      · exact absurd (known_of_decode rfl hw hname) (by decide)
      · exact absurd (known_of_decode rfl hw htype) (by decide)
    · rcases hnamed with hname | htype
      · exact absurd (known_of_decode rfl hl hname) (by decide)
      · exact absurd (known_of_decode rfl hl htype) (by decide)
    · exact hne (Structure.ofNode_congr (by rw [hdetail, hdetail']) (by rw [hcomponent, hcomponent']))

end Nodes

section Reading

variable {key : String} {x : Json} {target : Structure} {e : Expected} {v v' : Json}

theorem Codec.decode_items_congr {α : Type} {c : Codec α} {w w' : Json}
    (h : c.decode w' = c.decode w) (before after : List Json) :
    (list c).decode (.arr (before ++ w' :: after)) = (list c).decode (.arr (before ++ w :: after)) := by
  induction before with
  | nil => simp only [list, List.nil_append, decodeItems, h]
  | cons first rest ih =>
    simp only [list] at ih
    simp only [list, List.cons_append, decodeItems, ih]

/-- A node is read by the record of its structure. -/
theorem Structure.decode_ofNode {n : Node} (h : Node.codec.decode v = .ok n) :
    ∃ a, (Structure.ofNode v).record.decode v = .ok a := by
  rcases (Node.decodeShape_eq_ok v).mp (Node.decode_codec_eq_ok.mp h).2 with
    ⟨hof, w, hw, _⟩ | ⟨hof, l, hl, _⟩ | ⟨hof, d, hd, _⟩
  · rw [hof]
    exact ⟨w, hw⟩
  · rw [hof]
    exact ⟨l, hl⟩
  · rw [hof]
    exact ⟨d, hd⟩

theorem Node.decode_codec_congr
    (hobject : (∃ entries, v = .obj entries) ↔ ∃ entries, v' = .obj entries)
    (hs : Structure.ofNode v' = Structure.ofNode v)
    (hread : ∀ a, (Structure.ofNode v).record.decode v = .ok a →
      (Structure.ofNode v).record.decode v' = .ok a) {n : Node} (h : codec.decode v = .ok n) :
    codec.decode v' = .ok n := by
  obtain ⟨hv, hshape⟩ := decode_codec_eq_ok.mp h
  refine decode_codec_eq_ok.mpr ⟨hobject.mp hv, (decodeShape_eq_ok v').mpr ?_⟩
  rcases (decodeShape_eq_ok v).mp hshape with ⟨hof, w, hw, rfl⟩ | ⟨hof, l, hl, rfl⟩ | ⟨hof, d, hd, rfl⟩
  · rw [hof] at hs hread
    exact Or.inl ⟨hs, w, hread w hw, rfl⟩
  · rw [hof] at hs hread
    exact Or.inr (Or.inl ⟨hs, l, hread l hl, rfl⟩)
  · rw [hof] at hs hread
    exact Or.inr (Or.inr ⟨hs, d, hread d hd, rfl⟩)

/-- What stands inside a structure is read by a field of its record. -/
theorem Structure.placed {s : Structure} {name : String} (hinside : (name, e) ∈ s.inside)
    (w w' : Json) :
    ∃ f, f.Reads e.codec ∧
      (∀ before after : List (String × Json), Placed s.record f w w'
        (.obj (before ++ (name, w) :: after)) (.obj (before ++ (name, w') :: after))) ∧
      ∀ before after : List Json,
        (s.record.fields.map RecordField.name)[before.length]? = some name →
        Placed s.record f w w' (.arr (before ++ w :: after)) (.arr (before ++ w' :: after)) := by
  obtain ⟨f, hf, hreads⟩ := s.reads_inside (name, e) hinside
  exact ⟨f, hreads, fun before after => .entry before after hf,
    fun before after hposition => .position before after (Structure.getElem?_fields hf hposition)⟩

namespace Widened

theorem decode_of_placed {s : Structure} {f : RecordField s.Carrier} {w w' : Json}
    (h : Widened key x target e w w')
    (hreads : f.Reads e.codec) (hplaced : Placed s.record f w w' v v')
    (hsame : ∀ a, e.codec.decode w = .ok a → e.codec.decode w' = .ok a) {a : s.Carrier}
    (hv : s.record.decode v = .ok a) : s.record.decode v' = .ok a := by
  obtain ⟨b, hb⟩ := hreads.decode_of_load h.ne_null.1 (hplaced.load_of_decode hv)
  have hload := hreads.load_congr h.ne_null.1 h.ne_null.2 ((hsame b hb).trans hb.symm)
  rw [hplaced.decode_congr hload, hv]

theorem refused_of_placed {s : Structure} {f : RecordField s.Carrier} {w w' : Json}
    (h : Widened key x target e w w')
    (hreads : f.Reads e.codec) (hplaced : Placed s.record f w w' v v')
    (hrefused : ∀ a, e.codec.decode w = .ok a → ∀ b, e.codec.decode w' ≠ .ok b) {a : s.Carrier}
    (hv : s.record.decode v = .ok a) (b : s.Carrier) : s.record.decode v' ≠ .ok b := by
  intro hv'
  obtain ⟨c, hc⟩ := hreads.decode_of_load h.ne_null.1 (hplaced.load_of_decode hv)
  obtain ⟨c', hc'⟩ := hreads.decode_of_load h.ne_null.2 (hplaced.symm.load_of_decode hv')
  exact hrefused c hc c' hc'

/-- An override of hints ignores a key that it does not know, and so does everything around it. -/
theorem decode_eq (h : Widened key x target e v v') (htarget : target = .hintOverride) :
    ∀ a, e.codec.decode v = .ok a → e.codec.decode v' = .ok a := by
  induction h with
  | @here before after hkey hnew =>
    subst htarget
    intro a ha
    have hignore := loadEntries_ignore (r := HintOverride.record) (w := x) rfl
      (field?_eq_none_iff.mpr hkey) before after
    have hsame : HintOverride.record.decode (.obj (before ++ (key, x) :: after)) =
        HintOverride.record.decode (.obj (before ++ after)) := by
      simp only [decode, hignore]
    exact hsame.trans ha
  | @entry s name e w w' before after hinside h ih =>
    intro a ha
    obtain ⟨f, hreads, hentry, _⟩ := Structure.placed hinside w w'
    exact h.decode_of_placed hreads (hentry before after) ih ha
  | @position s name e w w' before after hinside hposition h ih =>
    intro a ha
    obtain ⟨f, hreads, _, hplaced⟩ := Structure.placed hinside w w'
    exact h.decode_of_placed hreads (hplaced before after hposition) ih ha
  | @node v v' h ih =>
    intro n hn
    have hne : target ≠ Structure.ofNode v := fun heq => Structure.ofNode_ne v (heq ▸ htarget)
    exact Node.decode_codec_congr h.isObject (h.ofNode_eq hne) ih hn
  | item before after h ih =>
    intro nodes hnodes
    obtain ⟨n, hn⟩ := Codec.exists_of_mem_list hnodes (List.mem_append_right before List.mem_cons_self)
    exact (Codec.decode_items_congr ((ih n hn).trans hn.symm) before after).trans hnodes

/-- All other structures refuse a key that they do not know, and so does everything around them. -/
theorem decode_ne_ok (h : Widened key x target e v v') (htarget : target ≠ .hintOverride) :
    ∀ a, e.codec.decode v = .ok a → ∀ b, e.codec.decode v' ≠ .ok b := by
  induction h with
  | @here before after hkey hnew =>
    intro a ha b hb
    have hgiven : ((Json.obj (before ++ (key, x) :: after)).field? key).isSome = true :=
      Dict.isSome_get?_of_mem (List.mem_append_right before List.mem_cons_self)
    exact hkey (known_of_decode ((Structure.exact_iff target).mpr htarget) hb hgiven)
  | @entry s name e w w' before after hinside h ih =>
    intro a ha
    obtain ⟨f, hreads, hentry, _⟩ := Structure.placed hinside w w'
    exact h.refused_of_placed hreads (hentry before after) ih ha
  | @position s name e w w' before after hinside hposition h ih =>
    intro a ha
    obtain ⟨f, hreads, _, hplaced⟩ := Structure.placed hinside w w'
    exact h.refused_of_placed hreads (hplaced before after hposition) ih ha
  | @node v v' h ih =>
    intro n hn m hm
    have hread (w : Json) (k : Node) (hw : Node.codec.decode w = .ok k) :
        Node.decodeAt "" w = .ok k := Node.decodeAt_eq_ok.mpr (Node.decode_codec_eq_ok.mp hw)
    by_cases hs : Structure.ofNode v' = Structure.ofNode v
    · obtain ⟨a, ha⟩ := Structure.decode_ofNode hn
      have hread' := Structure.decode_ofNode hm
      rw [hs] at hread'
      obtain ⟨b, hb⟩ := hread'
      exact ih a ha b hb
    · exact h.ofNode_refused hs (hread v n hn) "" m (hread v' m hm)
  | item before after h ih =>
    intro nodes hnodes others hothers
    obtain ⟨n, hn⟩ := Codec.exists_of_mem_list hnodes (List.mem_append_right before List.mem_cons_self)
    obtain ⟨m, hm⟩ := Codec.exists_of_mem_list hothers (List.mem_append_right before List.mem_cons_self)
    exact ih n hn m hm

end Widened

end Reading

section Roots

variable {key : String} {x : Json} {target : Structure} {v v' : Json} {n : Node}

theorem Expected.root_of_page (hpage : isLayoutDocument v = true) : root v = .one .page :=
  if_pos hpage

theorem Expected.root_of_not_page (hpage : isLayoutDocument v = false) : root v = .node := by
  rw [root, hpage, if_neg Bool.false_ne_true]

namespace Widened

/-- A page stays a page. -/
theorem isLayoutDocument (h : Widened key x target (.one .page) v v')
    (hpage : isLayoutDocument v = true) : UiSchema.isLayoutDocument v' = true := by
  obtain ⟨htype, fields, hcontent⟩ := isLayoutDocument_iff.mp hpage
  refine isLayoutDocument_iff.mpr ⟨h.field?_isSome htype, ?_⟩
  rcases h.field? "content" with heq | ⟨_, _, _, hnone⟩ | ⟨e, w, w', _, hw, hw', hinside⟩
  · exact ⟨fields, heq.trans hcontent⟩
  · rw [hcontent] at hnone
    cases hnone
  · rw [hcontent, Option.some.injEq] at hw
    obtain ⟨fields', rfl⟩ := hinside.isObject.mp ⟨fields, hw.symm⟩
    exact ⟨fields', hw'⟩

/-- A node that turns into a page by a key is no page that can be read. -/
theorem page_refused (h : Widened key x target (.one (Structure.ofNode v)) v v') {path : String}
    (hn : Node.decodeAt path v = .ok n) (hpage : UiSchema.isLayoutDocument v' = true)
    (d : LayoutDocument) : LayoutDocument.record.decode v' ≠ .ok d := by
  intro hd
  obtain ⟨htype, fields, hcontent⟩ := isLayoutDocument_iff.mp hpage
  obtain ⟨entries, rfl, hcases⟩ := Node.decodeAt_cases hn
  obtain ⟨entries', rfl⟩ := h.isObject.mp ⟨entries, rfl⟩
  rcases hcases with ⟨hdetail, _⟩ | ⟨_, hcomponent, _⟩ | ⟨hdetail, hcomponent, d, hdescriptor, _⟩
  · exact absurd (known_of_decode rfl hd (h.field?_isSome hdetail)) (by decide)
  · exact absurd (known_of_decode rfl hd (h.field?_isSome hcomponent)) (by decide)
  · have hof : Structure.ofNode (.obj entries) = .descriptor := by
      rw [Structure.ofNode, hdetail, hcomponent]
      rfl
    rw [hof] at h
    have hsame : (Json.obj entries').field? "content" = (Json.obj entries).field? "content" :=
      h.field?_eq (by decide) (by simp [Structure.inside])
    have hdepth := Descriptor.content_of_decode hdescriptor (hsame.symm.trans hcontent)
    cases hdepth

theorem decodeRoot_eq (h : Widened key x target (.root v) v v') (htarget : target = .hintOverride)
    (hn : decodeRoot v = .ok n) : decodeRoot v' = .ok n := by
  cases hpage : UiSchema.isLayoutDocument v with
  | true =>
    rw [Expected.root_of_page hpage] at h
    obtain ⟨d, hd, rfl⟩ := (decodeRoot_of_page hpage).mp hn
    exact (decodeRoot_of_page (h.isLayoutDocument hpage)).mpr ⟨d, h.decode_eq htarget d hd, rfl⟩
  | false =>
    rw [Expected.root_of_not_page hpage] at h
    have hread : Node.decodeAt "root" v = .ok n := (decodeRoot_of_not_page hpage).symm.trans hn
    have hcodec := Node.decode_codec_eq_ok.mpr (Node.decodeAt_eq_ok.mp hread)
    have hread' : Node.decodeAt "root" v' = .ok n :=
      Node.decodeAt_eq_ok.mpr (Node.decode_codec_eq_ok.mp (h.decode_eq htarget n hcodec))
    exact (decodeRoot_of_not_page (Node.isLayoutDocument_of_decodeAt hread')).trans hread'

theorem decodeRoot_ne_ok (h : Widened key x target (.root v) v v')
    (htarget : target ≠ .hintOverride) (hn : decodeRoot v = .ok n) (m : Node) :
    decodeRoot v' ≠ .ok m := by
  intro hm
  cases hpage : UiSchema.isLayoutDocument v with
  | true =>
    rw [Expected.root_of_page hpage] at h
    obtain ⟨d, hd, _⟩ := (decodeRoot_of_page hpage).mp hn
    obtain ⟨d', hd', _⟩ := (decodeRoot_of_page (h.isLayoutDocument hpage)).mp hm
    exact h.decode_ne_ok htarget d hd d' hd'
  | false =>
    rw [Expected.root_of_not_page hpage] at h
    have hread : Node.decodeAt "root" v = .ok n := (decodeRoot_of_not_page hpage).symm.trans hn
    cases hpage' : UiSchema.isLayoutDocument v' with
    | true =>
      obtain ⟨d, hd, _⟩ := (decodeRoot_of_page hpage').mp hm
      cases h with
      | node h => exact h.page_refused hread hpage' d hd
    | false =>
      have hread' : Node.decodeAt "root" v' = .ok m := (decodeRoot_of_not_page hpage').symm.trans hm
      exact h.decode_ne_ok htarget n (Node.decode_codec_eq_ok.mpr (Node.decodeAt_eq_ok.mp hread)) m
        (Node.decode_codec_eq_ok.mpr (Node.decodeAt_eq_ok.mp hread'))

end Widened

/-- A root that is read is refused after a key that a structure in it does not know was added to the
structure, at any depth, unless the structure is an override of hints; then it is read as before. -/
theorem decodeRoot_widened (hn : decodeRoot v = .ok n) (h : Widened key x target (.root v) v v') :
    if target = .hintOverride then decodeRoot v' = .ok n else ∀ m, decodeRoot v' ≠ .ok m := by
  split
  · exact h.decodeRoot_eq ‹_› hn
  · exact h.decodeRoot_ne_ok ‹_› hn

/-- A card with an object for the override of its hints on the mobile viewport. -/
def responsiveCard (mobile : List (String × Json)) : Json := .obj [
  ("componentDetail", .obj [("name", .str "card")]),
  ("responsive", .obj [("breakpoints", .obj [("mobile", .obj mobile)])])]

def responsiveCardNode : Node := .wrapper {
  detail := .descriptor { name := "card" }
  responsive := some { breakpoints := some { mobile := some {} } } }

/-- A key of the display hints is misspelt in the override for a viewport, and then in the hints. -/
theorem decodeRoot_responsiveCard :
    (∃ n, decodeRoot (responsiveCard []) = .ok n ∧
      decodeRoot (responsiveCard [("dispaly", .obj [])]) = .ok n) ∧
    ∀ m, decodeRoot (responsiveCard [("display", .obj [("showBordr", .bool true)])]) ≠ .ok m := by
  have hempty : ∃ n, decodeRoot (responsiveCard []) = .ok n := ⟨_, rfl⟩
  have hshown : ∃ n, decodeRoot (responsiveCard [("display", .obj [])]) = .ok n := ⟨_, rfl⟩
  have hat {mobile mobile' : List (String × Json)} {key : String} {x : Json} {target : Structure}
      (h : Widened key x target (.one .hintOverride) (.obj mobile) (.obj mobile')) :
      Widened key x target (.root (responsiveCard mobile)) (responsiveCard mobile)
        (responsiveCard mobile') :=
    .node (.entry [("componentDetail", .obj [("name", .str "card")])] []
      (show ("responsive", .one .responsive) ∈ Structure.inside .wrapper by decide)
      (.entry [] [] List.mem_cons_self (.entry [] [] List.mem_cons_self h)))
  have hoverride : Widened "dispaly" (.obj []) .hintOverride (.one .hintOverride) (.obj [])
      (.obj [("dispaly", .obj [])]) :=
    @Widened.here "dispaly" (.obj []) .hintOverride [] [] (by decide) (by decide)
  have hdisplay : Widened "showBordr" (.bool true) .display (.one .display) (.obj [])
      (.obj [("showBordr", .bool true)]) :=
    @Widened.here "showBordr" (.bool true) .display [] [] (by decide) (by decide)
  obtain ⟨n, hn⟩ := hempty
  obtain ⟨k, hk⟩ := hshown
  exact ⟨⟨n, hn, decodeRoot_widened hn (hat hoverride)⟩,
    decodeRoot_widened hk (hat (.entry [] []
      (show ("display", .one .display) ∈ Structure.inside .hintOverride by decide) hdisplay))⟩

/-- A misspelt key of an override is no error, and changes nothing. -/
theorem misspelt_override_ignored :
    "dispaly" ∉ HintOverride.record.knownKeys ∧
      decodeRoot (responsiveCard []) = .ok responsiveCardNode ∧
      decodeRoot (responsiveCard [("dispaly", .obj [("showBorder", .bool true)])]) =
        .ok responsiveCardNode :=
  ⟨by decide, rfl, rfl⟩

end Roots

end UiSchema
