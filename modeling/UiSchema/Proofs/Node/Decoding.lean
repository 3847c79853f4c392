import UiSchema.Proofs.Decode.Codec
import UiSchema.Proofs.Decode.Congruence

/-!
# Decoding nodes without a bound

Nodes are decoded within a bound on their depth. Any bound above the depth of a value gives the same
result, so decoding a node is decoding the record of its shape over the codec of nodes itself, and
encoding a node is encoding that record.
-/

namespace UiSchema.Node

set_option autoImplicit false

/-- Nodes nested at most `fuel` deep, inside other nodes. -/
def codecWithin (fuel : Nat) : Codec Node where
  decode v := (decodeWithin fuel "" v).mapError DecodeError.node
  encode := toJson

/-- A value as a node of the shape that its keys tell, with a codec for the nodes inside. -/
def decodeShape (inner : Codec Node) (v : Json) : Except DecodeError Node :=
  if (v.field? "componentDetail").isSome then ((Wrapper.record inner).decode v).map Node.wrapper
  else if (v.field? "component").isSome then ((LegacyNode.record inner).decode v).map Node.legacy
  else ((Descriptor.record inner).decode v).map Node.descriptor

theorem decodeWithin_obj (fuel : Nat) (path : String) (fields : Dict Json) :
    decodeWithin (fuel + 1) path (.obj fields) =
      (decodeShape (codecWithin fuel) (.obj fields)).mapError (SchemaError.decode path) := by
  have hcontains (key : String) :
      Dict.contains fields key = ((Json.obj fields).field? key).isSome := rfl
  rw [decodeWithin, decodeShape, hcontains, hcontains]
  split
  · rfl
  · split
    · rfl
    · rfl

section Congruence

variable {n : Nat} {c c' : Codec Node} (h : c.SameBelow n c') {v : Json} (hv : v.depth ≤ n)
include h hv

theorem decode_wrapper_congr : (Wrapper.record c').decode v = (Wrapper.record c).decode v :=
  Record.decode_congr (r := Wrapper.record c)
    (.cons (.mandatory h _ _ _) (List.forall₂_same.mpr (fun f _ => .refl f))) hv

theorem decode_legacy_congr : (LegacyNode.record c').decode v = (LegacyNode.record c).decode v :=
  Record.decode_congr (r := LegacyNode.record c)
    (.cons (.refl _) (.cons (.refl _) (.cons (.refl _) (.cons (.refl _) (.cons (.refl _)
      (.cons (.unlessEmpty h.list _ _ _) .nil)))))) hv

theorem decode_descriptor_congr :
    (Descriptor.record c').decode v = (Descriptor.record c).decode v :=
  Record.decode_congr (r := Descriptor.record c)
    (.cons (.refl _) (.cons (.refl _) (.cons (.refl _) (.cons (.refl _) (.cons (.refl _)
      (.cons (.unlessEmpty h.list _ _ _) .nil)))))) hv

end Congruence

theorem decodeShape_congr {n : Nat} {c c' : Codec Node} (h : c.SameBelow n c') {v : Json}
    (hv : v.depth ≤ n) : decodeShape c' v = decodeShape c v := by
  simp only [decodeShape, decode_wrapper_congr h hv, decode_legacy_congr h hv,
    decode_descriptor_congr h hv]

/-- The bound does not matter above the depth of the value. -/
theorem decodeWithin_eq {m n : Nat} (path : String) {v : Json} (hm : v.depth < m)
    (hn : v.depth < n) : decodeWithin m path v = decodeWithin n path v := by
  induction m generalizing n path v with
  | zero => omega
  | succ m ih =>
    cases n with
    | zero => omega
    | succ n =>
      cases v with
      | obj fields =>
        have hsame : (codecWithin n).SameBelow (Json.obj fields).depth (codecWithin m) := by
          intro w hw
          have heq := ih "" (Nat.lt_of_lt_of_le hw (Nat.le_of_lt_succ hm))
            (Nat.lt_of_lt_of_le hw (Nat.le_of_lt_succ hn))
          simp only [codecWithin, heq]
        rw [decodeWithin_obj, decodeWithin_obj, decodeShape_congr hsame (Nat.le_refl _)]
      | _ => rfl

/-- An object is decoded as the shape that its keys tell. -/
theorem decodeAt_obj (path : String) (fields : Dict Json) :
    decodeAt path (.obj fields) =
      (decodeShape codec (.obj fields)).mapError (SchemaError.decode path) := by
  have hsame : (codecWithin (Json.obj fields).depth).SameBelow (Json.obj fields).depth codec := by
    intro w hw
    simp only [codecWithin, codec, decodeAt, decodeWithin_eq "" (Nat.lt_succ_self _) hw]
  rw [decodeAt, decodeWithin_obj, decodeShape_congr hsame (Nat.le_refl _)]

/-- Whether a value is a node, and which one, does not depend on where errors are reported. -/
theorem decodeAt_eq_ok {path : String} {v : Json} {n : Node} :
    decodeAt path v = .ok n ↔ (∃ fields, v = .obj fields) ∧ decodeShape codec v = .ok n := by
  cases v with
  | obj fields =>
    rw [decodeAt_obj, mapError_eq_ok]
    exact ⟨fun h => ⟨⟨fields, rfl⟩, h⟩, fun h => h.2⟩
  | _ => exact ⟨nofun, fun h => by cases h.1.choose_spec⟩

theorem decode_codec_eq_ok {v : Json} {n : Node} :
    codec.decode v = .ok n ↔ (∃ fields, v = .obj fields) ∧ decodeShape codec v = .ok n :=
  mapError_eq_ok.trans decodeAt_eq_ok

section Encoding

theorem toJsonItems_eq_map (nodes : List Node) : toJsonItems nodes = nodes.map toJson := by
  induction nodes with
  | nil => rfl
  | cons n rest ih => rw [toJsonItems, ih, List.map_cons]

theorem toJson_wrapper (w : Wrapper Node) :
    (wrapper w).toJson = (Wrapper.record codec).encode w := by
  rw [toJson]
  rfl

/-- A list of nodes is written as the list of their encodings is. -/
theorem save_children {σ τ : Type} {setJson : List Json → σ → σ} {set : List Node → τ → τ}
    {getJson : σ → List Json} {get : τ → List Node} {s : σ} {t : τ}
    (h : getJson s = (get t).map toJson) :
    (RecordField.unlessEmpty "children" (.list .raw) setJson getJson).save s =
      (RecordField.unlessEmpty "children" (.list codec) set get).save t := by
  have hraw : ((get t).map toJson).map Codec.raw.encode = (get t).map codec.encode := by
    rw [List.map_map]
    rfl
  simp only [RecordField.unlessEmpty, Codec.list, h, hraw, List.isEmpty_map]

theorem toJson_legacy (l : LegacyNode Node) :
    (legacy l).toJson = (LegacyNode.record codec).encode l := by
  rw [toJson, toJsonItems_eq_map]
  refine Record.encode_congr ?_
  iterate 5 refine congrArg₂ List.cons rfl ?_
  exact congrArg (fun v => [("children", v)]) (save_children rfl)

theorem toJson_descriptor (d : Descriptor Node) :
    (descriptor d).toJson = (Descriptor.record codec).encode d := by
  rw [toJson, toJsonItems_eq_map]
  refine Record.encode_congr ?_
  iterate 5 refine congrArg₂ List.cons rfl ?_
  exact congrArg (fun v => [("children", v)]) (save_children rfl)

end Encoding

end UiSchema.Node
