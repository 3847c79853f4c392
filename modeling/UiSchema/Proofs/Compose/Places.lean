import UiSchema.Proofs.Compose.Keys

/-!
# Finding nodes by their keys

A key lies below another one when it goes on behind it with a dot, which is so exactly when the
places lie below each other. Looking up a key of a composed tree gives the node at that place, and
the nodes that are not shown have nothing below them.
-/

namespace UiSchema

set_option autoImplicit false

namespace Position

/-- The key of a place further down in the tree. -/
def KeyBelow (above key : String) : Prop := ∃ rest : String, key = above ++ "." ++ rest

theorem key_append_cons (p : Position) (i : Nat) (rest : Position) :
    key (p ++ i :: rest) = p.key ++ "." ++
      String.ofList (Nat.toDigits 10 i ++ rest.flatMap (fun k => '.' :: Nat.toDigits 10 k)) := by
  have hdot : "." = String.ofList ['.'] := rfl
  simp only [key_eq, hdot, List.flatMap_append, List.flatMap_cons, ← String.ofList_append,
    List.append_assoc, List.cons_append, List.nil_append]

theorem keyBelow_iff {p q : Position} :
    KeyBelow p.key q.key ↔ ∃ i rest, q = p ++ i :: rest := by
  constructor
  · rintro ⟨text, htext⟩
    -- cutting both keys at their dots gives their segments, and those of `p` come first
    have hdot : "." = String.ofList ['.'] := rfl
    rw [key_eq_join, key_eq_join, hdot, ← String.ofList_toList (s := text), ← String.ofList_append,
      ← String.ofList_append, String.ofList_inj, List.append_assoc, List.singleton_append] at htext
    have hcut := congrArg (Text.pieces '.') htext
    rw [Text.pieces_join q.segments_ne_nil q.dot_not_mem_segments,
      Text.pieces_join_append p.segments_ne_nil p.dot_not_mem_segments] at hcut
    obtain ⟨front, back, rfl, hfront, hback⟩ := List.map_eq_append_iff.mp (List.cons.inj hcut).2
    obtain rfl := map_digits_inj.mp hfront
    cases back with
    | nil => exact absurd hback.symm (Text.pieces_ne_nil _ _)
    | cons i rest => exact ⟨i, rest, rfl⟩
  · rintro ⟨i, rest, rfl⟩
    exact ⟨_, key_append_cons p i rest⟩

theorem descend?_append {τ : Type} (children : τ → List τ) (p q : Position) (t : τ) :
    descend? children (p ++ q) t = (descend? children p t).bind (descend? children q) := by
  induction p generalizing t with
  | nil => rfl
  | cons i rest ih =>
    rw [List.cons_append, descend?, descend?, funext ih, Option.bind_assoc]

end Position

theorem Node.at?_child {n m child : Node} {p : Position} {i : Nat} (h : n.at? p = some m)
    (hchild : m.canonical.children[i]? = some child) : n.at? (p ++ [i]) = some child := by
  rw [at?, Position.descend?_concat, ← at?, h, Option.bind_some, hchild]

theorem ComposedNode.at?_concat (n : ComposedNode) (p : Position) (i : Nat) :
    n.at? (p ++ [i]) = (n.at? p).bind (fun m => m.children[i]?) :=
  Position.descend?_concat children p i n

theorem ComposedNode.at?_child {n m child : ComposedNode} {p : Position} {i : Nat}
    (h : n.at? p = some m) (hchild : m.children[i]? = some child) :
    n.at? (p ++ [i]) = some child := by
  rw [at?_concat, h, Option.bind_some, hchild]

theorem ComposedNode.at?_append (n : ComposedNode) (p q : Position) :
    n.at? (p ++ q) = (n.at? p).bind (fun m => m.at? q) :=
  Position.descend?_append children p q n

namespace Composer

variable {c : Composer}

theorem position_of_at? {tree : Node} {p : Position} {n : ComposedNode}
    (h : (c.compose tree).at? p = some n) : n.position = p := by
  obtain ⟨source, inherited, _, _, rfl⟩ := source_of_at? h
  exact position_composeAt p { style := inherited } source

theorem find?_key (c : Composer) (tree : Node) (p : Position) :
    (c.compose tree).find? p.key = (c.compose tree).at? p := by
  refine Option.ext fun n => ?_
  rw [(compose_keyedByPosition c tree).find_iff, ComposedNode.mem_preorder_iff_at?]
  constructor
  · rintro ⟨⟨q, hq⟩, hkey⟩
    rw [ComposedNode.key, position_of_at? hq] at hkey
    rwa [← Position.key_injective hkey]
  · intro hp
    exact ⟨⟨p, hp⟩, congrArg Position.key (position_of_at? hp)⟩

/-- What is found under a key stands at the place of that key. -/
theorem at?_of_find? {tree : Node} {key : String} {n : ComposedNode}
    (h : (c.compose tree).find? key = some n) :
    ∃ p : Position, key = p.key ∧ (c.compose tree).at? p = some n := by
  obtain ⟨hmem, rfl⟩ := ((compose_keyedByPosition c tree).find_iff key n).mp h
  obtain ⟨p, hp⟩ := ComposedNode.mem_preorder_iff_at?.mp hmem
  exact ⟨p, congrArg Position.key (position_of_at? hp), hp⟩

theorem composeAt_kind_hidden_iff {position : Position} {frame : Frame} {n : Node} :
    (c.composeAt position frame n).kind = .hidden ↔ ∃ w ∈ n.wrappers, c.hides w = true := by
  rw [composeAt_eq, ← List.any_eq_true]
  split
  · rename_i hwrappers
    exact ⟨fun _ => hwrappers, fun _ => rfl⟩
  · rename_i hwrappers
    exact ⟨fun hkind => absurd hkind (c.close_kind_ne_hidden _ _ _ _), fun h => absurd h hwrappers⟩

theorem shown_of_child {position : Position} {frame : Frame} {n : Node} {i : Nat}
    {child : ComposedNode} (h : (c.composeAt position frame n).children[i]? = some child) :
    (c.composeAt position frame n).Shown := by
  by_contra hcovered
  rw [(children_composeAt position frame n).1 hcovered] at h
  cases h

/-- The children of a node that is shown are those of its source. -/
theorem getElem?_children {position : Position} {frame : Frame} {n : Node}
    (hshown : (c.composeAt position frame n).Shown) (i : Nat) :
    (c.composeAt position frame n).children[i]? = n.canonical.children[i]?.map (fun m =>
      c.composeAt (position ++ [i]) { style := (c.composeAt position frame n).frame.style } m) := by
  have hlength := (children_composeAt position frame n).2 hshown
  cases hchild : (c.composeAt position frame n).children[i]? with
  | none =>
    rw [List.getElem?_eq_none_iff, hlength, ← List.getElem?_eq_none_iff] at hchild
    rw [hchild, Option.map_none]
  | some child =>
    obtain ⟨m, hm, rfl⟩ := child_of_composeAt hchild
    rw [hm, Option.map_some]

end Composer

end UiSchema
