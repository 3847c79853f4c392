import UiSchema.Form.Path
import UiSchema.Proofs.Dict

/-!
# Writing and reading at a path

A write takes one step after another: it goes on in the part that a step leads to and puts the
outcome into the container that the step needs. So the laws of a path follow from those of a step.
What is written at a path is read there again, a second write leaves nothing of the first, and a
prefix of the path leads to the container that was made for it. Where two paths part at steps of one
kind, a value written at one of them is not seen through the other; steps of different kinds compete
for one container, and nothing is said of those. A path that is read has to end in a key: the null
that fills up a list is visible at its index.
-/

namespace UiSchema

set_option autoImplicit false

/-- Two paths part at two keys or at two indices. -/
inductive FieldPath.Diverges : FieldPath → FieldPath → Prop
  | key {a b : String} (h : a ≠ b) (p q : FieldPath) : Diverges (.key a :: p) (.key b :: q)
  | index {i j : Nat} (h : i ≠ j) (p q : FieldPath) : Diverges (.index i :: p) (.index j :: q)
  | step (s : Step) {p q : FieldPath} : Diverges p q → Diverges (s :: p) (s :: q)

theorem FieldPath.Diverges.append (front : FieldPath) {p q : FieldPath} (h : Diverges p q) :
    Diverges (front ++ p) (front ++ q) := by
  induction front with
  | nil => exact h
  | cons s front ih => exact .step s ih

/-- Of two lists of keys one goes on where the other ends, or they part. -/
theorem FieldPath.prefix_or_diverges (names others : List String) :
    names <+: others ∨ others <+: names ∨
      Diverges (names.map Step.key) (others.map Step.key) := by
  induction names generalizing others with
  | nil => exact Or.inl List.nil_prefix
  | cons name names ih =>
    cases others with
    | nil => exact Or.inr (Or.inl List.nil_prefix)
    | cons other others =>
      by_cases heq : name = other
      · subst heq
        rcases ih others with h | h | h
        · exact Or.inl (List.cons_prefix_cons.mpr ⟨rfl, h⟩)
        · exact Or.inr (Or.inl (List.cons_prefix_cons.mpr ⟨rfl, h⟩))
        · exact Or.inr (Or.inr (.step _ h))
      · exact Or.inr (Or.inr (.key heq _ _))

namespace Json

@[simp] theorem objectFields_obj (fields : Dict Json) : (obj fields).objectFields = fields := rfl

@[simp] theorem arrayItems_arr (items : List Json) : (arr items).arrayItems = items := rfl

theorem step?_key (v : Json) (name : String) :
    v.step? (.key name) = Dict.get? v.objectFields name := by
  cases v <;> rfl

theorem step?_index (v : Json) (i : Nat) : v.step? (.index i) = v.arrayItems[i]? := by
  cases v <;> rfl

theorem readAt_null {s : Step} (rest : FieldPath) : readAt .null (s :: rest) = none := by
  cases s <;> rfl

theorem readAt_append (v : Json) (p q : FieldPath) :
    v.readAt (p ++ q) = (v.readAt p).bind (fun part => part.readAt q) := by
  induction p generalizing v with
  | nil => rfl
  | cons s p ih => simp only [List.cons_append, readAt, ih, Option.bind_assoc]

theorem readAt_singleton (v : Json) (s : Step) : v.readAt [s] = v.step? s := by
  cases h : v.step? s <;> simp [readAt, h]

theorem readAt_child (v : Json) (p : FieldPath) (name : String) :
    v.readAt (p.child name) = (v.readAt p).bind (fun part => part.field? name) := by
  simp only [FieldPath.child, readAt_append, readAt_singleton, step?]

theorem readAt_row (v : Json) (p : FieldPath) (i : Nat) :
    v.readAt (p.row i) = (v.readAt p).bind (fun part => part.arrayItems[i]?) := by
  simp only [FieldPath.row, readAt_append, readAt_singleton, step?_index]

theorem readAt_empty {s : Step} (rest : FieldPath) : readAt (.obj []) (s :: rest) = none := by
  cases s <;> rfl

theorem getD_readAt_null (p : FieldPath) : (readAt .null p).getD .null = .null := by
  cases p with
  | nil => rfl
  | cons s rest => rw [readAt_null, Option.getD_none]

section Items

variable (change : Json → Json)

theorem length_modifyItem (i : Nat) (items : List Json) :
    (modifyItem change i items).length = max items.length (i + 1) := by
  fun_induction modifyItem change i items with
  | case1 => rfl
  | case2 v rest => simp only [List.length_cons]; omega
  | case3 i ih => simp only [List.length_cons, ih, List.length_nil]; omega
  | case4 i v rest ih => simp only [List.length_cons, ih]; omega

theorem getElem?_modifyItem_self (i : Nat) (items : List Json) :
    (modifyItem change i items)[i]? = some (change (items[i]?.getD .null)) := by
  fun_induction modifyItem change i items with
  | case1 => rfl
  | case2 v rest => rfl
  | case3 i ih => simpa only [List.getElem?_cons_succ, List.getElem?_nil] using ih
  | case4 i v rest ih => simpa only [List.getElem?_cons_succ] using ih

theorem getElem?_modifyItem_of_ne {i j : Nat} (h : j ≠ i) (items : List Json) :
    (modifyItem change i items)[j]?.getD .null = items[j]?.getD .null := by
  fun_induction modifyItem change i items generalizing j with
  | case1 =>
    cases j with
    | zero => exact absurd rfl h
    | succ j => rfl
  | case2 v rest =>
    cases j with
    | zero => exact absurd rfl h
    | succ j => rfl
  | case3 i ih =>
    cases j with
    | zero => rfl
    | succ j => simpa using ih (j := j) (by omega)
  | case4 i v rest ih =>
    cases j with
    | zero => rfl
    | succ j => simpa using ih (j := j) (by omega)

theorem modifyItem_const (i : Nat) (items : List Json) :
    modifyItem change i items = modifyItem (fun _ => change (items[i]?.getD .null)) i items := by
  fun_induction modifyItem change i items with
  | case1 => rfl
  | case2 v rest => rfl
  | case3 i ih => exact congrArg (.null :: ·) ih
  | case4 i v rest ih => exact congrArg (v :: ·) ih

theorem modifyItem_modifyItem (v w : Json) (i : Nat) (items : List Json) :
    modifyItem (fun _ => w) i (modifyItem (fun _ => v) i items) =
      modifyItem (fun _ => w) i items := by
  fun_induction modifyItem (fun _ => v) i items with
  | case1 => rfl
  | case2 v rest => rfl
  | case3 i ih => exact congrArg (.null :: ·) ih
  | case4 i v rest ih => exact congrArg (v :: ·) ih

/-- An item behind the end is put there after as many nulls as it takes. -/
theorem modifyItem_of_length_le {i : Nat} {items : List Json} (h : items.length ≤ i) (v : Json) :
    modifyItem (fun _ => v) i items =
      items ++ List.replicate (i - items.length) .null ++ [v] := by
  fun_induction modifyItem (fun _ => v) i items with
  | case1 => rfl
  | case2 w rest => simp at h
  | case3 i ih => rw [ih (Nat.zero_le i)]; rfl
  | case4 i w rest ih =>
    rw [List.length_cons, Nat.succ_le_succ_iff] at h
    rw [ih h, List.length_cons, Nat.succ_sub_succ, List.cons_append, List.cons_append]

end Items

section Parts

/-- The part of a value that is written to with one step, null if it is missing. -/
def part (slot : Json) : Step → Json
  | .key name => (Dict.get? slot.objectFields name).getD .null
  | .index i => slot.arrayItems[i]?.getD .null

/-- The value with one part of it replaced, in the container that the step needs. -/
def put (slot : Json) : Step → Json → Json
  | .key name, v => .obj (Dict.insert slot.objectFields name v)
  | .index i, v => .arr (modifyItem (fun _ => v) i slot.arrayItems)

theorem part_eq (slot : Json) (s : Step) : slot.part s = (slot.step? s).getD .null := by
  cases s with
  | key name => rw [part, step?_key]
  | index i => rw [part, step?_index]

theorem step?_put (slot : Json) (s : Step) (v : Json) : (slot.put s v).step? s = some v := by
  cases s with
  | key name => rw [put, step?_key, objectFields_obj, Dict.get?_insert_self]
  | index i => rw [put, step?_index, arrayItems_arr, getElem?_modifyItem_self]

theorem part_put (slot : Json) (s : Step) (v : Json) : (slot.put s v).part s = v := by
  rw [part_eq, step?_put, Option.getD_some]

theorem put_put (slot : Json) (s : Step) (v w : Json) :
    (slot.put s v).put s w = slot.put s w := by
  cases s with
  | key name => simp only [put, objectFields_obj, Dict.insert_insert]
  | index i => simp only [put, arrayItems_arr, modifyItem_modifyItem]

theorem step?_put_key_of_ne {a b : String} (h : b ≠ a) (slot v : Json) :
    (slot.put (.key a) v).step? (.key b) = slot.step? (.key b) := by
  rw [put, step?_key, step?_key, objectFields_obj, Dict.get?_insert_of_ne _ _ h]

/-- Another item of a list is kept only up to null: a missing one may have been filled in. -/
theorem part_put_index_of_ne {i j : Nat} (h : j ≠ i) (slot v : Json) :
    (slot.put (.index i) v).part (.index j) = slot.part (.index j) := by
  rw [put, part, part, arrayItems_arr, getElem?_modifyItem_of_ne _ h]

/-- With steps left to take, a missing part and null read alike. -/
theorem readAt_cons (v : Json) (s s' : Step) (rest : FieldPath) :
    v.readAt (s :: s' :: rest) = (v.part s).readAt (s' :: rest) := by
  rw [readAt, part_eq]
  cases v.step? s with
  | none => exact (readAt_null rest).symm
  | some part => rfl

theorem getD_readAt_cons (v : Json) (s : Step) (rest : FieldPath) :
    (v.readAt (s :: rest)).getD .null = ((v.part s).readAt rest).getD .null := by
  rw [readAt, part_eq]
  cases v.step? s with
  | none => exact (getD_readAt_null rest).symm
  | some part => rfl

theorem writeAt_cons (slot : Json) (s : Step) (rest : FieldPath) (v : Json) :
    slot.writeAt (s :: rest) v = slot.put s ((slot.part s).writeAt rest v) := by
  cases s with
  | key name => rfl
  | index i => rw [writeAt, modifyItem_const]; rfl

end Parts

/-- Behind a prefix of the path stands what the rest of the path writes into what stood there. -/
theorem readAt_writeAt_prefix (slot : Json) (p q : FieldPath) (v : Json) :
    (slot.writeAt (p ++ q) v).readAt p = some (((slot.readAt p).getD .null).writeAt q v) := by
  induction p generalizing slot with
  | nil => rfl
  | cons s p ih =>
    rw [List.cons_append, writeAt_cons, readAt, step?_put, Option.bind_some, ih, getD_readAt_cons]

theorem readAt_writeAt_self (slot : Json) (p : FieldPath) (v : Json) :
    (slot.writeAt p v).readAt p = some v := by
  have h := readAt_writeAt_prefix slot p [] v
  rwa [List.append_nil] at h

theorem readAt_writeAt_of_diverges {p q : FieldPath} (h : p.Diverges q) {name : String}
    (hq : q.getLast? = some (.key name)) (slot v : Json) :
    (slot.writeAt p v).readAt q = slot.readAt q := by
  induction h generalizing slot with
  | key hne p q => rw [writeAt_cons, readAt, readAt, step?_put_key_of_ne (Ne.symm hne)]
  | index hne p q =>
    cases q with
    | nil => cases hq
    | cons s q =>
      rw [writeAt_cons, readAt_cons, readAt_cons, part_put_index_of_ne (Ne.symm hne)]
  | @step s p q hpq ih =>
    cases q with
    | nil => cases hpq
    | cons s' q =>
      rw [List.getLast?_cons_cons] at hq
      rw [writeAt_cons, readAt_cons, readAt_cons, part_put]
      exact ih hq (slot.part s)

theorem writeAt_writeAt (slot : Json) (p : FieldPath) (v w : Json) :
    (slot.writeAt p v).writeAt p w = slot.writeAt p w := by
  induction p generalizing slot with
  | nil => rfl
  | cons s p ih =>
    rw [writeAt_cons, writeAt_cons, part_put, put_put, ih, ← writeAt_cons]

/-- Whatever a value holds along a path: what is written at the path is read there, what is read at
a path to a key that parts from it at a step of the same kind stays as it was, and of two writes at
the path the second alone counts. -/
theorem writeAt_lawful (slot : Json) (p : FieldPath) (v : Json) :
    (slot.writeAt p v).readAt p = some v ∧
      (∀ (q : FieldPath) (name : String), q.getLast? = some (.key name) → p.Diverges q →
        (slot.writeAt p v).readAt q = slot.readAt q) ∧
      ∀ w, (slot.writeAt p v).writeAt p w = slot.writeAt p w := by
  refine ⟨readAt_writeAt_self slot p v, ?_, ?_⟩
  · intro q name hlast hparts
    exact readAt_writeAt_of_diverges hparts hlast slot v
  · intro w
    exact writeAt_writeAt slot p v w

end Json

/-- An order with a number in the place of its second line. -/
def draftOrder : Json :=
  .obj [("lines", .arr [.obj [("sku", .str "A")], .int 7]), ("note", .null)]

def skuOfLine (i : Nat) : FieldPath := [.key "lines", .index i, .key "sku"]

theorem draftOrder_second_line_written :
    (skuOfLine 0).getLast? = some (.key "sku") ∧ (skuOfLine 1).Diverges (skuOfLine 0) ∧
      (draftOrder.writeAt (skuOfLine 1) (.str "B")).readAt (skuOfLine 1) = some (.str "B") ∧
      (draftOrder.writeAt (skuOfLine 1) (.str "B")).readAt (skuOfLine 0) = some (.str "A") ∧
      (draftOrder.writeAt (skuOfLine 1) (.str "B")).writeAt (skuOfLine 1) (.str "C") =
        draftOrder.writeAt (skuOfLine 1) (.str "C") := by
  have hlast : (skuOfLine 0).getLast? = some (.key "sku") := rfl
  have hparts : (skuOfLine 1).Diverges (skuOfLine 0) := .step _ (.index Nat.one_ne_zero _ _)
  have hfirst : draftOrder.readAt (skuOfLine 0) = some (.str "A") := rfl
  obtain ⟨hread, hkept, hover⟩ := Json.writeAt_lawful draftOrder (skuOfLine 1) (.str "B")
  refine ⟨hlast, hparts, hread, ?_, hover (.str "C")⟩
  rw [hkept (skuOfLine 0) "sku" hlast hparts, hfirst]

-- a line behind the end makes the lines before it: they are null, and not missing as before
example : draftOrder.readAt [.key "lines", .index 2] = none ∧
    (draftOrder.writeAt (skuOfLine 3) (.str "D")).readAt [.key "lines", .index 2] = some .null :=
  ⟨rfl, rfl⟩

end UiSchema
