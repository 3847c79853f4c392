import UiSchema.Proofs.Form.Nesting

/-!
# What a submission nests to

A submission is nested leaf by leaf, and every leaf makes the containers on its way. When siblings
have distinct names the outcome has a form of its own, from the inside out: a field has the value of
its leaf, an object of those fields inside it that have a value, or a list of its rows, each of them
such an object. Objects and lists with nothing in them are not there. In a list null stands for a
row that is not there, as long as another one follows.
-/

namespace UiSchema

set_option autoImplicit false

open CompiledField

namespace Json

section Filled

/-- An object, if there is something in it. -/
def filledObject (d : Dict Json) : Option Json := if d.isEmpty then none else some (.obj d)

/-- A list, if there is something in it. -/
def filledList (items : List Json) : Option Json :=
  if items.isEmpty then none else some (.arr items)

/-- The items up to the last one that is there, with null for those missing before it. -/
def padded : List (Option Json) → List Json
  | [] => []
  | item :: rest =>
    if item.isNone && (padded rest).isEmpty then [] else item.getD .null :: padded rest

theorem padded_cons_some (v : Json) (rest : List (Option Json)) :
    padded (some v :: rest) = v :: padded rest := by
  simp [padded]

theorem padded_cons_none {rest : List (Option Json)} (h : padded rest ≠ []) :
    padded (none :: rest) = .null :: padded rest := by
  simp [padded, h]

theorem padded_eq_nil_iff {items : List (Option Json)} :
    padded items = [] ↔ ∀ item ∈ items, item = none := by
  induction items with
  | nil => simp [padded]
  | cons item rest ih =>
    rw [List.forall_mem_cons, ← ih, padded]
    cases item <;> simp

theorem filledObject_eq_none_iff {d : Dict Json} : filledObject d = none ↔ d = [] := by
  unfold filledObject
  cases d <;> simp

theorem filledObject_inj {d e : Dict Json} : filledObject d = filledObject e ↔ d = e := by
  unfold filledObject
  cases d <;> cases e <;> simp

theorem filledObject_eq_some_iff {d e : Dict Json} :
    filledObject d = some (.obj e) ↔ d = e ∧ 1 ≤ e.length := by
  cases d with
  | nil =>
    refine ⟨nofun, ?_⟩
    rintro ⟨rfl, hlength⟩
    simp at hlength
  | cons entry rest =>
    refine ⟨fun heq => ?_, fun h => congrArg (fun d => some (obj d)) h.1⟩
    cases heq
    exact ⟨rfl, Nat.succ_pos _⟩

theorem filledList_eq_some_iff {items others : List Json} :
    filledList items = some (.arr others) ↔ items = others ∧ 1 ≤ others.length := by
  cases items with
  | nil =>
    refine ⟨nofun, ?_⟩
    rintro ⟨rfl, hlength⟩
    simp at hlength
  | cons item rest =>
    refine ⟨fun heq => ?_, fun h => congrArg (fun items => some (arr items)) h.1⟩
    cases heq
    exact ⟨rfl, Nat.succ_pos _⟩

theorem filledList_eq_none_iff {items : List Json} : filledList items = none ↔ items = [] := by
  unfold filledList
  cases items <;> simp

end Filled

end Json

namespace CompiledField

section Gathering

variable (value? : LeafField → Option Json)

mutual

/-- The value that a field has when its leaves have values of their own. -/
def gather : CompiledField → Option Json
  | .leaf f => value? f
  | .group ⟨_, _, _, fields⟩ => Json.filledObject (Dict.ofList (gatherEntries fields))
  | .repeated ⟨_, _, _, _, rows⟩ => Json.filledList (Json.padded (gatherRows rows))

def gatherEntries : List CompiledField → List (String × Json)
  | [] => []
  | f :: rest => ((gather f).map (fun v => (f.name, v))).toList ++ gatherEntries rest

def gatherRows : List (List CompiledField) → List (Option Json)
  | [] => []
  | row :: rest => Json.filledObject (Dict.ofList (gatherEntries row)) :: gatherRows rest

end

/-- The object of the values of those fields that have one. -/
def gatherRow (fields : List CompiledField) : Option Json :=
  Json.filledObject (Dict.ofList (gatherEntries value? fields))

theorem gather_group (g : GroupField CompiledField) :
    (group g).gather value? = gatherRow value? g.fields := by
  rw [gather, gatherRow]

theorem gather_repeated (g : RepeatGroup CompiledField) :
    (repeated g).gather value? = Json.filledList (Json.padded (gatherRows value? g.rows)) := by
  rw [gather]

theorem gatherEntries_eq_filterMap (fields : List CompiledField) :
    gatherEntries value? fields =
      fields.filterMap (fun f => (f.gather value?).map (fun v => (f.name, v))) := by
  induction fields with
  | nil => rfl
  | cons f rest ih =>
    rw [gatherEntries, ih]
    cases h : f.gather value? with
    | none => simp [h]
    | some v => simp [h]

theorem mem_gatherEntries {fields : List CompiledField} {k : String} {v : Json} :
    (k, v) ∈ gatherEntries value? fields ↔
      ∃ f ∈ fields, f.name = k ∧ f.gather value? = some v := by
  rw [gatherEntries_eq_filterMap, List.mem_filterMap]
  refine exists_congr (fun f => and_congr_right (fun _ => ?_))
  rw [Option.map_eq_some_iff]
  constructor
  · rintro ⟨_, hv, heq⟩
    cases heq
    exact ⟨rfl, hv⟩
  · rintro ⟨rfl, hv⟩
    exact ⟨v, hv, rfl⟩

theorem nodup_keys_gatherEntries {fields : List CompiledField}
    (h : fields.Pairwise (fun f g => f.name ≠ g.name)) :
    (Dict.keys (gatherEntries value? fields)).Nodup := by
  rw [Dict.keys, gatherEntries_eq_filterMap, List.Nodup, List.pairwise_map,
    List.pairwise_filterMap]
  refine h.imp (fun {f g} hne entry hentry entry' hentry' => ?_)
  obtain ⟨_, _, rfl⟩ := Option.map_eq_some_iff.mp hentry
  obtain ⟨_, _, rfl⟩ := Option.map_eq_some_iff.mp hentry'
  exact hne

theorem gatherRows_eq_map (rows : List (List CompiledField)) :
    gatherRows value? rows = rows.map (gatherRow value?) := by
  induction rows with
  | nil => rfl
  | cons row rest ih => rw [gatherRows, ih, List.map_cons, gatherRow]

theorem gatherRow_eq_none_iff_of {fields : List CompiledField}
    (h : ∀ f ∈ fields, f.gather value? = none ↔ ∀ leaf ∈ f.leaves, value? leaf = none) :
    gatherRow value? fields = none ↔ ∀ leaf ∈ leavesOf fields, value? leaf = none := by
  rw [gatherRow, Json.filledObject_eq_none_iff, Dict.ofList_eq_nil_iff, gatherEntries_eq_filterMap,
    List.filterMap_eq_nil_iff]
  simp only [Option.map_eq_none_iff]
  constructor
  · intro hnone leaf hleaf
    obtain ⟨f, hf, hleaf⟩ := mem_leavesOf.mp hleaf
    exact (h f hf).mp (hnone f hf) leaf hleaf
  · intro hnone f hf
    exact (h f hf).mpr (fun leaf hleaf => hnone leaf (mem_leavesOf.mpr ⟨f, hf, hleaf⟩))

/-- A field has no value exactly when none of its leaves has one. -/
theorem gather_eq_none_iff (f : CompiledField) :
    f.gather value? = none ↔ ∀ leaf ∈ f.leaves, value? leaf = none := by
  induction f using CompiledField.induction with
  | leaf f => simp [gather, leaves]
  | group g ih => rw [gather_group, leaves, gatherRow_eq_none_iff_of value? ih]
  | repeated g ih =>
    rw [gather_repeated, Json.filledList_eq_none_iff, Json.padded_eq_nil_iff, gatherRows_eq_map,
      List.forall_mem_map]
    constructor
    · intro hnone leaf hleaf
      obtain ⟨row, hrow, hleaf⟩ := mem_leaves_repeated.mp hleaf
      exact (gatherRow_eq_none_iff_of value? (ih row hrow)).mp (hnone row hrow) leaf hleaf
    · intro hnone row hrow
      refine (gatherRow_eq_none_iff_of value? (ih row hrow)).mpr (fun leaf hleaf => ?_)
      exact hnone leaf (mem_leaves_repeated.mpr ⟨row, hrow, hleaf⟩)

theorem gatherRow_eq_none_iff (fields : List CompiledField) :
    gatherRow value? fields = none ↔ ∀ leaf ∈ leavesOf fields, value? leaf = none :=
  gatherRow_eq_none_iff_of value? (fun f _ => gather_eq_none_iff value? f)

end Gathering

section Writing

variable {value? : LeafField → Option Json}

/-- The value with that of one leaf written into it, along what the path of the leaf has behind a
depth. -/
def writeBelow (value? : LeafField → Option Json) (depth : Nat) (slot : Json) (f : LeafField) :
    Json :=
  match value? f with
  | some v => slot.writeAt (f.path.drop depth) v
  | none => slot

theorem foldl_writeBelow_of_none {depth : Nat} {slot : Json} {leaves : List LeafField}
    (h : ∀ f ∈ leaves, value? f = none) : leaves.foldl (writeBelow value? depth) slot = slot := by
  induction leaves with
  | nil => rfl
  | cons f rest ih =>
    obtain ⟨hf, hrest⟩ := List.forall_mem_cons.mp h
    rw [List.foldl_cons, writeBelow, hf]
    exact ih hrest

/-- Leaves that share their next step are written into one part, once one of them has a value. -/
theorem foldl_writeBelow_step {depth : Nat} {s : Step} {slot : Json} {leaves : List LeafField}
    (h : ∀ f ∈ leaves, f.path.drop depth = s :: f.path.drop (depth + 1))
    (hvalue : ¬∀ f ∈ leaves, value? f = none) :
    leaves.foldl (writeBelow value? depth) slot =
      slot.put s (leaves.foldl (writeBelow value? (depth + 1)) (slot.part s)) := by
  have hput (leaves : List LeafField)
      (h : ∀ f ∈ leaves, f.path.drop depth = s :: f.path.drop (depth + 1)) (v : Json) :
      leaves.foldl (writeBelow value? depth) (slot.put s v) =
        slot.put s (leaves.foldl (writeBelow value? (depth + 1)) v) := by
    induction leaves generalizing v with
    | nil => rfl
    | cons f rest ih =>
      obtain ⟨hf, hrest⟩ := List.forall_mem_cons.mp h
      rw [List.foldl_cons, List.foldl_cons, ← ih hrest]
      congr 1
      cases hget : value? f with
      | none => simp only [writeBelow, hget]
      | some w => simp only [writeBelow, hget, hf, Json.writeAt_cons, Json.part_put, Json.put_put]
  induction leaves with
  | nil => exact absurd (List.forall_mem_nil _) hvalue
  | cons f rest ih =>
    obtain ⟨hf, hrest⟩ := List.forall_mem_cons.mp h
    rw [List.foldl_cons, List.foldl_cons]
    cases hget : value? f with
    | none =>
      simp only [writeBelow, hget]
      exact ih hrest (fun hnone => hvalue (List.forall_mem_cons.mpr ⟨hget, hnone⟩))
    | some w =>
      simp only [writeBelow, hget, hf, Json.writeAt_cons]
      exact hput rest hrest _

theorem drop_of_extends {p q rest : FieldPath} {s : Step} (h : q = p ++ s :: rest) :
    q.drop p.length = s :: q.drop (p.length + 1) := by
  rw [h, List.drop_left, List.drop_length_add_append, List.drop_one, List.tail_cons]

/-- Leaves whose part is not there yet put what they write from nothing there, if they have a
value. -/
theorem foldl_writeBelow_fresh {path : FieldPath} {s : Step} {slot : Json} {leaves : List LeafField}
    {gathered : Option Json} (hpaths : ∀ leaf ∈ leaves, ∃ rest, leaf.path = path ++ s :: rest)
    (hnone : gathered = none ↔ ∀ leaf ∈ leaves, value? leaf = none)
    (hgathered : leaves.foldl (writeBelow value? (path.length + 1)) .null = gathered.getD .null)
    (hslot : slot.part s = .null) :
    leaves.foldl (writeBelow value? path.length) slot = (gathered.map (slot.put s)).getD slot := by
  cases gathered with
  | none => exact foldl_writeBelow_of_none (hnone.mp rfl)
  | some v =>
    have hsteps : ∀ leaf ∈ leaves,
        leaf.path.drop path.length = s :: leaf.path.drop (path.length + 1) := by
      intro leaf hleaf
      obtain ⟨rest, hpath⟩ := hpaths leaf hleaf
      exact drop_of_extends hpath
    have hsome : ¬∀ leaf ∈ leaves, value? leaf = none := mt hnone.mpr (Option.some_ne_none v)
    rw [foldl_writeBelow_step hsteps hsome, hslot, hgathered]
    rfl

variable {parent : FieldPath}

theorem Addressed.length_path {c : CompiledField} (h : Addressed parent c) :
    c.path.length = parent.length + 1 := by
  rw [h.path_eq, FieldPath.child, List.length_append, List.length_singleton]

/-- Puts values under their names, one after the other. -/
def putEntries (slot : Json) (entries : List (String × Json)) : Json :=
  entries.foldl (fun slot entry => slot.put (.key entry.1) entry.2) slot

theorem putEntries_obj (d : Dict Json) (entries : List (String × Json)) :
    putEntries (.obj d) entries = .obj (Dict.overlay d entries) := by
  induction entries generalizing d with
  | nil => rfl
  | cons entry rest ih => exact ih _

theorem putEntries_null (entries : List (String × Json)) :
    putEntries .null entries = (Json.filledObject (Dict.ofList entries)).getD .null := by
  cases entries with
  | nil => rfl
  | cons entry rest =>
    have hfilled : (Dict.ofList (entry :: rest)).isEmpty = false :=
      List.isEmpty_eq_false_iff.mpr (mt Dict.ofList_eq_nil_iff.mp (List.cons_ne_nil entry rest))
    rw [Json.filledObject, hfilled]
    exact putEntries_obj _ rest

/-- The leaves of fields with different names are written one field after the other. -/
theorem foldl_leavesOf {fields : List CompiledField} (h : ∀ f ∈ fields, Addressed parent f)
    (hnames : fields.Pairwise (fun f g => f.name ≠ g.name))
    (hfields : ∀ f ∈ fields,
      f.leaves.foldl (writeBelow value? f.path.length) .null = (f.gather value?).getD .null)
    {slot : Json} (hslot : ∀ f ∈ fields, Dict.get? slot.objectFields f.name = none) :
    (leavesOf fields).foldl (writeBelow value? parent.length) slot =
      putEntries slot (gatherEntries value? fields) := by
  induction fields generalizing slot with
  | nil => rfl
  | cons f rest ih =>
    obtain ⟨hf, hrest⟩ := List.forall_mem_cons.mp h
    obtain ⟨hfirst, hpairwise⟩ := List.pairwise_cons.mp hnames
    obtain ⟨hgather, hgathers⟩ := List.forall_mem_cons.mp hfields
    obtain ⟨hnone, hslot⟩ := List.forall_mem_cons.mp hslot
    have hpart : slot.part (.key f.name) = .null := by rw [Json.part, hnone, Option.getD_none]
    rw [hf.length_path] at hgather
    rw [leavesOf, List.foldl_append, gatherEntries, putEntries, List.foldl_append, ← putEntries,
      foldl_writeBelow_fresh (fun _ hleaf => hf.leaf_path hleaf) (gather_eq_none_iff value? f)
        hgather hpart]
    cases f.gather value? with
    | none => exact ih hrest hpairwise hgathers hslot
    | some v =>
      -- the field that was written is none of those that follow
      refine ih hrest hpairwise hgathers (fun g hg => ?_)
      rw [Option.map_some, Option.getD_some, Json.put, Json.objectFields_obj,
        Dict.get?_insert_of_ne _ _ (Ne.symm (hfirst g hg))]
      exact hslot g hg

/-- From nothing, the leaves of fields write the object of their values. -/
theorem foldl_leavesOf_null {fields : List CompiledField} (h : ∀ f ∈ fields, Addressed parent f)
    (hnames : fields.Pairwise (fun f g => f.name ≠ g.name))
    (hfields : ∀ f ∈ fields,
      f.leaves.foldl (writeBelow value? f.path.length) .null = (f.gather value?).getD .null) :
    (leavesOf fields).foldl (writeBelow value? parent.length) .null =
      (gatherRow value? fields).getD .null := by
  rw [gatherRow, ← putEntries_null]
  exact foldl_leavesOf h hnames hfields (fun _ _ => rfl)

/-- Rows behind the end of a list are written one after the other, where there is something in
them. -/
theorem foldl_rows {path : FieldPath} {rows : List (List CompiledField)} {start : Nat}
    (hpaths : ∀ (i : Nat) (row : List CompiledField), rows[i]? = some row →
      ∀ leaf ∈ leavesOf row, ∃ rest, leaf.path = path ++ .index (start + i) :: rest)
    (hrows : ∀ row ∈ rows, (leavesOf row).foldl (writeBelow value? (path.length + 1)) .null =
      (gatherRow value? row).getD .null)
    {slot : Json} (hslot : slot.arrayItems.length ≤ start) :
    (leavesOfRows rows).foldl (writeBelow value? path.length) slot =
      if (Json.padded (gatherRows value? rows)).isEmpty then slot
      else .arr (slot.arrayItems ++ List.replicate (start - slot.arrayItems.length) .null ++
        Json.padded (gatherRows value? rows)) := by
  induction rows generalizing start slot with
  | nil => rfl
  | cons row rest ih =>
    obtain ⟨hrow, hrest⟩ := List.forall_mem_cons.mp hrows
    have hpaths' : ∀ (i : Nat) (row : List CompiledField), rest[i]? = some row →
        ∀ leaf ∈ leavesOf row, ∃ steps, leaf.path = path ++ .index (start + 1 + i) :: steps := by
      intro i row hi leaf hleaf
      rw [Nat.add_assoc, Nat.add_comm 1 i]
      exact hpaths (i + 1) row hi leaf hleaf
    have hfirst : ∀ leaf ∈ leavesOf row, ∃ steps, leaf.path = path ++ .index start :: steps :=
      hpaths 0 row rfl
    have hpart : slot.part (.index start) = .null := by
      rw [Json.part, List.getElem?_eq_none hslot, Option.getD_none]
    rw [leavesOfRows, List.foldl_append, gatherRows, ← gatherRow,
      foldl_writeBelow_fresh hfirst (gatherRow_eq_none_iff value? row) hrow hpart]
    cases gatherRow value? row with
    | none =>
      -- the list stays as long as it is, and a row behind this one finds one more missing
      rw [Option.map_none, Option.getD_none, ih hpaths' hrest (Nat.le_succ_of_le hslot)]
      cases hpadded : Json.padded (gatherRows value? rest) with
      | nil => simp [Json.padded, hpadded]
      | cons item items =>
        rw [Json.padded_cons_none (by rw [hpadded]; exact List.cons_ne_nil _ _), hpadded]
        have hlength : start + 1 - slot.arrayItems.length =
            start - slot.arrayItems.length + 1 := Nat.succ_sub hslot
        simp [hlength, List.replicate_succ']
    | some v =>
      -- the list now ends with this row
      rw [Option.map_some, Option.getD_some, Json.put, Json.modifyItem_of_length_le hslot,
        Json.padded_cons_some]
      have hlength : (slot.arrayItems ++
          List.replicate (start - slot.arrayItems.length) Json.null ++ [v]).length = start + 1 := by
        simp only [List.length_append, List.length_replicate, List.length_singleton]
        omega
      rw [ih hpaths' hrest (by exact Nat.le_of_eq hlength), Json.arrayItems_arr, hlength,
        Nat.sub_self, List.replicate_zero, List.append_nil]
      cases hpadded : Json.padded (gatherRows value? rest) with
      | nil => simp
      | cons item items => simp

/-- From nothing, the leaves of all rows write the list of their objects. -/
theorem foldl_rows_null {path : FieldPath} {rows : List (List CompiledField)}
    (hpaths : ∀ (i : Nat) (row : List CompiledField), rows[i]? = some row →
      ∀ leaf ∈ leavesOf row, ∃ rest, leaf.path = path ++ .index (0 + i) :: rest)
    (hrows : ∀ row ∈ rows, (leavesOf row).foldl (writeBelow value? (path.length + 1)) .null =
      (gatherRow value? row).getD .null) :
    (leavesOfRows rows).foldl (writeBelow value? path.length) .null =
      (Json.filledList (Json.padded (gatherRows value? rows))).getD .null := by
  rw [foldl_rows hpaths hrows (by exact Nat.le_refl 0), Json.filledList]
  split
  · rfl
  · rfl

/-- The leaves of one field write its value. -/
theorem Addressed.foldl_leaves {c : CompiledField} (h : Addressed parent c)
    (hnames : DistinctInside c) :
    c.leaves.foldl (writeBelow value? c.path.length) .null = (c.gather value?).getD .null := by
  induction c using CompiledField.induction generalizing parent with
  | leaf f =>
    have hpath : f.path.drop (CompiledField.leaf f).path.length = [] := List.drop_length
    rw [leaves, gather, List.foldl_cons, List.foldl_nil, writeBelow, hpath]
    cases value? f with
    | none => rfl
    | some v => rfl
  | group g ih =>
    obtain ⟨hpairwise, hinside⟩ := distinctNames_iff_inside.mp (hnames.1 g rfl)
    rw [leaves, gather_group]
    exact foldl_leavesOf_null h.group_fields hpairwise
      (fun f hf => ih f hf (h.group_fields f hf) (hinside f hf))
  | repeated g ih =>
    have hrows : ∀ row ∈ g.rows,
        (leavesOf row).foldl (writeBelow value? (g.path.length + 1)) .null =
          (gatherRow value? row).getD .null := by
      intro row hrow
      obtain ⟨i, hi⟩ := List.getElem?_of_mem hrow
      obtain ⟨hpairwise, hinside⟩ := distinctNames_iff_inside.mp (hnames.2 g rfl row hrow)
      have hlength : g.path.length + 1 = (g.path.row i).length := by
        rw [FieldPath.row, List.length_append, List.length_singleton]
      rw [hlength]
      exact foldl_leavesOf_null (h.repeated_rows hi) hpairwise
        (fun f hf => ih row hrow f hf (h.repeated_rows hi f hf) (hinside f hf))
    rw [leaves, gather_repeated]
    refine foldl_rows_null (fun i row hi leaf hleaf => ?_) hrows
    rw [Nat.zero_add]
    exact h.row_leaf_path hi hleaf

end Writing

end CompiledField

namespace CompiledForm

/-- With distinct names a submission nests to the object of the values of the fields. -/
theorem toNested_eq_gather {form : CompiledForm} (haddr : ∀ f ∈ form.fields, Addressed [] f)
    (hnames : DistinctNames form.fields) (values : Submission) :
    form.toNested values = .obj (Dict.ofList
      (gatherEntries (fun leaf => Dict.get? values leaf.fullName) form.fields)) := by
  obtain ⟨hpairwise, hinside⟩ := distinctNames_iff_inside.mp hnames
  have hfold : form.leaves.foldl (writeBelow (fun leaf => Dict.get? values leaf.fullName) 0)
      (.obj []) = putEntries (.obj [])
        (gatherEntries (fun leaf => Dict.get? values leaf.fullName) form.fields) :=
    foldl_leavesOf haddr hpairwise (fun f hf => (haddr f hf).foldl_leaves (hinside f hf))
      (fun _ _ => rfl)
  rw [putEntries_obj] at hfold
  exact hfold

end CompiledForm

end UiSchema
