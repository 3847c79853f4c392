import Mathlib.Data.List.Nodup
import UiSchema.Proofs.Form.Addressing
import UiSchema.Proofs.Json.Paths

/-!
# Fields with distinct names

When no two siblings share a name, the path of a leaf tells which fields it stands in: it parts from
the path of every other field at two names or at two row numbers. Nothing is said of full names,
which can coincide where names hold dots.
-/

namespace UiSchema.CompiledField

set_option autoImplicit false

/-- No two siblings share a name, at any depth. -/
inductive DistinctNames : List CompiledField → Prop
  | intro {fields : List CompiledField} :
      fields.Pairwise (fun f g => f.name ≠ g.name) →
      (∀ g, .group g ∈ fields → DistinctNames g.fields) →
      (∀ g, .repeated g ∈ fields → ∀ row ∈ g.rows, DistinctNames row) →
      DistinctNames fields

theorem DistinctNames.eq_of_name {fields : List CompiledField} (h : DistinctNames fields)
    {f g : CompiledField} (hf : f ∈ fields) (hg : g ∈ fields) (hname : f.name = g.name) :
    f = g := by
  obtain ⟨hpairwise, -, -⟩ := h
  exact List.inj_on_of_nodup_map (List.pairwise_map.mpr hpairwise) hf hg hname

theorem DistinctNames.group {fields : List CompiledField} (h : DistinctNames fields)
    {g : GroupField CompiledField} (hg : .group g ∈ fields) : DistinctNames g.fields := by
  obtain ⟨-, hgroups, -⟩ := h
  exact hgroups g hg

theorem DistinctNames.row {fields : List CompiledField} (h : DistinctNames fields)
    {g : RepeatGroup CompiledField} (hg : .repeated g ∈ fields) {row : List CompiledField}
    (hrow : row ∈ g.rows) : DistinctNames row := by
  obtain ⟨-, -, hrows⟩ := h
  exact hrows g hg row hrow

theorem distinctNames_iff {fields : List CompiledField} :
    DistinctNames fields ↔ fields.Pairwise (fun f g => f.name ≠ g.name) ∧
      (∀ g, .group g ∈ fields → DistinctNames g.fields) ∧
      ∀ g, .repeated g ∈ fields → ∀ row ∈ g.rows, DistinctNames row :=
  ⟨fun ⟨hpairwise, hgroups, hrows⟩ => ⟨hpairwise, hgroups, hrows⟩,
    fun ⟨hpairwise, hgroups, hrows⟩ => .intro hpairwise hgroups hrows⟩

section Check

mutual

/-- Checks the names inside a field. -/
def checkInside : CompiledField → Bool
  | .leaf _ => true
  | .group ⟨_, _, _, fields⟩ => checkNames fields
  | .repeated ⟨_, _, _, _, rows⟩ => checkRows rows

/-- Checks that no two siblings share a name, at any depth. -/
def checkNames : List CompiledField → Bool
  | [] => true
  | f :: rest => rest.all (fun g => f.name != g.name) && checkInside f && checkNames rest

def checkRows : List (List CompiledField) → Bool
  | [] => true
  | row :: rest => checkNames row && checkRows rest

end

theorem checkNames_iff (fields : List CompiledField) :
    checkNames fields = true ↔ fields.Pairwise (fun f g => f.name ≠ g.name) ∧
      ∀ f ∈ fields, checkInside f = true := by
  induction fields with
  | nil => simp [checkNames]
  | cons f rest ih =>
    simp only [checkNames, Bool.and_eq_true, ih, List.all_eq_true, bne_iff_ne,
      List.pairwise_cons, List.forall_mem_cons]
    constructor
    · rintro ⟨⟨hfirst, hinside⟩, hpairwise, hrest⟩
      exact ⟨⟨hfirst, hpairwise⟩, hinside, hrest⟩
    · rintro ⟨⟨hfirst, hpairwise⟩, hinside, hrest⟩
      exact ⟨⟨hfirst, hinside⟩, hpairwise, hrest⟩

theorem checkRows_iff (rows : List (List CompiledField)) :
    checkRows rows = true ↔ ∀ row ∈ rows, checkNames row = true := by
  induction rows with
  | nil => simp [checkRows]
  | cons row rest ih => simp only [checkRows, Bool.and_eq_true, ih, List.forall_mem_cons]

/-- The part of `DistinctNames` that is inside one field. -/
def DistinctInside (f : CompiledField) : Prop :=
  (∀ g, f = .group g → DistinctNames g.fields) ∧
    ∀ g, f = .repeated g → ∀ row ∈ g.rows, DistinctNames row

theorem distinctNames_iff_inside {fields : List CompiledField} :
    DistinctNames fields ↔ fields.Pairwise (fun f g => f.name ≠ g.name) ∧
      ∀ f ∈ fields, DistinctInside f := by
  rw [distinctNames_iff]
  refine and_congr_right (fun _ => ⟨?_, ?_⟩)
  · rintro ⟨hgroups, hrows⟩ f hf
    exact ⟨fun g hg => hgroups g (hg ▸ hf), fun g hg => hrows g (hg ▸ hf)⟩
  · intro h
    exact ⟨fun g hg => (h _ hg).1 g rfl, fun g hg => (h _ hg).2 g rfl⟩

theorem checkNames_iff_of_inside {fields : List CompiledField}
    (h : ∀ f ∈ fields, (checkInside f = true ↔ DistinctInside f)) :
    checkNames fields = true ↔ DistinctNames fields := by
  rw [checkNames_iff, distinctNames_iff_inside]
  exact and_congr_right (fun _ => forall₂_congr h)

theorem checkInside_iff (f : CompiledField) : checkInside f = true ↔ DistinctInside f := by
  induction f using CompiledField.induction with
  | leaf f => simp [checkInside, DistinctInside]
  | group g ih =>
    rw [checkInside, checkNames_iff_of_inside ih]
    simp [DistinctInside]
  | repeated g ih =>
    rw [checkInside, checkRows_iff]
    have hrows : (∀ row ∈ g.rows, checkNames row = true) ↔ ∀ row ∈ g.rows, DistinctNames row :=
      forall₂_congr (fun row hrow => checkNames_iff_of_inside (ih row hrow))
    rw [hrows]
    simp [DistinctInside]

instance (fields : List CompiledField) : Decidable (DistinctNames fields) :=
  decidable_of_iff _ (checkNames_iff_of_inside (fun f _ => checkInside_iff f))

end Check

section Paths

variable {parent : FieldPath} {leaf : LeafField}

theorem Addressed.leaf_path {f : CompiledField} (h : Addressed parent f) (hleaf : leaf ∈ f.leaves) :
    ∃ rest, leaf.path = parent ++ .key f.name :: rest := by
  induction h with
  | leaf hpath =>
    rw [mem_leaves_leaf.mp hleaf]
    exact ⟨[], hpath⟩
  | @group _ g hpath _ ih =>
    obtain ⟨f, hf, hleaf⟩ := mem_leavesOf.mp (mem_leaves_group.mp hleaf)
    obtain ⟨rest, hrest⟩ := ih f hf hleaf
    exact ⟨.key f.name :: rest, by rw [hrest, hpath, FieldPath.child, List.append_assoc]; rfl⟩
  | @repeated _ g hpath _ ih =>
    obtain ⟨row, hrow, hleaf⟩ := mem_leaves_repeated.mp hleaf
    obtain ⟨i, hi⟩ := List.getElem?_of_mem hrow
    obtain ⟨f, hf, hleaf⟩ := mem_leavesOf.mp hleaf
    obtain ⟨rest, hrest⟩ := ih i row hi f hf hleaf
    refine ⟨.index i :: .key f.name :: rest, ?_⟩
    rw [hrest, hpath, FieldPath.row, FieldPath.child, List.append_assoc, List.append_assoc]
    rfl

theorem Addressed.row_leaf_path {g : RepeatGroup CompiledField} (h : Addressed parent (.repeated g))
    {i : Nat} {row : List CompiledField} (hi : g.rows[i]? = some row)
    (hleaf : leaf ∈ leavesOf row) :
    ∃ rest, leaf.path = g.path ++ .index i :: rest := by
  obtain ⟨f, hf, hleaf⟩ := mem_leavesOf.mp hleaf
  obtain ⟨rest, hrest⟩ := (h.repeated_rows hi f hf).leaf_path hleaf
  exact ⟨.key f.name :: rest, by rw [hrest, FieldPath.row, List.append_assoc]; rfl⟩

theorem Addressed.leaf_diverges {f : CompiledField} (h : Addressed parent f)
    (hleaf : leaf ∈ f.leaves) {name : String} (hname : f.name ≠ name) (rest : FieldPath) :
    leaf.path.Diverges (parent ++ .key name :: rest) := by
  obtain ⟨rest', hrest'⟩ := h.leaf_path hleaf
  rw [hrest']
  exact (FieldPath.Diverges.key hname rest' rest).append parent

/-- A field at any depth is addressed below a path that extends the one of the list it occurs in. -/
theorem Within.addressed {fields : List CompiledField} {x : CompiledField} (hx : Within x fields)
    (haddr : ∀ f ∈ fields, Addressed parent f) : ∃ rest, Addressed (parent ++ rest) x := by
  induction hx generalizing parent with
  | here hmem => exact ⟨[], by rw [List.append_nil]; exact haddr _ hmem⟩
  | @group _ g hg _ ih =>
    have hgroup := haddr _ hg
    obtain ⟨rest, hrest⟩ := ih hgroup.group_fields
    refine ⟨.key g.name :: rest, ?_⟩
    have hpath : g.path = parent.child g.name := hgroup.path_eq
    rwa [hpath, FieldPath.child, List.append_assoc] at hrest
  | @row _ row g hg hrow _ ih =>
    have hrepeated := haddr _ hg
    obtain ⟨i, hi⟩ := List.getElem?_of_mem hrow
    obtain ⟨rest, hrest⟩ := ih (hrepeated.repeated_rows hi)
    refine ⟨.key g.name :: .index i :: rest, ?_⟩
    have hpath : g.path = parent.child g.name := hrepeated.path_eq
    rwa [hpath, FieldPath.row, FieldPath.child, List.append_assoc, List.append_assoc] at hrest

theorem Within.path_extends {fields : List CompiledField} {x : CompiledField}
    (hx : Within x fields) (haddr : ∀ f ∈ fields, Addressed parent f) :
    ∃ rest, x.path = parent ++ rest := by
  obtain ⟨rest, hrest⟩ := hx.addressed haddr
  exact ⟨rest ++ [.key x.name], by rw [hrest.path_eq, FieldPath.child, List.append_assoc]⟩

theorem Within.path_getLast? {fields : List CompiledField} {x : CompiledField}
    (hx : Within x fields) (haddr : ∀ f ∈ fields, Addressed parent f) :
    x.path.getLast? = some (.key x.name) := by
  obtain ⟨rest, hrest⟩ := hx.addressed haddr
  rw [hrest.path_eq, FieldPath.child, List.getLast?_concat]

theorem within_of_mem_leaves {f : CompiledField} (hleaf : leaf ∈ f.leaves)
    {fields : List CompiledField} (hf : f ∈ fields) : Within (.leaf leaf) fields := by
  induction f using CompiledField.induction generalizing fields with
  | leaf f =>
    rw [mem_leaves_leaf.mp hleaf]
    exact .here hf
  | group g ih =>
    obtain ⟨f, hmem, hleaf⟩ := mem_leavesOf.mp (mem_leaves_group.mp hleaf)
    exact .group hf (ih f hmem hleaf hmem)
  | repeated g ih =>
    obtain ⟨row, hrow, hleaf⟩ := mem_leaves_repeated.mp hleaf
    obtain ⟨f, hmem, hleaf⟩ := mem_leavesOf.mp hleaf
    exact .row hf hrow (ih row hrow f hmem hleaf hmem)

theorem within_of_mem_leavesOf {fields : List CompiledField} (hleaf : leaf ∈ leavesOf fields) :
    Within (.leaf leaf) fields := by
  obtain ⟨f, hf, hleaf⟩ := mem_leavesOf.mp hleaf
  exact within_of_mem_leaves hleaf hf

theorem Within.leaves_subset {fields : List CompiledField} {x : CompiledField}
    (hx : Within x fields) (hleaf : leaf ∈ x.leaves) : leaf ∈ leavesOf fields := by
  induction hx with
  | here hmem => exact mem_leavesOf.mpr ⟨x, hmem, hleaf⟩
  | group hg _ ih => exact mem_leavesOf.mpr ⟨_, hg, mem_leaves_group.mpr ih⟩
  | row hg hrow _ ih => exact mem_leavesOf.mpr ⟨_, hg, mem_leaves_repeated.mpr ⟨_, hrow, ih⟩⟩

/-- A leaf stands inside a field, or their paths part at two names or two row numbers. -/
theorem Within.leaf_inside_or_diverges {fields : List CompiledField} {x : CompiledField}
    (hx : Within x fields) (haddr : ∀ f ∈ fields, Addressed parent f)
    (hnames : DistinctNames fields) (hleaf : leaf ∈ leavesOf fields) :
    leaf ∈ x.leaves ∨ leaf.path.Diverges x.path := by
  induction hx generalizing parent with
  | here hmem =>
    obtain ⟨f, hf, hleaf⟩ := mem_leavesOf.mp hleaf
    by_cases hname : f.name = x.name
    · rw [hnames.eq_of_name hf hmem hname] at hleaf
      exact Or.inl hleaf
    · rw [(haddr x hmem).path_eq]
      exact Or.inr ((haddr f hf).leaf_diverges hleaf hname [])
  | @group _ g hg hx ih =>
    obtain ⟨f, hf, hleaf⟩ := mem_leavesOf.mp hleaf
    have hgroup := haddr _ hg
    by_cases hname : f.name = g.name
    · rw [hnames.eq_of_name hf hg hname] at hleaf
      exact ih hgroup.group_fields (hnames.group hg) (mem_leaves_group.mp hleaf)
    · obtain ⟨rest, hrest⟩ := hx.path_extends hgroup.group_fields
      have hpath : g.path = parent.child g.name := hgroup.path_eq
      rw [hrest, hpath, FieldPath.child, List.append_assoc]
      exact Or.inr ((haddr f hf).leaf_diverges hleaf hname rest)
  | @row _ row g hg hrow hx ih =>
    obtain ⟨f, hf, hleaf⟩ := mem_leavesOf.mp hleaf
    have hrepeated := haddr _ hg
    obtain ⟨i, hi⟩ := List.getElem?_of_mem hrow
    obtain ⟨rest', hrest'⟩ := hx.path_extends (hrepeated.repeated_rows hi)
    rw [FieldPath.row, List.append_assoc] at hrest'
    by_cases hname : f.name = g.name
    · rw [hnames.eq_of_name hf hg hname] at hleaf
      obtain ⟨other, hother, hleaf⟩ := mem_leaves_repeated.mp hleaf
      obtain ⟨j, hj⟩ := List.getElem?_of_mem hother
      by_cases hij : j = i
      · subst hij
        rw [hi] at hj
        cases hj
        exact ih (hrepeated.repeated_rows hi) (hnames.row hg hrow) hleaf
      · obtain ⟨rest, hrest⟩ := hrepeated.row_leaf_path hj hleaf
        rw [hrest, hrest']
        exact Or.inr ((FieldPath.Diverges.index hij rest rest').append g.path)
    · have hpath : g.path = parent.child g.name := hrepeated.path_eq
      rw [hrest', hpath, FieldPath.child, List.append_assoc]
      exact Or.inr ((haddr f hf).leaf_diverges hleaf hname _)

end Paths

end UiSchema.CompiledField
