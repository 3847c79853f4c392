import Mathlib.Data.List.Induction
import UiSchema.Proofs.Json.Equality
import UiSchema.Proofs.Route.Slugs

/-!
# What nesting makes of flat parameters

Flat parameters are nested one after another, in the order of their keys. A key that goes on with an
underscore comes later and needs an object where the shorter one has its value, so only the values
of maximal keys stay. `Nests` says what stands at each path of the result. One more parameter keeps
it, and it leaves no choice for the result.
-/

namespace UiSchema.Route

set_option autoImplicit false

def IsLeaf : Json → Prop
  | .obj _ => False
  | _ => True

instance : DecidablePred IsLeaf
  | .obj _ => .isFalse id
  | .null | .bool _ | .int _ | .float _ | .str _ | .arr _ => .isTrue trivial

/-- The part of a value that names lead to through objects. -/
def partAt (v : Json) (names : List String) : Option Json := v.readAt (names.map Step.key)

/-- No key goes on with an underscore behind this one. -/
def Maximal (flat : Dict Json) (key : String) : Prop :=
  key ∈ Dict.keys flat ∧ ∀ other ∈ Dict.keys flat, ¬key.toList ++ ['_'] <+: other.toList

/-- The root, or a place above the last piece of some key. -/
def AboveKey (flat : Dict Json) (names : List String) : Prop :=
  names = [] ∨ ∃ key ∈ Dict.keys flat, ∃ rest, rest ≠ [] ∧ Text.splitOn '_' key = names ++ rest

def KeysAscend (v : Json) : Prop :=
  ∀ names fields, partAt v names = some (.obj fields) → Dict.Ascending fields

/-- The leaves are the values of the maximal keys, each at the pieces of its key. Objects stand at
the root and above the last piece of every key, maximal or not, and nowhere else. -/
structure Nests (flat : Dict Json) (nested : Json) : Prop where
  leaf_iff : ∀ names v, IsLeaf v → (partAt nested names = some v ↔
    ∃ key, Maximal flat key ∧ (key, v) ∈ flat ∧ names = Text.splitOn '_' key)
  object_iff : ∀ names, (∃ fields, partAt nested names = some (.obj fields)) ↔ AboveKey flat names
  ascending : KeysAscend nested

section Parts

variable {v w slot : Json} {names rest : List String}

theorem isLeaf_iff : IsLeaf v ↔ ∀ fields, v ≠ .obj fields := by
  cases v with
  | obj fields => exact iff_of_false id (fun h => h fields rfl)
  | _ => exact iff_of_true trivial nofun

theorem not_isLeaf_iff : ¬IsLeaf v ↔ ∃ fields, v = .obj fields := by
  cases v with
  | obj fields => exact iff_of_true id ⟨fields, rfl⟩
  | _ => exact iff_of_false (not_not_intro trivial) nofun

theorem partAt_cons (v : Json) (name : String) (rest : List String) :
    partAt v (name :: rest) = (Dict.get? v.objectFields name).bind (fun part => partAt part rest) := by
  rw [partAt, List.map_cons, Json.readAt, Json.step?_key]
  rfl

theorem partAt_append (v : Json) (names rest : List String) :
    partAt v (names ++ rest) = (partAt v names).bind (fun part => partAt part rest) := by
  rw [partAt, List.map_append, Json.readAt_append]
  rfl

theorem partAt_of_isLeaf (hv : IsLeaf v) (hne : rest ≠ []) : partAt v rest = none := by
  obtain ⟨name, rest, rfl⟩ := List.exists_cons_of_ne_nil hne
  rw [partAt_cons]
  cases v with
  | obj fields => exact absurd hv id
  | _ => rfl

/-- What stands at a place after a leaf was written at another one, in the four ways in which two
places can lie. -/
theorem partAt_writeAt (slot : Json) (hv : IsLeaf v) (place names : List String) :
    (place = names ∧ partAt (slot.writeAt (place.map Step.key) v) names = some v) ∨
    (∃ rest, rest ≠ [] ∧ names = place ++ rest ∧
      partAt (slot.writeAt (place.map Step.key) v) names = none) ∨
    (∃ rest, rest ≠ [] ∧ place = names ++ rest ∧ ∃ name part,
      partAt (slot.writeAt (place.map Step.key) v) names =
        some (.obj (Dict.insert ((partAt slot names).getD .null).objectFields name part))) ∨
    (¬place <+: names ∧ ¬names <+: place ∧
      partAt (slot.writeAt (place.map Step.key) v) names = partAt slot names) := by
  by_cases hbelow : place <+: names
  · obtain ⟨rest, rfl⟩ := hbelow
    have hpart : partAt (slot.writeAt (place.map Step.key) v) (place ++ rest) = partAt v rest := by
      rw [partAt_append, partAt, Json.readAt_writeAt_self, Option.bind_some]
    by_cases hrest : rest = []
    · left
      subst hrest
      exact ⟨(List.append_nil place).symm, hpart⟩
    · right; left
      exact ⟨rest, hrest, rfl, hpart.trans (partAt_of_isLeaf hv hrest)⟩
  · by_cases habove : names <+: place
    · right; right; left
      obtain ⟨rest, rfl⟩ := habove
      have hrest : rest ≠ [] := by
        rintro rfl
        exact hbelow ⟨[], by rw [List.append_nil, List.append_nil]⟩
      refine ⟨rest, hrest, rfl, ?_⟩
      rw [partAt, List.map_append, Json.readAt_writeAt_prefix]
      obtain ⟨name, rest, rfl⟩ := List.exists_cons_of_ne_nil hrest
      exact ⟨name, _, rfl⟩
    · right; right; right
      refine ⟨hbelow, habove, ?_⟩
      rcases FieldPath.prefix_or_diverges place names with h | h | hparts
      · exact absurd h hbelow
      · exact absurd h habove
      · have hne : names ≠ [] := by
          rintro rfl
          exact habove List.nil_prefix
        have hlast : (names.map Step.key).getLast? = some (.key (names.getLast hne)) := by
          rw [List.getLast?_map, List.getLast?_eq_some_getLast hne]
          rfl
        exact Json.readAt_writeAt_of_diverges hparts hlast slot v

end Parts

section Steps

variable {flat : Dict Json} {nested v : Json} {key other : String}

theorem not_extends_of_lt (hlt : other < key) :
    ¬Text.splitOn '_' key <+: Text.splitOn '_' other := by
  intro h
  have hprefix : key.toList <+: other.toList := by
    rcases Text.splitOn_prefix h with rfl | hprefix
    · exact List.prefix_rfl
    · exact (List.prefix_append _ _).trans hprefix
  exact absurd (String.lt_iff.mp hlt) hprefix.le

theorem not_prefix_self (key : String) : ¬key.toList ++ ['_'] <+: key.toList := by
  intro h
  have hlength := h.length_le
  rw [List.length_append, List.length_singleton] at hlength
  omega

theorem mem_keys_concat : other ∈ Dict.keys (flat ++ [(key, v)]) ↔
    other ∈ Dict.keys flat ∨ other = key := by
  rw [Dict.keys, List.map_append, List.mem_append]
  exact or_congr_right List.mem_singleton

/-- The last key is maximal, and the other maximal keys are those that it does not continue. -/
theorem maximal_concat_iff (hlast : ∀ k ∈ Dict.keys flat, k < key) :
    Maximal (flat ++ [(key, v)]) other ↔
      other = key ∨ (Maximal flat other ∧ ¬other.toList ++ ['_'] <+: key.toList) := by
  constructor
  · rintro ⟨hmem, hmax⟩
    rcases mem_keys_concat.mp hmem with hmem | rfl
    · right
      refine ⟨⟨hmem, fun k hk => ?_⟩, ?_⟩
      · exact hmax k (mem_keys_concat.mpr (Or.inl hk))
      · exact hmax key (mem_keys_concat.mpr (Or.inr rfl))
    · exact Or.inl rfl
  · rintro (rfl | ⟨⟨hmem, hmax⟩, hkey⟩)
    · refine ⟨mem_keys_concat.mpr (Or.inr rfl), fun k hk => ?_⟩
      rcases mem_keys_concat.mp hk with hk | rfl
      · intro hext
        obtain ⟨rest, _, hpieces⟩ := Text.splitOn_extends_iff.mpr hext
        exact not_extends_of_lt (hlast k hk) ⟨rest, hpieces.symm⟩
      · exact not_prefix_self k
    · refine ⟨mem_keys_concat.mpr (Or.inl hmem), fun k hk => ?_⟩
      rcases mem_keys_concat.mp hk with hk | rfl
      · exact hmax k hk
      · exact hkey

/-- A leaf of a maximal key before the last one, or of the last one. -/
theorem leaf_concat_iff (hlast : ∀ k ∈ Dict.keys flat, k < key) {names : List String} {w : Json} :
    (∃ k, Maximal (flat ++ [(key, v)]) k ∧ (k, w) ∈ flat ++ [(key, v)] ∧
      names = Text.splitOn '_' k) ↔
    (w = v ∧ names = Text.splitOn '_' key) ∨
      ∃ k, Maximal flat k ∧ (k, w) ∈ flat ∧ names = Text.splitOn '_' k ∧
        ¬k.toList ++ ['_'] <+: key.toList := by
  constructor
  · rintro ⟨k, hmax, hmem, hnames⟩
    rcases List.mem_append.mp hmem with hmem | hmem
    · right
      have hlt := hlast k (List.mem_map_of_mem hmem)
      rcases (maximal_concat_iff hlast).mp hmax with rfl | ⟨hmax, hkey⟩
      · exact absurd hlt Std.lt_irrefl
      · exact ⟨k, hmax, hmem, hnames, hkey⟩
    · left
      obtain ⟨rfl, rfl⟩ := Prod.mk.inj (List.mem_singleton.mp hmem)
      exact ⟨rfl, hnames⟩
  · rintro (⟨rfl, hnames⟩ | ⟨k, hmax, hmem, hnames, hkey⟩)
    · refine ⟨key, (maximal_concat_iff hlast).mpr (Or.inl rfl), ?_, hnames⟩
      exact List.mem_append_right flat List.mem_cons_self
    · refine ⟨k, (maximal_concat_iff hlast).mpr (Or.inr ⟨hmax, hkey⟩), ?_, hnames⟩
      exact List.mem_append_left _ hmem

theorem not_aboveKey_concat (hlast : ∀ k ∈ Dict.keys flat, k < key) {names : List String}
    (hplace : Text.splitOn '_' key <+: names) : ¬AboveKey (flat ++ [(key, v)]) names := by
  rintro (rfl | ⟨k, hk, rest, hrest, hpieces⟩)
  · exact splitOn_ne_nil key (List.prefix_nil.mp hplace)
  · have hinside : Text.splitOn '_' key <+: Text.splitOn '_' k :=
      hplace.trans ⟨rest, hpieces.symm⟩
    rcases mem_keys_concat.mp hk with hk | rfl
    · exact not_extends_of_lt (hlast k hk) hinside
    · have hlength := hplace.length_le
      rw [hpieces, List.length_append] at hlength
      have hpos := List.length_pos_iff.mpr hrest
      omega

theorem nests_nil : Nests [] (.obj []) where
  leaf_iff names v hv := by
    refine iff_of_false (fun h => ?_) (fun ⟨_, hmax, _⟩ => absurd hmax.1 List.not_mem_nil)
    cases names with
    | nil =>
      cases h
      exact hv
    | cons name rest =>
      rw [partAt_cons] at h
      cases h
  object_iff names := by
    constructor
    · rintro ⟨fields, h⟩
      cases names with
      | nil => exact Or.inl rfl
      | cons name rest =>
        rw [partAt_cons] at h
        cases h
    · rintro (rfl | ⟨key, hkey, _⟩)
      · exact ⟨[], rfl⟩
      · exact absurd hkey List.not_mem_nil
  ascending names fields h := by
    cases names with
    | nil =>
      cases h
      exact .nil
    | cons name rest =>
      rw [partAt_cons] at h
      cases h

theorem Nests.keysAscend_write (h : Nests flat nested) (hv : IsLeaf v) :
    KeysAscend (nested.writeAt (nestPath key) v) := by
  intro names fields heq
  rw [nestPath] at heq
  rcases partAt_writeAt nested hv (Text.splitOn '_' key) names with
    ⟨_, hpart⟩ | ⟨_, _, _, hpart⟩ | ⟨_, _, _, name, part, hpart⟩ | ⟨_, _, hpart⟩
  · rw [hpart] at heq
    exact absurd (Option.some.inj heq) (isLeaf_iff.mp hv fields)
  · rw [hpart] at heq
    cases heq
  · rw [hpart] at heq
    cases heq
    apply Dict.ascending_insert
    -- what is no object gives way to one without fields
    cases hold : partAt nested names with
    | none => exact .nil
    | some old =>
      cases old with
      | obj fields => exact h.ascending names fields hold
      | _ => exact .nil
  · rw [hpart] at heq
    exact h.ascending names fields heq

section Last

variable (h : Nests flat nested) (hlast : ∀ k ∈ Dict.keys flat, k < key) (hv : IsLeaf v)
include h hlast hv

theorem Nests.leaf_write_iff (names : List String) (w : Json) (hw : IsLeaf w) :
    partAt (nested.writeAt (nestPath key) v) names = some w ↔
      ∃ k, Maximal (flat ++ [(key, v)]) k ∧ (k, w) ∈ flat ++ [(key, v)] ∧
        names = Text.splitOn '_' k := by
  have hearlier : ∀ k ∈ Dict.keys flat, ¬Text.splitOn '_' key <+: Text.splitOn '_' k :=
    fun k hk => not_extends_of_lt (hlast k hk)
  rw [leaf_concat_iff hlast, nestPath]
  -- at the place of the new leaf, below it, above it, and apart from it
  rcases partAt_writeAt nested hv (Text.splitOn '_' key) names with
    ⟨rfl, hpart⟩ | ⟨rest, hrest, rfl, hpart⟩ | ⟨rest, hrest, hplace, name, part, hpart⟩ |
    ⟨hbelow, habove, hpart⟩
  · rw [hpart]
    constructor
    · intro heq
      exact Or.inl ⟨(Option.some.inj heq).symm, rfl⟩
    · rintro (⟨rfl, _⟩ | ⟨k, hmax, _, hnames, _⟩)
      · rfl
      · exact absurd (hnames ▸ List.prefix_rfl) (hearlier k hmax.1)
  · rw [hpart]
    refine iff_of_false (Option.some_ne_none w).symm ?_
    rintro (⟨_, hnames⟩ | ⟨k, hmax, _, hnames, _⟩)
    · exact hrest (List.append_right_eq_self.mp hnames)
    · exact hearlier k hmax.1 ⟨rest, hnames⟩
  · rw [hpart]
    refine iff_of_false (fun heq => ?_) ?_
    · cases heq
      exact hw
    · rintro (⟨_, rfl⟩ | ⟨k, _, _, rfl, hkey⟩)
      · exact hrest (List.append_right_eq_self.mp hplace.symm)
      · exact hkey (Text.splitOn_extends_iff.mp ⟨rest, hrest, hplace⟩)
  · rw [hpart, h.leaf_iff names w hw]
    constructor
    · rintro ⟨k, hmax, hmem, rfl⟩
      refine Or.inr ⟨k, hmax, hmem, rfl, fun hkey => ?_⟩
      obtain ⟨rest, _, hplace⟩ := Text.splitOn_extends_iff.mpr hkey
      exact habove ⟨rest, hplace.symm⟩
    · rintro (⟨_, rfl⟩ | ⟨k, hmax, hmem, hnames, _⟩)
      · exact absurd List.prefix_rfl hbelow
      · exact ⟨k, hmax, hmem, hnames⟩

theorem Nests.object_write_iff (names : List String) :
    (∃ fields, partAt (nested.writeAt (nestPath key) v) names = some (.obj fields)) ↔
      AboveKey (flat ++ [(key, v)]) names := by
  rw [nestPath]
  rcases partAt_writeAt nested hv (Text.splitOn '_' key) names with
    ⟨hplace, hpart⟩ | ⟨rest, _, hplace, hpart⟩ | ⟨rest, hrest, hplace, name, part, hpart⟩ |
    ⟨hbelow, habove, hpart⟩
  · rw [hpart]
    refine iff_of_false ?_ (not_aboveKey_concat hlast (hplace ▸ List.prefix_rfl))
    rintro ⟨fields, heq⟩
    exact isLeaf_iff.mp hv fields (Option.some.inj heq)
  · rw [hpart]
    refine iff_of_false ?_ (not_aboveKey_concat hlast ⟨rest, hplace.symm⟩)
    rintro ⟨fields, heq⟩
    cases heq
  · rw [hpart]
    refine iff_of_true ⟨_, rfl⟩ (Or.inr ⟨key, ?_, rest, hrest, hplace⟩)
    exact mem_keys_concat.mpr (Or.inr rfl)
  · rw [hpart, h.object_iff names]
    apply or_congr_right
    constructor
    · rintro ⟨k, hk, hinside⟩
      exact ⟨k, mem_keys_concat.mpr (Or.inl hk), hinside⟩
    · rintro ⟨k, hk, rest, hrest, hpieces⟩
      rcases mem_keys_concat.mp hk with hk | rfl
      · exact ⟨k, hk, rest, hrest, hpieces⟩
      · exact absurd ⟨rest, hpieces.symm⟩ habove

theorem Nests.write : Nests (flat ++ [(key, v)]) (nested.writeAt (nestPath key) v) where
  leaf_iff := h.leaf_write_iff hlast hv
  object_iff := h.object_write_iff hlast hv
  ascending := h.keysAscend_write hv

end Last

end Steps

section Runs

variable {flat : Dict Json}

theorem nests_writeAll (hflat : Dict.Ascending flat) (hleaf : ∀ e ∈ flat, IsLeaf e.2) :
    Nests flat (writeAll flat (.obj [])) := by
  induction flat using List.reverseRecOn with
  | nil => exact nests_nil
  | append_singleton flat e ih =>
    obtain ⟨key, v⟩ := e
    obtain ⟨hfront, _, hlast⟩ := List.pairwise_append.mp hflat
    have hbefore : ∀ k ∈ Dict.keys flat, k < key := by
      intro k hk
      obtain ⟨entry, hentry, rfl⟩ := List.mem_map.mp hk
      exact hlast entry hentry (key, v) List.mem_cons_self
    have hnests := ih hfront (fun entry hentry => hleaf entry (List.mem_append_left _ hentry))
    rw [writeAll, List.foldl_append, ← writeAll]
    exact hnests.write hbefore (hleaf (key, v) (List.mem_append_right flat List.mem_cons_self))

/-- Leaves stand at the same places in either value, and so do objects. -/
structure SamePlaces (v w : Json) : Prop where
  leaf_iff : ∀ names leaf, IsLeaf leaf →
    (partAt v names = some leaf ↔ partAt w names = some leaf)
  object_iff : ∀ names, (∃ fields, partAt v names = some (.obj fields)) ↔
    ∃ fields, partAt w names = some (.obj fields)

section Places

variable {v w part other : Json} {names : List String}

theorem SamePlaces.symm (h : SamePlaces v w) : SamePlaces w v where
  leaf_iff names leaf hleaf := (h.leaf_iff names leaf hleaf).symm
  object_iff names := (h.object_iff names).symm

theorem SamePlaces.exists_part (h : SamePlaces v w) (hpart : partAt v names = some part) :
    ∃ other, partAt w names = some other := by
  by_cases hleaf : IsLeaf part
  · exact ⟨part, (h.leaf_iff names part hleaf).mp hpart⟩
  · obtain ⟨fields, rfl⟩ := not_isLeaf_iff.mp hleaf
    obtain ⟨others, hothers⟩ := (h.object_iff names).mp ⟨fields, hpart⟩
    exact ⟨_, hothers⟩

theorem SamePlaces.inside (h : SamePlaces v w) (hpart : partAt v names = some part)
    (hother : partAt w names = some other) : SamePlaces part other := by
  have hv (rest : List String) : partAt v (names ++ rest) = partAt part rest := by
    rw [partAt_append, hpart, Option.bind_some]
  have hw (rest : List String) : partAt w (names ++ rest) = partAt other rest := by
    rw [partAt_append, hother, Option.bind_some]
  constructor
  · intro rest leaf hleaf
    rw [← hv, ← hw]
    exact h.leaf_iff (names ++ rest) leaf hleaf
  · intro rest
    rw [← hv, ← hw]
    exact h.object_iff (names ++ rest)

theorem KeysAscend.inside (h : KeysAscend v) (hpart : partAt v names = some part) :
    KeysAscend part := by
  intro rest fields hfields
  apply h (names ++ rest)
  rw [partAt_append, hpart, Option.bind_some, hfields]

theorem eq_of_isLeaf (hleaf : IsLeaf v) (h : SamePlaces v w) : v = w :=
  (Option.some.inj ((h.leaf_iff [] v hleaf).mp rfl)).symm

theorem SamePlaces.eq (h : SamePlaces v w) (hv : KeysAscend v) (hw : KeysAscend w) : v = w := by
  induction v using Json.induction generalizing w with
  | null => exact eq_of_isLeaf trivial h
  | bool b => exact eq_of_isLeaf trivial h
  | int n => exact eq_of_isLeaf trivial h
  | float x => exact eq_of_isLeaf trivial h
  | str s => exact eq_of_isLeaf trivial h
  | arr items ih => exact eq_of_isLeaf trivial h
  | obj fields ih =>
    obtain ⟨others, hothers⟩ := (h.object_iff []).mp ⟨fields, rfl⟩
    cases hothers
    apply congrArg Json.obj
    apply Dict.ext_get? (hv [] fields rfl) (hw [] others rfl)
    intro name
    have hfield (x : Dict Json) : partAt (.obj x) [name] = Dict.get? x name := by
      rw [partAt_cons]
      exact Option.bind_fun_some _
    cases hpart : Dict.get? fields name with
    | none =>
      cases hother : Dict.get? others name with
      | none => rfl
      | some other =>
        obtain ⟨part, hsome⟩ := h.symm.exists_part ((hfield others).trans hother)
        rw [hfield, hpart] at hsome
        cases hsome
    | some part =>
      have hat := (hfield fields).trans hpart
      obtain ⟨other, hother⟩ := h.exists_part hat
      have hsame : part = other := ih (name, part) (Dict.mem_of_get? hpart) (h.inside hat hother)
        (hv.inside hat) (hw.inside hother)
      rw [hsame, ← hfield others, hother]

end Places

theorem Nests.unique {v w : Json} (hv : Nests flat v) (hw : Nests flat w) : v = w := by
  have hsame : SamePlaces v w := by
    constructor
    · intro names leaf hleaf
      rw [hv.leaf_iff names leaf hleaf, hw.leaf_iff names leaf hleaf]
    · intro names
      rw [hv.object_iff, hw.object_iff]
  exact hsame.eq hv.ascending hw.ascending

/-- Nesting builds the one value whose leaves are the values of the maximal keys, each at the pieces
of its key. -/
theorem nests_iff_eq_nestSlugged {flat : Dict Json} (hflat : Dict.Ascending flat)
    (hleaf : ∀ e ∈ flat, IsLeaf e.2) (nested : Json) :
    Nests flat nested ↔ nested = nestSlugged flat := by
  have hnests : Nests flat (nestSlugged flat) := by
    rw [nestSlugged, obj_foldl_insertAt]
    exact nests_writeAll hflat hleaf
  constructor
  · intro h
    exact h.unique hnests
  · rintro rfl
    exact hnests

/-- Empty pieces, values that give way, and a list that stays whole. -/
def unevenParameters : Dict Json :=
  [("", .int 0), ("_", .null), ("a", .int 1), ("a_", .int 2), ("a__b", .arr [.obj [("c", .int 3)]]),
    ("a_b", .str "x"), ("ab", .bool true)]

theorem unevenParameters_nest :
    Dict.Ascending unevenParameters ∧ (∀ e ∈ unevenParameters, IsLeaf e.2) ∧
      Nests unevenParameters (.obj [("", .obj [("", .null)]),
        ("a", .obj [("", .obj [("b", .arr [.obj [("c", .int 3)]])]), ("b", .str "x")]),
        ("ab", .bool true)]) := by
  have hflat : Dict.Ascending unevenParameters := by
    unfold Dict.Ascending
    decide
  have hleaf : ∀ e ∈ unevenParameters, IsLeaf e.2 := by decide
  refine ⟨hflat, hleaf, (nests_iff_eq_nestSlugged hflat hleaf _).mpr ?_⟩
  rfl

end Runs

end UiSchema.Route
