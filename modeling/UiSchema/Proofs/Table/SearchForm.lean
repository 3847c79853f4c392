import UiSchema.Proofs.Form.Construction
import UiSchema.Proofs.Table.Independence

/-!
# The search form and the edits of a query

The form above a table has one leaf for each column that is searched, named by the column's data
index, and an edit under a name acts on the first such column of that name. So the form offers
exactly the names that edits are taken for. The form compiles unless a column asks for a nested
field, since no lists are derived for those.
-/

namespace UiSchema

set_option autoImplicit false

open CompiledField FieldSchema

namespace ColumnSchema

theorem searchField?_eq_some {c : ColumnSchema} {f : FieldSchema} :
    c.searchField? = some f ↔ ∃ filter, c.activeFilter? = some filter ∧
      f = (FieldSchema.ofName c.dataIndex (filter.kind.getD .input)).withLabel c.title := by
  rw [searchField?, Option.map_eq_some_iff]
  simp only [eq_comm]

theorem mem_searchFields {columns : List ColumnSchema} {f : FieldSchema} :
    f ∈ searchFields columns ↔ ∃ c ∈ columns, ∃ filter, c.activeFilter? = some filter ∧
      f = (FieldSchema.ofName c.dataIndex (filter.kind.getD .input)).withLabel c.title := by
  simp only [searchFields, List.mem_filterMap, searchField?_eq_some]

theorem map_name_searchFields (columns : List ColumnSchema) :
    (searchFields columns).map (·.name) =
      (columns.filter (fun c => c.activeFilter?.isSome)).map (·.dataIndex) := by
  induction columns with
  | nil => rfl
  | cons c rest ih =>
    cases hfilter : c.activeFilter? with
    | none =>
      have hfield : c.searchField? = none := by rw [searchField?, hfilter]; rfl
      rw [searchFields, List.filterMap_cons_none hfield, ← searchFields, ih,
        List.filter_cons_of_neg (by simp [hfilter])]
    | some filter =>
      have hfield := searchField?_eq_some.mpr ⟨filter, hfilter, rfl⟩
      rw [searchFields, List.filterMap_cons_some hfield, ← searchFields,
        List.filter_cons_of_pos (by simp [hfilter]), List.map_cons, List.map_cons, ih]
      rfl

theorem exists_firstActive?_iff {columns : List ColumnSchema} {name : String} :
    (∃ column, firstActive? columns name = some column) ↔
      name ∈ (searchFields columns).map (·.name) := by
  rw [map_name_searchFields, firstActive?, ← Option.isSome_iff_exists, List.find?_isSome,
    List.mem_map]
  constructor
  · rintro ⟨c, hc, hactive⟩
    simp only [Bool.and_eq_true, beq_iff_eq] at hactive
    exact ⟨c, List.mem_filter.mpr ⟨hc, hactive.2⟩, hactive.1⟩
  · rintro ⟨c, hc, hname⟩
    obtain ⟨hc, hactive⟩ := List.mem_filter.mp hc
    exact ⟨c, hc, by simp [hname, hactive]⟩

end ColumnSchema

namespace FieldSchema

theorem nestedFields_ne_ok {f : FieldSchema} (hproperties : f.properties = none) {key : NestedKey}
    {path : String} {nested : List FieldSchema} : f.nestedFields key path ≠ .ok nested := by
  intro h
  simp [nestedFields, property?, hproperties] at h

/-- A field without properties is compiled unless it is of a kind that nests others. -/
theorem exists_compileField_iff {compile : Compiler} {parent : FieldPath} {seed : Seed}
    {f : FieldSchema} (hproperties : f.properties = none) :
    (∃ c, compileField compile parent seed f = .ok c) ↔
      f.kind ≠ .object ∧ f.kind ≠ .objectArray := by
  constructor
  · rintro ⟨c, hc⟩
    cases compileField_eq_ok.mp hc with
    | leaf hobject harray => exact ⟨hobject, harray⟩
    | group _ h => exact absurd h (nestedFields_ne_ok hproperties)
    | repeated _ h => exact absurd h (nestedFields_ne_ok hproperties)
  · rintro ⟨hobject, harray⟩
    exact ⟨_, compileField_eq_ok.mpr (.leaf hobject harray)⟩

theorem exists_compile_iff {fields : List FieldSchema} {parent : FieldPath} {seed : Seed}
    (hproperties : ∀ f ∈ fields, f.properties = none) :
    (∃ result, compile fields parent seed = .ok result) ↔
      ∀ f ∈ fields, f.kind ≠ .object ∧ f.kind ≠ .objectArray := by
  -- whatever the compiler for nested lists is, none of these fields asks for it
  obtain ⟨inner, _, hlevel⟩ :=
    exists_compileLevel (P := fun _ => True) trivial (fun _ _ => trivial) fields
  rw [hlevel, compileLevel, exists_compileAll]
  constructor
  · intro h f hf
    exact (exists_compileField_iff (hproperties f hf)).mp (h f (mem_sortByOrder.mpr hf))
  · intro h f hf
    have hf := mem_sortByOrder.mp hf
    exact (exists_compileField_iff (hproperties f hf)).mpr (h f hf)

/-- Made from a field without properties and without being required, a leaf has no rules. -/
theorem leaves_of_makes {fields : List FieldSchema} {compiled : List CompiledField}
    (hmakes : List.Forall₂ Makes fields compiled)
    (hplain : ∀ f ∈ fields, f.properties = none ∧ f.required = false)
    (haddr : ∀ c ∈ compiled, Addressed [] c) :
    (leavesOf compiled).map LeafField.fullName = fields.map (·.name) ∧
      ∀ leaf ∈ leavesOf compiled, leaf.rules = [] := by
  induction hmakes with
  | nil => exact ⟨rfl, List.forall_mem_nil _⟩
  | @cons f c fields compiled hmakes _ ih =>
    obtain ⟨⟨hproperties, hrequired⟩, hplain⟩ := List.forall_mem_cons.mp hplain
    obtain ⟨haddr, haddrs⟩ := List.forall_mem_cons.mp haddr
    obtain ⟨hnames, hrules⟩ := ih hplain haddrs
    cases hmakes with
    | group path _ h => exact absurd h (nestedFields_ne_ok hproperties)
    | repeated path _ h => exact absurd h (nestedFields_ne_ok hproperties)
    | leaf path initial =>
      have hpath : path = [.key f.name] := haddr.path_eq
      have hown : f.rules = [] := by
        simp [rules, hrequired, bound?, property?, hproperties]
      rw [leavesOf, leaves]
      refine ⟨?_, List.forall_mem_cons.mpr ⟨hown, hrules⟩⟩
      rw [List.singleton_append, List.map_cons, List.map_cons, hnames, LeafField.fullName, hpath]
      rfl

end FieldSchema

theorem SearchQuery.filter_amended_singleton (conditions : List SearchCondition)
    (c : SearchCondition) :
    (amended conditions [c]).filter (fun d => d.field = c.field) =
        (if isCleared c.value then [] else [c]) ∧
      (amended conditions [c]).filter (fun d => d.field ≠ c.field) =
        conditions.filter (fun d => d.field ≠ c.field) := by
  have hnone : (conditions.filter (fun d => d.field ≠ c.field)).filter
      (fun d => d.field = c.field) = [] := by
    apply List.filter_eq_nil_iff.mpr
    intro d hd heq
    exact of_decide_eq_true (List.mem_filter.mp hd).2 (of_decide_eq_true heq)
  have hself : (conditions.filter (fun d => d.field ≠ c.field)).filter
      (fun d => d.field ≠ c.field) = conditions.filter (fun d => d.field ≠ c.field) := by
    rw [List.filter_filter]
    simp only [Bool.and_self]
  have happend := amended_append conditions [] c
  rw [amended_nil, List.nil_append] at happend
  rw [happend, List.filter_append, List.filter_append, hnone, hself]
  cases isCleared c.value with
  | true => simp
  | false => simp

namespace ColumnSchema

open SearchQuery (asks? conditions_applyChange defaultOperator filter_amended_singleton isCleared)

variable {columns : List ColumnSchema}

theorem plain_of_mem_searchFields {f : FieldSchema} (h : f ∈ searchFields columns) :
    f.properties = none ∧ f.required = false ∧ f.orderKey = .zero := by
  obtain ⟨c, _, filter, _, rfl⟩ := mem_searchFields.mp h
  exact ⟨rfl, rfl, rfl⟩

theorem exists_compile_searchForm_iff (columns : List ColumnSchema) :
    (∃ form, CompiledForm.compile (searchForm columns) none = .ok form) ↔
      ∀ c ∈ columns, ∀ filter, c.activeFilter? = some filter →
        filter.kind ≠ some .object ∧ filter.kind ≠ some .objectArray := by
  have hproperties : ∀ f ∈ searchFields columns, f.properties = none :=
    fun f hf => (plain_of_mem_searchFields hf).1
  have hfields : (∃ form, CompiledForm.compile (searchForm columns) none = .ok form) ↔
      ∃ fields, FieldSchema.compile (searchFields columns) [] (.values none) = .ok fields := by
    constructor
    · rintro ⟨form, h⟩
      exact ⟨form.fields, CompiledForm.fields_of_compile h⟩
    · rintro ⟨fields, h⟩
      exact ⟨⟨fields, "", none⟩, by rw [CompiledForm.compile, searchForm, h]; rfl⟩
  rw [hfields, exists_compile_iff hproperties]
  constructor
  · intro h c hc filter hfilter
    have hkind := h _ (mem_searchFields.mpr ⟨c, hc, filter, hfilter, rfl⟩)
    constructor
    · intro hobject
      exact hkind.1 (by rw [hobject]; rfl)
    · intro harray
      exact hkind.2 (by rw [harray]; rfl)
  · intro h f hf
    obtain ⟨c, hc, filter, hfilter, rfl⟩ := mem_searchFields.mp hf
    obtain ⟨hobject, harray⟩ := h c hc filter hfilter
    cases hkind : filter.kind with
    | none => exact ⟨by simp [ofName, withLabel], by simp [ofName, withLabel]⟩
    | some kind =>
      rw [hkind] at hobject harray
      exact ⟨fun heq => hobject (congrArg some heq), fun heq => harray (congrArg some heq)⟩

theorem leaves_searchForm {form : CompiledForm}
    (h : CompiledForm.compile (searchForm columns) none = .ok form) :
    form.leaves.map LeafField.fullName =
        (columns.filter (fun c => c.activeFilter?.isSome)).map (·.dataIndex) ∧
      ∀ leaf ∈ form.leaves, leaf.rules = [] := by
  have hordered : Ordered (searchFields columns) := by
    apply List.Pairwise.imp_of_mem (R := fun _ _ => True)
    · intro f g hf hg _
      have hsame : f.orderKey = g.orderKey :=
        (plain_of_mem_searchFields hf).2.2.trans (plain_of_mem_searchFields hg).2.2.symm
      exact Int.le_of_eq (congrArg Binary64.totalKey hsame)
    · exact List.pairwise_of_forall (fun _ _ => trivial)
  have hmakes := makes_of_compile (CompiledForm.fields_of_compile h)
  rw [searchForm, sortByOrder_of_ordered hordered] at hmakes
  rw [← map_name_searchFields, CompiledForm.leaves]
  apply leaves_of_makes hmakes
  · intro f hf
    exact ⟨(plain_of_mem_searchFields hf).1, (plain_of_mem_searchFields hf).2.1⟩
  · exact CompiledForm.addressed_of_compile h

theorem asks?_of_firstActive? {name : String} {column : ColumnSchema} {filter : Filterable}
    (hcolumn : firstActive? columns name = some column)
    (hfilter : column.activeFilter? = some filter) (value : Json) :
    asks? columns (name, value) =
      some ⟨filter.searchField.getD column.dataIndex, filter.operator.getD defaultOperator,
        value⟩ := by
  rw [asks?, hcolumn, Option.bind_eq_bind, Option.bind_some, hfilter]
  rfl

theorem asks?_of_not_mem {name : String} (h : name ∉ (searchFields columns).map (·.name))
    (value : Json) : asks? columns (name, value) = none := by
  have hnone : firstActive? columns name = none := by
    cases hfirst : firstActive? columns name with
    | none => rfl
    | some column => exact absurd (exists_firstActive?_iff.mp ⟨column, hfirst⟩) h
  rw [asks?, hnone]
  rfl

/-- The search form compiles unless an active column asks for a nested field, it has one leaf
without rules for each active column, and an edit is taken for the names of its fields alone: it
acts on the remote field of the first active column of the name, and on no other field. -/
theorem searchForm_agrees_with_edits (columns : List ColumnSchema) :
    ((∃ form, CompiledForm.compile (searchForm columns) none = .ok form) ↔
      ∀ c ∈ columns, ∀ filter, c.activeFilter? = some filter →
        filter.kind ≠ some .object ∧ filter.kind ≠ some .objectArray) ∧
    (∀ form, CompiledForm.compile (searchForm columns) none = .ok form →
      form.leaves.map LeafField.fullName =
          (columns.filter (fun c => c.activeFilter?.isSome)).map (·.dataIndex) ∧
        ∀ leaf ∈ form.leaves, leaf.rules = []) ∧
    ∀ (q : SearchQuery) (name : String) (value : Json), q.OnePerField →
      (name ∉ (searchFields columns).map (·.name) →
        q.applyChange [(name, value)] columns = q) ∧
      (name ∈ (searchFields columns).map (·.name) →
        ∃ column filter asked, firstActive? columns name = some column ∧
          column.activeFilter? = some filter ∧
          asked = ⟨filter.searchField.getD column.dataIndex,
            filter.operator.getD defaultOperator, value⟩ ∧
          (q.applyChange [(name, value)] columns).conditions.filter
              (fun c => c.field = asked.field) =
            (if isCleared value then [] else [asked]) ∧
          (q.applyChange [(name, value)] columns).conditions.filter
              (fun c => c.field ≠ asked.field) =
            q.conditions.filter (fun c => c.field ≠ asked.field)) := by
  refine ⟨exists_compile_searchForm_iff columns, fun form h => leaves_searchForm h, ?_⟩
  intro q name value hq
  have hedit := conditions_applyChange hq columns [(name, value)]
  constructor
  · intro hname
    rw [List.filterMap_cons_none (asks?_of_not_mem hname value), List.filterMap_nil,
      SearchQuery.amended_nil] at hedit
    exact congrArg SearchQuery.mk hedit
  · intro hname
    obtain ⟨column, hcolumn⟩ := exists_firstActive?_iff.mpr hname
    have hactive : column.activeFilter?.isSome := by
      have hfound := List.find?_some hcolumn
      simp only [Bool.and_eq_true] at hfound
      exact hfound.2
    obtain ⟨filter, hfilter⟩ := Option.isSome_iff_exists.mp hactive
    rw [List.filterMap_cons_some (asks?_of_firstActive? hcolumn hfilter value),
      List.filterMap_nil] at hedit
    refine ⟨column, filter, _, hcolumn, hfilter, rfl, ?_⟩
    rw [hedit]
    exact filter_amended_singleton q.conditions _

/-- Visits are searched by the name of the owner, in two ways, and by town. -/
def visitColumns : List ColumnSchema :=
  [(ColumnSchema.ofIndex "owner.name").withFilter { searchField := some "id" },
    (ColumnSchema.ofIndex "owner.name").withFilter { apply := true, searchField := some "name" },
    (ColumnSchema.ofIndex "owner.name").withFilter { apply := true, kind := some .select },
    ColumnSchema.ofIndex "age",
    (ColumnSchema.ofIndex "town").withFilter { apply := true }]

open SearchQuery (peopleQuery) in
theorem visits_searched_by_owner :
    (∃ form, CompiledForm.compile (searchForm visitColumns) none = .ok form ∧
      form.leaves.map LeafField.fullName = ["owner.name", "owner.name", "town"]) ∧
    peopleQuery.OnePerField ∧
    "age" ∉ (searchFields visitColumns).map (·.name) ∧
    peopleQuery.applyChange [("age", .int 4)] visitColumns = peopleQuery ∧
    "owner.name" ∈ (searchFields visitColumns).map (·.name) ∧
    ((peopleQuery.applyChange [("owner.name", .str "eve")] visitColumns).conditions.filter
      (fun c => c.field ≠ "name")).map (·.field) = ["town", "age"] := by
  obtain ⟨hcompiles, hleaves, hedits⟩ := searchForm_agrees_with_edits visitColumns
  have hkinds : ∀ c ∈ visitColumns, ∀ filter, c.activeFilter? = some filter →
      filter.kind ≠ some .object ∧ filter.kind ≠ some .objectArray := hcompiles.mp ⟨_, rfl⟩
  obtain ⟨form, hform⟩ := hcompiles.mpr hkinds
  have hquery : peopleQuery.OnePerField := by decide
  have hage : "age" ∉ (searchFields visitColumns).map (·.name) := by decide
  have howner : "owner.name" ∈ (searchFields visitColumns).map (·.name) := by decide
  refine ⟨⟨form, hform, (hleaves form hform).1⟩, hquery, hage,
    (hedits peopleQuery "age" (.int 4) hquery).1 hage, howner, ?_⟩
  obtain ⟨column, filter, asked, hcolumn, hfilter, rfl, _, hothers⟩ :=
    (hedits peopleQuery "owner.name" (.str "eve") hquery).2 howner
  cases hcolumn
  cases hfilter
  exact congrArg (List.map (·.field)) hothers

end ColumnSchema

end UiSchema
