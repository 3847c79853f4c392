import UiSchema.Lookup.Source
import UiSchema.Proofs.Decode.Codec
import UiSchema.Proofs.Remote

/-!
# The options of a source

Requests to an option source are served one after another, each from what the one before it left.
Two of them give the source another list, and only one can make the list longer. So the options are
those of the last list that was given, and after them the ones created since.
-/

namespace UiSchema

set_option autoImplicit false

namespace LookupProperties

/-- Options may be added under the label, and are created at the URL. -/
def MayAdd (p : LookupProperties) (label url : String) : Prop :=
  p.allowAddNew = true ∧ p.createAction = some url ∧ label ≠ ""

theorem MayAdd.unique {p : LookupProperties} {label url url' : String} (h : p.MayAdd label url)
    (h' : p.MayAdd label url') : url = url' :=
  Option.some.inj (h.2.1.symm.trans h'.2.1)

/-- What a response offers: an option for each item if it is a list of objects, and else nothing. -/
structure Offers (p : LookupProperties) (response : Except TransportError Json)
    (options : List LookupOption) : Prop where
  mapped : ∀ items : List (Dict Json), response = .ok (.arr (items.map .obj)) →
    options = items.map (fun item => LookupOption.ofItem item p.resultMap)
  empty : (∀ items : List (Dict Json), response ≠ .ok (.arr (items.map .obj))) → options = []

end LookupProperties

namespace LookupSource

inductive Request where
  | load
  | search (query : String)
  | burst (queries : List (Nat × String))
  | setOptions (options : List LookupOption)
  | addNew (label : String)

def Request.Replaces : Request → Prop
  | .load => True
  | .setOptions _ => True
  | .search _ => False
  | .burst _ => False
  | .addNew _ => False

/-- The option that a request creates, if it does, and the source after it. -/
def request (s : LookupSource) (t : Transport) :
    Request → Remote (Option LookupOption × LookupSource)
  | .load => do
    let s ← s.load t
    return (none, s)
  | .search query => do
    let (_, s) ← s.search t query
    return (none, s)
  | .burst queries => do
    let (_, s) ← s.burst t queries
    return (none, s)
  | .setOptions options => return (none, s.setOptions options)
  | .addNew label => s.addNew t label

/-- A request that was served: the source and the journal it met, and what it left. -/
structure Served where
  request : Request
  before : LookupSource
  earlier : Journal
  created : Option LookupOption
  after : LookupSource
  later : Journal

def serve (t : Transport) (s : LookupSource) (j : Journal) (r : Request) : Served :=
  let ((created, after), later) := (s.request t r).run j
  ⟨r, s, j, created, after, later⟩

def serveAll (t : Transport) : LookupSource → Journal → List Request → List Served × LookupSource
  | s, _, [] => ([], s)
  | s, j, r :: rest =>
    let e := serve t s j r
    let (log, last) := serveAll t e.after e.later rest
    (e :: log, last)

namespace Served

/-- A label was added. It is posted if it may be, once, and the source has one more option exactly
if the post was answered with an object. -/
structure Adds (t : Transport) (label : String) (e : Served) : Prop where
  posts : ∀ url, e.before.properties.MayAdd label url →
    e.later.calls = e.earlier.calls ++ [.post url (.obj [("label", .str label)])]
  refuses : (∀ url, ¬e.before.properties.MayAdd label url) → e.later.calls = e.earlier.calls
  creates : ∀ option, e.created = some option ↔ ∃ url item,
    e.before.properties.MayAdd label url ∧
      t.post e.earlier.calls url (.obj [("label", .str label)]) = .ok (.obj item) ∧
      option = LookupOption.ofItem item e.before.properties.resultMap
  appends : ∀ option,
    e.created = some option ↔ e.after.options = e.before.options ++ [option]
  keeps : e.created = none → e.after.options = e.before.options

/-- What was served does to the options what was requested. Only adding a label can create one. -/
def Fulfils (t : Transport) (e : Served) : Prop :=
  match e.request with
  | .load => e.created = none ∧
    e.before.properties.Offers (t.get e.earlier.calls e.before.properties.fetchAction) e.after.options
  | .search _ => e.created = none ∧ e.after.options = e.before.options
  | .burst _ => e.created = none ∧ e.after.options = e.before.options
  | .setOptions options => e.created = none ∧ e.after.options = options
  | .addNew label => e.Adds t label

end Served

/-- The options are those of the last list the source was given, and all that were created since. -/
structure Listed (t : Transport) (s : LookupSource) (requests : List Request) (log : List Served)
    (last : LookupSource) : Prop where
  requests : log.map (·.request) = requests
  fulfils : ∀ e ∈ log, e.before.properties = s.properties ∧ e.Fulfils t
  never : (∀ e ∈ log, ¬e.request.Replaces) →
    last.options = s.options ++ log.filterMap (·.created)
  since : ∀ earlier e since, log = earlier ++ e :: since → e.request.Replaces →
    (∀ e' ∈ since, ¬e'.request.Replaces) →
    last.options = e.after.options ++ since.filterMap (·.created)

end LookupSource

theorem Codec.decode_list_properties {body : Json} {items : List (Dict Json)} :
    (Codec.list .properties).decode body = .ok items ↔ body = .arr (items.map .obj) := by
  constructor
  · intro h
    cases body with
    | arr values =>
      simp only [Codec.list] at h
      refine congrArg Json.arr ?_
      induction values generalizing items with
      | nil =>
        cases h
        rfl
      | cons v rest ih =>
        simp only [decodeItems, bind_eq_ok, Except.ok.injEq] at h
        obtain ⟨fields, hfields, others, hrest, rfl⟩ := h
        rw [List.map_cons, ← ih hrest]
        cases v with
        | obj entries =>
          cases hfields
          rfl
        | _ => cases hfields
    | _ => cases h
  · rintro rfl
    exact decodeItems_map (fun _ _ => rfl)

namespace LookupProperties

theorem offers_fetchOptions (p : LookupProperties) (t : Transport) (query : Option String)
    (j : Journal) :
    p.Offers (t.get j.calls (searchUrl p.fetchAction p.searchField query))
      ((p.fetchOptions t query).run j).1 := by
  have hanswer (items : List (Dict Json)) :
      ((Remote.fetchAs (.list .properties) t
          (searchUrl p.fetchAction p.searchField query)).run j).1 = .ok items ↔
        t.get j.calls (searchUrl p.fetchAction p.searchField query) =
          .ok (.arr (items.map .obj)) := by
    refine bind_eq_ok.trans ?_
    simp only [mapError_eq_ok, Codec.decode_list_properties, exists_eq_right]
  rw [fetchOptions, Remote.run_bind]
  constructor
  · intro items hitems
    rw [(hanswer items).mpr hitems]
    rfl
  · intro hother
    split
    · next items hitems => exact absurd ((hanswer items).mp hitems) (hother items)
    · rfl

end LookupProperties

namespace LookupSource

section Adding

variable {t : Transport} {s : LookupSource} {label url : String} {j : Journal}

theorem mayAdd_iff (haction : s.properties.createAction = some url) :
    s.properties.MayAdd label url ↔ (!s.properties.allowAddNew || label == "") = false := by
  simp [LookupProperties.MayAdd, haction]

/-- What becomes of a label: no call is made for it, or the answer to its post is no object, or the
object becomes an option. -/
inductive Added (t : Transport) (s : LookupSource) (label : String) (j : Journal) :
    (Option LookupOption × LookupSource) × Journal → Prop where
  | refused (hmay : ∀ url, ¬s.properties.MayAdd label url) : Added t s label j ((none, s), j)
  | failed {url : String} {notices : List Notice} (hurl : s.properties.MayAdd label url)
      (hpost : ∀ item, t.post j.calls url (.obj [("label", .str label)]) ≠ .ok (.obj item)) :
      Added t s label j
        ((none, s), ⟨j.calls ++ [.post url (.obj [("label", .str label)])], notices⟩)
  | created {url : String} {item : Dict Json} (hurl : s.properties.MayAdd label url)
      (hpost : t.post j.calls url (.obj [("label", .str label)]) = .ok (.obj item)) :
      Added t s label j
        ((some (LookupOption.ofItem item s.properties.resultMap),
          { s with options := s.options ++ [LookupOption.ofItem item s.properties.resultMap] }),
          { j with calls := j.calls ++ [.post url (.obj [("label", .str label)])] })

theorem added_addNew (t : Transport) (s : LookupSource) (label : String) (j : Journal) :
    Added t s label j ((s.addNew t label).run j) := by
  rw [addNew]
  cases haction : s.properties.createAction with
  | none => exact .refused fun url hurl => absurd (haction.symm.trans hurl.2.1) nofun
  | some url =>
    cases hguard : !s.properties.allowAddNew || label == "" with
    | true =>
      refine .refused fun url' hurl' => ?_
      obtain rfl := Option.some.inj (haction.symm.trans hurl'.2.1)
      rw [mayAdd_iff haction, hguard] at hurl'
      cases hurl'
    | false =>
      have hurl := (mayAdd_iff haction).mpr hguard
      simp only [Bool.false_eq_true, if_false]
      rw [Remote.run_bind, Remote.run_post]
      cases hpost : t.post j.calls url (.obj [("label", .str label)]) with
      | error errors => exact .failed hurl (by simp [hpost])
      | ok body =>
        cases body with
        | obj item => exact .created hurl hpost
        | _ => exact .failed hurl (by simp [hpost])

theorem Added.properties {result : (Option LookupOption × LookupSource) × Journal}
    (h : Added t s label j result) : result.1.2.properties = s.properties := by
  cases h <;> rfl

theorem Added.adds {result : (Option LookupOption × LookupSource) × Journal}
    (h : Added t s label j result) :
    Served.Adds t label ⟨.addNew label, s, j, result.1.1, result.1.2, result.2⟩ := by
  have hsame (option : LookupOption) : s.options ≠ s.options ++ [option] := by simp
  cases h with
  | refused hmay =>
    refine ⟨fun url hurl => absurd hurl (hmay url), fun _ => rfl, fun option => ⟨nofun, ?_⟩,
      fun option => ⟨nofun, fun happend => absurd happend (hsame option)⟩, fun _ => rfl⟩
    rintro ⟨url, _, hurl, _⟩
    exact absurd hurl (hmay url)
  | failed hurl hpost =>
    refine ⟨?_, fun hno => absurd hurl (hno _), fun option => ⟨nofun, ?_⟩,
      fun option => ⟨nofun, fun happend => absurd happend (hsame option)⟩, fun _ => rfl⟩
    · intro url' hurl'
      rw [hurl'.unique hurl]
    · rintro ⟨url', item, hurl', hpost', _⟩
      rw [hurl'.unique hurl] at hpost'
      exact absurd hpost' (hpost item)
  | created hurl hpost =>
    refine ⟨?_, fun hno => absurd hurl (hno _), fun option => ⟨?_, ?_⟩, fun option => ⟨?_, ?_⟩,
      nofun⟩
    · intro url' hurl'
      rw [hurl'.unique hurl]
    · rintro ⟨⟩
      exact ⟨_, _, hurl, hpost, rfl⟩
    · rintro ⟨url', item', hurl', hpost', rfl⟩
      rw [hurl'.unique hurl, hpost] at hpost'
      cases hpost'
      rfl
    · rintro ⟨⟩
      rfl
    · intro happend
      exact congrArg some (List.append_singleton_inj.mp happend).2

end Adding

theorem fulfils_serve (t : Transport) (s : LookupSource) (j : Journal) (r : Request) :
    (serve t s j r).Fulfils t := by
  cases r with
  | load => exact ⟨rfl, s.properties.offers_fetchOptions t none j⟩
  | search query => exact ⟨rfl, rfl⟩
  | burst queries => exact ⟨rfl, rfl⟩
  | setOptions options => exact ⟨rfl, rfl⟩
  | addNew label => exact (added_addNew t s label j).adds

theorem properties_serve (t : Transport) (s : LookupSource) (j : Journal) (r : Request) :
    (serve t s j r).after.properties = s.properties := by
  cases r with
  | addNew label => exact (added_addNew t s label j).properties
  | _ => rfl

/-- A request that gives no other list leaves the options, and behind them what it created. -/
theorem Served.Fulfils.after_options {t : Transport} {e : Served} (h : e.Fulfils t)
    (hkeeps : ¬e.request.Replaces) :
    e.after.options = e.before.options ++ e.created.toList := by
  rw [Served.Fulfils] at h
  cases hrequest : e.request with
  | load => exact absurd (hrequest ▸ trivial) hkeeps
  | setOptions options => exact absurd (hrequest ▸ trivial) hkeeps
  | search _ | burst _ =>
    rw [hrequest] at h
    rw [h.1, h.2]
    exact (List.append_nil _).symm
  | addNew label =>
    rw [hrequest] at h
    cases hcreated : e.created with
    | none =>
      rw [h.keeps hcreated]
      exact (List.append_nil _).symm
    | some option => exact (h.appends option).mp hcreated

theorem serveAll_cons (t : Transport) (s : LookupSource) (j : Journal) (r : Request)
    (rest : List Request) :
    serveAll t s j (r :: rest) =
      (serve t s j r ::
          (serveAll t (serve t s j r).after (serve t s j r).later rest).1,
        (serveAll t (serve t s j r).after (serve t s j r).later rest).2) := rfl

/-- In any sequence of requests, the options are the list that the last load fetched or the last
setting gave, or else what there was at the start, with every option behind it that was created from
then on. -/
theorem serveAll_listed (t : Transport) (s : LookupSource) (j : Journal)
    (requests : List Request) :
    Listed t s requests (serveAll t s j requests).1 (serveAll t s j requests).2 := by
  induction requests generalizing s j with
  | nil =>
    rw [serveAll]
    refine ⟨rfl, List.forall_mem_nil _, fun _ => (List.append_nil _).symm, ?_⟩
    intro earlier e since hlog
    exact absurd hlog.symm (List.append_ne_nil_of_right_ne_nil _ (List.cons_ne_nil e since))
  | cons r rest ih =>
    rw [serveAll_cons]
    have hrest := ih (serve t s j r).after (serve t s j r).later
    have hfulfils := fulfils_serve t s j r
    refine ⟨?_, ?_, ?_, ?_⟩
    · rw [List.map_cons, hrest.requests]
      rfl
    · rw [List.forall_mem_cons]
      refine ⟨⟨rfl, hfulfils⟩, fun e he => ?_⟩
      rw [← properties_serve t s j r]
      exact hrest.fulfils e he
    · -- no request gave another list: what was created first stands before the rest
      intro hnever
      rw [List.forall_mem_cons] at hnever
      rw [hrest.never hnever.2, hfulfils.after_options hnever.1, List.append_assoc,
        List.filterMap_cons]
      cases (serve t s j r).created with
      | none => rfl
      | some option => rfl
    · -- the last such request is this one or among the rest
      intro earlier e since hlog hreplaces hkeeps
      cases earlier with
      | nil =>
        rw [List.nil_append, List.cons.injEq] at hlog
        obtain ⟨rfl, rfl⟩ := hlog
        exact hrest.never hkeeps
      | cons e' earlier =>
        rw [List.cons_append, List.cons.injEq] at hlog
        exact hrest.since earlier e since hlog.2 hreplaces hkeeps

end LookupSource

end UiSchema
