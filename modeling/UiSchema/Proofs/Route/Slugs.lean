import UiSchema.Proofs.Dict
import UiSchema.Proofs.Json.Paths
import UiSchema.Proofs.Route.Cutting
import UiSchema.Proofs.Text.Dotted

/-!
# Slugged routes and nested parameters

A slugged route is cut like the route itself, with the dots of the names gone. Nesting the flat
parameters writes each of them at the pieces of its key, one after the other in the order of the
keys. A later write does not disturb an earlier one unless it goes through its place or ends above
it: the order of the keys rules out the latter, and a key that goes on with an underscore would be
needed for the former. So the dotted name finds in the nested parameters what its slug finds in the
flat ones.
-/

namespace UiSchema.Route

set_option autoImplicit false

def slug (name : List Char) : List Char := name.map slugChar

def Part.slugged : Part → Part
  | .char c => .char c
  | .slot name => .slot (slug name)

def Template.slugged (parts : Template) : Template := parts.map Part.slugged

section Slugging

variable {c : Char} {name text : List Char} {parts : Template}

theorem slugChar_slugChar (c : Char) : slugChar (slugChar c) = slugChar c := by
  by_cases h : c = '.'
  · rw [h]
    rfl
  · have hsame : slugChar c = c := if_neg h
    rw [hsame, hsame]

theorem isNameChar_slugChar (h : isNameChar c = true) : isNameChar (slugChar c) = true := by
  unfold slugChar
  split
  · rfl
  · exact h

theorem dot_not_mem_slug (name : List Char) : '.' ∉ slug name := by
  intro h
  obtain ⟨c, _, hc⟩ := List.mem_map.mp h
  unfold slugChar at hc
  split at hc
  · exact absurd hc (by decide)
  · rename_i hne
    exact hne hc

theorem Template.slugged_slugged (parts : Template) : parts.slugged.slugged = parts.slugged := by
  simp only [Template.slugged, List.map_map]
  apply List.map_congr_left
  intro part _
  cases part with
  | char c => rfl
  | slot name => simp [Part.slugged, slug, slugChar_slugChar]

theorem Template.fill_slugged (parts : Template) (f : List Char → List Char) :
    parts.slugged.fill f = parts.fill (fun name => f (slug name)) := by
  simp only [Template.fill, Template.slugged, List.flatMap_map]
  congr 1
  funext part
  cases part <;> rfl

theorem toList_slugged (route : String) :
    (slugged route).toList = (Template.ofText route.toList).slugged.text := by
  rw [slugged, String.toList_ofList, Template.text_eq_fill, Template.fill_slugged]
  rfl

/-- Slugging keeps the first character of a text. -/
theorem nameAhead_slugged : NameAhead parts.slugged.text ↔ NameAhead parts.text := by
  have hhead : parts.slugged.text.head? = parts.text.head? := by
    cases parts with
    | nil => rfl
    | cons part rest => cases part <;> rfl
  rw [NameAhead, hhead, NameAhead]

theorem Cuts.slugged (h : Cuts text parts) : Cuts parts.slugged.text parts.slugged := by
  induction h with
  | nil => exact .nil
  | char hplain hrest ih =>
    apply Cuts.char _ ih
    rintro ⟨hcolon, hahead⟩
    have hahead := nameAhead_slugged.mp hahead
    rw [hrest.text_eq] at hahead
    exact hplain ⟨hcolon, hahead⟩
  | slot hne hname hend hrest ih =>
    apply Cuts.slot (mt List.map_eq_nil_iff.mp hne) _ _ ih
    · intro c hc
      obtain ⟨d, hd, rfl⟩ := List.mem_map.mp hc
      exact isNameChar_slugChar (hname d hd)
    · rw [← hrest.text_eq] at hend
      exact mt nameAhead_slugged.mp hend

theorem cuts_slugged (route : String) :
    Cuts (slugged route).toList (Template.ofText route.toList).slugged := by
  rw [toList_slugged]
  exact (cuts_ofText route.toList).slugged

theorem slugged_slugged (route : String) : slugged (slugged route) = slugged route := by
  rw [← String.toList_inj, toList_slugged, ← cuts_iff.mp (cuts_slugged route),
    Template.slugged_slugged, toList_slugged]

end Slugging

section Nesting

variable {names : List String} {key later : String} {v w : Json}

/-- Where the value of a flat key is nested. -/
def nestPath (key : String) : FieldPath := (Text.splitOn '_' key).map Step.key

theorem splitOn_ne_nil (key : String) : Text.splitOn '_' key ≠ [] :=
  mt List.map_eq_nil_iff.mp (Text.pieces_ne_nil '_' key.toList)

theorem getLast?_nestPath (key : String) : ∃ name, (nestPath key).getLast? = some (.key name) := by
  refine ⟨(Text.splitOn '_' key).getLast (splitOn_ne_nil key), ?_⟩
  rw [nestPath, List.getLast?_map, List.getLast?_eq_some_getLast (splitOn_ne_nil key)]
  rfl

/-- What is no object is entered as one without fields. -/
theorem insertAt_cons_cons (name next : String) (rest : List String) (v : Json) (root : Dict Json) :
    insertAt (name :: next :: rest) v root = Dict.insert root name
      (.obj (insertAt (next :: rest) v ((Dict.get? root name).getD .null).objectFields)) := by
  cases hslot : Dict.get? root name with
  | none => simp only [insertAt, hslot, Option.getD_none, Json.objectFields]
  | some slot => cases slot <;> simp only [insertAt, hslot, Option.getD_some, Json.objectFields]

theorem obj_insertAt (hne : names ≠ []) (v : Json) (root : Dict Json) :
    Json.obj (insertAt names v root) = (Json.obj root).writeAt (names.map Step.key) v := by
  induction names generalizing root with
  | nil => exact absurd rfl hne
  | cons name rest ih =>
    cases rest with
    | nil => rfl
    | cons next rest =>
      rw [insertAt_cons_cons, ih (List.cons_ne_nil next rest)]
      rfl

def writeAll (entries : Dict Json) (document : Json) : Json :=
  entries.foldl (fun nested e => nested.writeAt (nestPath e.1) e.2) document

theorem obj_foldl_insertAt (flat root : Dict Json) :
    Json.obj (flat.foldl (fun root e => insertAt (Text.splitOn '_' e.1) e.2 root) root) =
      writeAll flat (.obj root) := by
  induction flat generalizing root with
  | nil => rfl
  | cons e rest ih =>
    rw [List.foldl_cons, ih, obj_insertAt (splitOn_ne_nil e.1)]
    rfl

theorem readAt_writeAll_of_diverges {entries : Dict Json}
    (h : ∀ e ∈ entries, (nestPath e.1).Diverges (nestPath key)) (document : Json) :
    (writeAll entries document).readAt (nestPath key) = document.readAt (nestPath key) := by
  obtain ⟨name, hlast⟩ := getLast?_nestPath key
  unfold writeAll
  induction entries generalizing document with
  | nil => rfl
  | cons e rest ih =>
    obtain ⟨he, hrest⟩ := List.forall_mem_cons.mp h
    rw [List.foldl_cons, ih hrest, Json.readAt_writeAt_of_diverges he hlast]

theorem nestPath_diverges (hlt : key < later) (h : ¬key.toList ++ ['_'] <+: later.toList) :
    (nestPath later).Diverges (nestPath key) := by
  rcases FieldPath.prefix_or_diverges (Text.splitOn '_' later) (Text.splitOn '_' key)
    with habove | hbelow | hparts
  · have hprefix : later.toList <+: key.toList := by
      rcases Text.splitOn_prefix habove with rfl | hprefix
      · exact List.prefix_rfl
      · exact (List.prefix_append _ _).trans hprefix
    exact absurd (String.lt_iff.mp hlt) hprefix.le
  · rcases Text.splitOn_prefix hbelow with rfl | hprefix
    · exact absurd hlt Std.lt_irrefl
    · exact absurd hprefix h
  · exact hparts

theorem readAt_nestSlugged {flat : Dict Json} (hflat : Dict.Ascending flat)
    (hentry : (key, v) ∈ flat)
    (hexposed : ∀ other ∈ Dict.keys flat, ¬key.toList ++ ['_'] <+: other.toList) :
    (nestSlugged flat).readAt (nestPath key) = some v := by
  obtain ⟨front, back, rfl⟩ := List.append_of_mem hentry
  have hback : ∀ e ∈ back, (nestPath e.1).Diverges (nestPath key) := by
    intro e he
    have hlater : key < e.1 := (List.pairwise_cons.mp (List.pairwise_append.mp hflat).2.1).1 e he
    have hmem : e ∈ front ++ (key, v) :: back :=
      List.mem_append_right front (List.mem_cons_of_mem _ he)
    exact nestPath_diverges hlater (hexposed e.1 (List.mem_map_of_mem hmem))
  rw [nestSlugged, obj_foldl_insertAt, writeAll, List.foldl_append, List.foldl_cons, ← writeAll,
    ← writeAll, readAt_writeAll_of_diverges hback, Json.readAt_writeAt_self]

theorem follow_of_readAt (h : v.readAt (names.map Step.key) = some w) :
    follow v names = some w := by
  induction names generalizing v with
  | nil => exact h
  | cons name rest ih =>
    obtain ⟨part, hpart, hrest⟩ := Option.bind_eq_some_iff.mp h
    rw [Json.step?_key] at hpart
    have hmember : member? v name = some part := by
      cases v with
      | obj fields => exact hpart
      | _ => cases hpart
    rw [follow, hmember]
    exact ih hrest

end Nesting

section Resolving

variable {name : List Char} {parts : Template} {flat : Dict Json} {v : Json} {text : String}

/-- The values with a text: strings, numbers and booleans. -/
def IsScalar : Json → Prop
  | .str _ | .int _ | .float _ | .bool _ => True
  | _ => False

theorem exists_scalarText (h : IsScalar v) : ∃ text, scalarText? v = some text := by
  cases v with
  | str _ | int _ | float _ | bool _ => exact ⟨_, rfl⟩
  | null | arr _ | obj _ => cases h

/-- Flat parameters for a template: under the slug of each name a scalar, and nothing below it. -/
structure Serves (flat : Dict Json) (parts : Template) : Prop where
  ascending : Dict.Ascending flat
  plain : ∀ name, .slot name ∈ parts → '_' ∉ name
  scalar : ∀ name, .slot name ∈ parts →
    ∃ v, Dict.get? flat (String.ofList (slug name)) = some v ∧ IsScalar v
  exposed : ∀ name, .slot name ∈ parts → ∀ key ∈ Dict.keys flat, ¬slug name ++ ['_'] <+: key.toList

theorem slotText_of_parameter {source : Json} (h : parameter? source (String.ofList name) = some v)
    (htext : scalarText? v = some text) : slotText source name = text.toList := by
  rw [slotText, h, Option.bind_some, htext]

theorem splitOn_slug (h : '_' ∉ name) :
    Text.splitOn '_' (String.ofList (slug name)) = Text.splitOn '.' (String.ofList name) := by
  have hpieces : Text.pieces '_' (slug name) = Text.pieces '.' name := by
    induction name with
    | nil => rfl
    | cons c name ih =>
      obtain ⟨hc, hname⟩ := not_or.mp (mt List.mem_cons.mpr h)
      have ih := ih hname
      rw [slug] at ih
      rw [slug, List.map_cons, Text.pieces, Text.pieces, ih]
      by_cases hdot : c = '.'
      · rw [slugChar, if_pos hdot, if_pos rfl, if_pos hdot]
      · rw [slugChar, if_neg hdot, if_neg (Ne.symm hc), if_neg hdot]
  rw [Text.splitOn, Text.splitOn, String.toList_ofList, String.toList_ofList, hpieces]

theorem parameter?_flat (h : Dict.get? flat (String.ofList (slug name)) = some v) :
    parameter? (.obj flat) (String.ofList (slug name)) = some v := by
  have hsingle : Text.splitOn '.' (String.ofList (slug name)) = [String.ofList (slug name)] := by
    rw [Text.splitOn, String.toList_ofList, Text.pieces_of_not_mem (dot_not_mem_slug name)]
    rfl
  have hlookup : lookup (.obj flat) (String.ofList (slug name)) = some v := by
    rw [lookup, hsingle, follow, member?, h]
    rfl
  rw [parameter?, hlookup, Option.some_or]

theorem parameter?_nested (hserves : Serves flat parts) (hslot : .slot name ∈ parts)
    (h : Dict.get? flat (String.ofList (slug name)) = some v) :
    parameter? (nestSlugged flat) (String.ofList name) = some v := by
  have hread : (nestSlugged flat).readAt (nestPath (String.ofList (slug name))) = some v := by
    apply readAt_nestSlugged hserves.ascending (Dict.mem_of_get? h)
    rw [String.toList_ofList]
    exact hserves.exposed name hslot
  rw [nestPath, splitOn_slug (hserves.plain name hslot)] at hread
  have hlookup : lookup (nestSlugged flat) (String.ofList name) = some v := follow_of_readAt hread
  rw [parameter?, hlookup, Option.some_or]

theorem slotText_nested (hserves : Serves flat parts) (hslot : .slot name ∈ parts) :
    slotText (nestSlugged flat) name = slotText (.obj flat) (slug name) := by
  obtain ⟨v, hv, hscalar⟩ := hserves.scalar name hslot
  obtain ⟨text, htext⟩ := exists_scalarText hscalar
  rw [slotText_of_parameter (parameter?_nested hserves hslot hv) htext,
    slotText_of_parameter (parameter?_flat hv) htext]

/-- Slugging keeps the cut of a route and everything between its placeholders; a second time it
changes nothing. With parameters that serve the route, the slugged route filled in from the flat
ones is the route filled in from the nested ones. -/
theorem slugged_agrees_with_nested (route : String) :
    (∀ parts, Cuts route.toList parts ↔ parts = Template.ofText route.toList) ∧
      Cuts (slugged route).toList (Template.ofText route.toList).slugged ∧
      slugged (slugged route) = slugged route ∧
      ∀ flat, Serves flat (Template.ofText route.toList) →
        resolve route (nestSlugged flat) none = resolve (slugged route) (.obj flat) none := by
  refine ⟨fun parts => cuts_iff, cuts_slugged route, slugged_slugged route, ?_⟩
  intro flat hserves
  have hcut := cuts_iff.mp (cuts_slugged route)
  rw [resolve, resolve, ← hcut, Template.fill_slugged]
  apply congrArg String.ofList
  apply Template.fill_congr
  intro name hslot
  exact slotText_nested hserves hslot

def profileRoute : String := "/users/:user.name/:page"

/-- The plain value of the user gives way to the entries below it. -/
def profileParameters : Dict Json :=
  [("page", .str "1"), ("user", .bool true), ("user_id", .int 2), ("user_name", .str "ann")]

theorem slot_mem_profileRoute (h : .slot name ∈ Template.ofText profileRoute.toList) :
    name = "user.name".toList ∨ name = "page".toList := by
  have hparts : Template.ofText profileRoute.toList = "/users/".toList.map Part.char ++
      [.slot "user.name".toList, .char '/', .slot "page".toList] := by decide
  rw [hparts] at h
  simpa using h

theorem profileParameters_serve :
    Serves profileParameters (Template.ofText profileRoute.toList) where
  ascending := by
    unfold Dict.Ascending
    decide
  plain name h := by
    rcases slot_mem_profileRoute h with rfl | rfl <;> decide
  scalar name h := by
    rcases slot_mem_profileRoute h with rfl | rfl
    · exact ⟨.str "ann", rfl, trivial⟩
    · exact ⟨.str "1", rfl, trivial⟩
  exposed name h := by
    rcases slot_mem_profileRoute h with rfl | rfl <;> decide

theorem profile_found_by_slug :
    Serves profileParameters (Template.ofText profileRoute.toList) ∧
      resolve profileRoute (nestSlugged profileParameters) none =
        resolve (slugged profileRoute) (.obj profileParameters) none := by
  refine ⟨profileParameters_serve, ?_⟩
  exact (slugged_agrees_with_nested profileRoute).2.2.2 _ profileParameters_serve

example : resolve profileRoute (nestSlugged profileParameters) none = "/users/ann/1" := by cbv

end Resolving

end UiSchema.Route
