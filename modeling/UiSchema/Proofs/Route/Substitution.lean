import Mathlib.Data.List.Forall2
import Mathlib.Data.List.TakeWhile
import UiSchema.Proofs.Route.Cutting

/-!
# Filling in a template

A template is cut from the left: at a colon in front of a name, the longest name there is a
placeholder. Filling in replaces every placeholder on its own and puts the results in a row, so
what is filled in is never cut again. What stands for a placeholder is said by relations: which
value a path leads to, which value a name finds, and which values have a text.
-/

namespace UiSchema.Route

set_option autoImplicit false

section Scanning

/-- The parts of a text, found from the left. -/
def scan : List Char → Template
  | [] => []
  | c :: rest =>
    if c = ':' ∧ rest.takeWhile isNameChar ≠ [] then
      .slot (rest.takeWhile isNameChar) :: scan (rest.dropWhile isNameChar)
    else .char c :: scan rest
termination_by text => text.length
decreasing_by
  · have hshorter := (List.dropWhile_sublist isNameChar (l := rest)).length_le
    simp only [List.length_cons]
    omega
  · simp only [List.length_cons]
    omega

variable {text rest : List Char}

theorem nameAhead_iff : NameAhead rest ↔ rest.takeWhile isNameChar ≠ [] := by
  cases rest with
  | nil => exact iff_of_false not_nameAhead_nil (not_not_intro rfl)
  | cons c rest =>
    rw [nameAhead_cons, List.takeWhile_cons]
    split
    · rename_i hname
      exact iff_of_true hname (List.cons_ne_nil _ _)
    · rename_i hname
      exact iff_of_false hname (not_not_intro rfl)

theorem not_nameAhead_dropWhile (text : List Char) : ¬NameAhead (text.dropWhile isNameChar) := by
  induction text with
  | nil => exact not_nameAhead_nil
  | cons c rest ih =>
    by_cases hname : isNameChar c = true
    · rwa [List.dropWhile_cons_of_pos hname]
    · rw [List.dropWhile_cons_of_neg hname]
      exact mt nameAhead_cons.mp hname

theorem cuts_scan (text : List Char) : Cuts text (scan text) := by
  induction text using scan.induct with
  | case1 =>
    rw [scan]
    exact .nil
  | case2 c rest hslot ih =>
    obtain ⟨hcolon, hne⟩ := hslot
    have hname : ∀ d ∈ rest.takeWhile isNameChar, isNameChar d = true :=
      fun d hd => List.mem_takeWhile_imp hd
    have hcut := Cuts.slot hne hname (not_nameAhead_dropWhile rest) ih
    rw [List.takeWhile_append_dropWhile] at hcut
    rw [scan, if_pos ⟨hcolon, hne⟩, hcolon]
    exact hcut
  | case3 c rest hplain ih =>
    rw [scan, if_neg hplain]
    refine .char ?_ ih
    rintro ⟨hcolon, hahead⟩
    exact hplain ⟨hcolon, nameAhead_iff.mp hahead⟩

theorem cuts_iff_scan {parts : Template} : Cuts text parts ↔ parts = scan text := by
  constructor
  · intro h
    exact h.unique (cuts_scan text)
  · rintro rfl
    exact cuts_scan text

theorem ofText_eq_scan (text : List Char) : Template.ofText text = scan text :=
  cuts_iff_scan.mp (cuts_ofText text)

end Scanning

section Indices

/-- Digits, perhaps behind a plus, that write a number of sixty-four bits. -/
def WritesIndex (name : String) (i : Nat) : Prop :=
  ∃ digits, digits ≠ [] ∧ (∀ c ∈ digits, c.isDigit = true) ∧
    (name.toList = digits ∨ name.toList = '+' :: digits) ∧
    i = Nat.ofDigitChars 10 digits 0 ∧ i < Nat.pow 2 64

variable {digits : List Char} {name : String} {i : Nat}

theorem readDigits_of_digits (h : ∀ c ∈ digits, c.isDigit = true) :
    Text.readDigits digits = (digits.map (fun c => c.toNat - '0'.toNat), []) := by
  induction digits with
  | nil => rfl
  | cons c rest ih =>
    obtain ⟨hc, hrest⟩ := List.forall_mem_cons.mp h
    rw [Text.readDigits, Text.digit?, if_pos hc]
    dsimp only
    rw [ih hrest]
    rfl

theorem digits_of_readDigits {ds : List Nat} (h : Text.readDigits digits = (ds, [])) :
    ∀ c ∈ digits, c.isDigit = true := by
  induction digits generalizing ds with
  | nil => exact List.forall_mem_nil _
  | cons c rest ih =>
    by_cases hc : c.isDigit = true
    · rw [Text.readDigits, Text.digit?, if_pos hc] at h
      obtain ⟨_, hleft⟩ := Prod.mk.inj h
      have hrest : Text.readDigits rest = ((Text.readDigits rest).1, []) := Prod.ext rfl hleft
      exact List.forall_mem_cons.mpr ⟨hc, ih hrest⟩
    · rw [Text.readDigits, Text.digit?, if_neg hc] at h
      cases h

theorem natOfDigits_eq (digits : List Char) :
    Text.natOfDigits 10 (digits.map (fun c => c.toNat - '0'.toNat)) =
      Nat.ofDigitChars 10 digits 0 := by
  rw [Text.natOfDigits, List.foldl_map, Nat.ofDigitChars_eq_foldl]

def number? (digits : List Char) : Option Nat :=
  match Text.readDigits digits with
  | (d :: ds, []) =>
    let n := Text.natOfDigits 10 (d :: ds)
    if n < Nat.pow 2 64 then some n else none
  | _ => none

theorem number?_eq_some : number? digits = some i ↔
    digits ≠ [] ∧ (∀ c ∈ digits, c.isDigit = true) ∧
      i = Nat.ofDigitChars 10 digits 0 ∧ i < Nat.pow 2 64 := by
  by_cases hdigits : ∀ c ∈ digits, c.isDigit = true
  · cases digits with
    | nil => exact iff_of_false nofun (fun h => h.1 rfl)
    | cons c rest =>
      have hvalue := natOfDigits_eq (c :: rest)
      rw [List.map_cons] at hvalue
      rw [number?, readDigits_of_digits hdigits, List.map_cons]
      dsimp only
      rw [hvalue]
      constructor
      · intro h
        split at h
        · rename_i hlt
          cases h
          exact ⟨List.cons_ne_nil c rest, hdigits, rfl, hlt⟩
        · cases h
      · rintro ⟨_, _, rfl, hlt⟩
        rw [if_pos hlt]
  · refine iff_of_false (fun h => ?_) (fun h => hdigits h.2.1)
    unfold number? at h
    split at h
    · rename_i hread
      exact hdigits (digits_of_readDigits hread)
    · cases h

def afterPlus : List Char → List Char
  | '+' :: rest => rest
  | text => text

theorem afterPlus_cases (text : List Char) :
    text = '+' :: afterPlus text ∨ (afterPlus text = text ∧ ∀ rest, text ≠ '+' :: rest) := by
  unfold afterPlus
  split
  · exact Or.inl rfl
  · rename_i hplain
    exact Or.inr ⟨rfl, hplain⟩

theorem index?_eq_number? (name : String) : index? name = number? (afterPlus name.toList) := rfl

theorem index?_eq_some : index? name = some i ↔ WritesIndex name i := by
  have hplus : ¬ '+'.isDigit = true := by decide
  rw [index?_eq_number?, number?_eq_some]
  constructor
  · rintro ⟨hne, hdigits, hvalue⟩
    refine ⟨afterPlus name.toList, hne, hdigits, ?_, hvalue⟩
    rcases afterPlus_cases name.toList with hform | ⟨hform, _⟩
    · exact Or.inr hform
    · exact Or.inl hform.symm
  · rintro ⟨digits, hne, hdigits, hname, hvalue⟩
    have hrest : afterPlus name.toList = digits := by
      rcases afterPlus_cases name.toList with hform | ⟨hform, hplain⟩
      · rcases hname with hname | hname
        -- a plus is no digit, so it is not the first of them
        · rw [← hname, hform] at hdigits
          exact absurd (hdigits '+' List.mem_cons_self) hplus
        · exact (List.cons.inj (hform.symm.trans hname)).2
      · rcases hname with hname | hname
        · exact hform.trans hname
        · exact absurd hname (hplain digits)
    rw [hrest]
    exact ⟨hne, hdigits, hvalue⟩

end Indices

section Values

/-- Names lead from a value to a part of it, through the fields of objects and the items of lists. -/
inductive Leads : Json → List String → Json → Prop
  | here (v : Json) : Leads v [] v
  | field {fields : Dict Json} {name : String} {rest : List String} {part v : Json} :
      Dict.get? fields name = some part → Leads part rest v → Leads (.obj fields) (name :: rest) v
  | item {items : List Json} {name : String} {i : Nat} {rest : List String} {part v : Json} :
      WritesIndex name i → items[i]? = some part → Leads part rest v →
      Leads (.arr items) (name :: rest) v

def LeadsAlong (v : Json) (path : String) (part : Json) : Prop :=
  Leads v (Text.splitOn '.' path) part

/-- Parameters are read at the payload path, and from the whole when there is no such path or it
leads nowhere. -/
inductive ReadsFrom (params : Json) : Option String → Json → Prop
  | payload {path : String} {source : Json} :
      LeadsAlong params path source → ReadsFrom params (some path) source
  | whole {payload : Option String} :
      (∀ path, payload = some path → ∀ source, ¬LeadsAlong params path source) →
      ReadsFrom params payload params

/-- A name finds a value: as a dotted path, or else as a key. -/
inductive Finds (source : Json) (name : String) : Json → Prop
  | dotted {v : Json} : LeadsAlong source name v → Finds source name v
  | key {fields : Dict Json} {v : Json} : (∀ w, ¬LeadsAlong source name w) →
      source = .obj fields → Dict.get? fields name = some v → Finds source name v

/-- The text of a string, of a number or of a boolean; other values have none. -/
inductive HasText : Json → List Char → Prop
  | string (s : String) : HasText (.str s) s.toList
  | integer (n : Int) : HasText (.int n) (Json.intText n)
  | float (x : Binary64) : HasText (.float x) (Json.float x).compact.toList
  | yes : HasText (.bool true) "true".toList
  | no : HasText (.bool false) "false".toList

inductive Replaces (source : Json) : Part → List Char → Prop
  | char (c : Char) : Replaces source (.char c) [c]
  | value {name : List Char} {v : Json} {text : List Char} :
      Finds source (String.ofList name) v → HasText v text → Replaces source (.slot name) text
  | itself {name : List Char} :
      (∀ v text, Finds source (String.ofList name) v → ¬HasText v text) →
      Replaces source (.slot name) (':' :: name)

variable {v part source params : Json} {name path : String} {names : List String}
variable {text : List Char}

theorem leads_iff : Leads v names part ↔ follow v names = some part := by
  constructor
  · intro h
    induction h with
    | here => rfl
    | field hfield _ ih => rw [follow, member?, hfield, Option.bind_some, ih]
    | item hname hitem _ ih =>
      rw [follow, member?, index?_eq_some.mpr hname, Option.bind_some, hitem, Option.bind_some, ih]
  · intro h
    induction names generalizing v with
    | nil =>
      cases h
      exact .here _
    | cons name rest ih =>
      obtain ⟨next, hmember, hrest⟩ := Option.bind_eq_some_iff.mp h
      cases v with
      | obj fields => exact .field hmember (ih hrest)
      | arr items =>
        obtain ⟨i, hindex, hitem⟩ := Option.bind_eq_some_iff.mp hmember
        exact .item (index?_eq_some.mp hindex) hitem (ih hrest)
      | _ => cases hmember

theorem leadsAlong_iff : LeadsAlong v path part ↔ lookup v path = some part := leads_iff

theorem lookup_eq_none_iff : lookup v path = none ↔ ∀ part, ¬LeadsAlong v path part := by
  rw [Option.eq_none_iff_forall_ne_some]
  constructor
  · intro h part hpart
    exact h part (leadsAlong_iff.mp hpart)
  · intro h part hpart
    exact h part (leadsAlong_iff.mpr hpart)

theorem readsFrom_iff {payload : Option String} :
    ReadsFrom params payload source ↔ source = parameterSource params payload := by
  unfold parameterSource
  constructor
  · intro h
    cases h with
    | payload hleads => rw [Option.bind_some, leadsAlong_iff.mp hleads, Option.getD_some]
    | whole hnowhere =>
      cases payload with
      | none => rfl
      | some path =>
        rw [Option.bind_some, lookup_eq_none_iff.mpr (hnowhere path rfl), Option.getD_none]
  · rintro rfl
    cases payload with
    | none => exact .whole nofun
    | some path =>
      rw [Option.bind_some]
      cases hlookup : lookup params path with
      | none =>
        refine .whole (fun other hother => ?_)
        cases hother
        exact lookup_eq_none_iff.mp hlookup
      | some source => exact .payload (leadsAlong_iff.mpr hlookup)

theorem finds_iff : Finds source name v ↔ parameter? source name = some v := by
  rw [parameter?, Option.or_eq_some_iff]
  constructor
  · intro h
    cases h with
    | dotted hleads => exact Or.inl (leadsAlong_iff.mp hleads)
    | key hnowhere hsource hget =>
      rw [hsource] at hnowhere ⊢
      exact Or.inr ⟨lookup_eq_none_iff.mpr hnowhere, hget⟩
  · rintro (hlookup | ⟨hlookup, hkey⟩)
    · exact .dotted (leadsAlong_iff.mpr hlookup)
    · cases source with
      | obj fields => exact .key (lookup_eq_none_iff.mp hlookup) rfl hkey
      | _ => cases hkey

theorem hasText_iff : HasText v text ↔ (scalarText? v).map String.toList = some text := by
  constructor
  · intro h
    cases h with
    | string s => rfl
    | integer n => rw [scalarText?, Option.map_some, String.toList_ofList]
    | float x => rfl
    | yes => rfl
    | no => rfl
  · intro h
    cases v with
    | str s =>
      cases h
      exact .string s
    | int n =>
      rw [scalarText?, Option.map_some, String.toList_ofList] at h
      cases h
      exact .integer n
    | float x =>
      cases h
      exact .float x
    | bool b =>
      cases b with
      | true =>
        cases h
        exact .yes
      | false =>
        cases h
        exact .no
    | null | arr _ | obj _ => cases h

theorem slotText_of_hasText {name : List Char} (hfinds : Finds source (String.ofList name) v)
    (htext : HasText v text) : slotText source name = text := by
  obtain ⟨s, hscalar, rfl⟩ := Option.map_eq_some_iff.mp (hasText_iff.mp htext)
  rw [slotText, finds_iff.mp hfinds, Option.bind_some, hscalar]

theorem slotText_of_no_text {name : List Char}
    (h : ∀ v text, Finds source (String.ofList name) v → ¬HasText v text) :
    slotText source name = ':' :: name := by
  have hnone : (parameter? source (String.ofList name)).bind scalarText? = none := by
    rw [Option.eq_none_iff_forall_ne_some]
    intro s hs
    obtain ⟨v, hv, hscalar⟩ := Option.bind_eq_some_iff.mp hs
    have htext : HasText v s.toList := hasText_iff.mpr (by rw [hscalar, Option.map_some])
    exact h v s.toList (finds_iff.mpr hv) htext
  rw [slotText, hnone]

theorem replaces_slot_iff {name : List Char} :
    Replaces source (.slot name) text ↔ text = slotText source name := by
  constructor
  · intro h
    cases h with
    | value hfinds htext => exact (slotText_of_hasText hfinds htext).symm
    | itself hnone => exact (slotText_of_no_text hnone).symm
  · rintro rfl
    by_cases h : ∃ v text, Finds source (String.ofList name) v ∧ HasText v text
    · obtain ⟨v, text, hfinds, htext⟩ := h
      rw [slotText_of_hasText hfinds htext]
      exact .value hfinds htext
    · have hnone : ∀ v text, Finds source (String.ofList name) v → ¬HasText v text :=
        fun v text hfinds htext => h ⟨v, text, hfinds, htext⟩
      rw [slotText_of_no_text hnone]
      exact .itself hnone

end Values

section Filling

variable {source params : Json} {parts : Template} {pieces : List (List Char)}

theorem fill_eq_flatten (h : List.Forall₂ (Replaces source) parts pieces) :
    parts.fill (slotText source) = pieces.flatten := by
  induction h with
  | nil => rfl
  | @cons part piece parts pieces hpart _ ih =>
    rw [List.flatten_cons, ← ih]
    cases part with
    | char c =>
      cases hpart
      rfl
    | slot name => rw [Template.fill_slot, replaces_slot_iff.mp hpart]

theorem exists_pieces (source : Json) (parts : Template) :
    ∃ pieces, List.Forall₂ (Replaces source) parts pieces := by
  induction parts with
  | nil => exact ⟨[], .nil⟩
  | cons part rest ih =>
    obtain ⟨pieces, hpieces⟩ := ih
    cases part with
    | char c => exact ⟨[c] :: pieces, .cons (.char c) hpieces⟩
    | slot name => exact ⟨slotText source name :: pieces, .cons (replaces_slot_iff.mpr rfl) hpieces⟩

/-- A template has one cut, the one that is found from the left. The text filled in is what replaces
the parts of this cut, each of them on its own, in a row. -/
theorem resolve_substitutes (template : String) (params : Json) (payload : Option String) :
    (∀ parts, Cuts template.toList parts ↔ parts = scan template.toList) ∧
      ∀ result, resolve template params payload = result ↔
        ∃ source pieces, ReadsFrom params payload source ∧
          List.Forall₂ (Replaces source) (scan template.toList) pieces ∧
          result.toList = pieces.flatten := by
  refine ⟨fun parts => cuts_iff_scan, fun result => ?_⟩
  rw [← String.toList_inj, resolve, String.toList_ofList, ofText_eq_scan]
  constructor
  · intro h
    obtain ⟨pieces, hpieces⟩ :=
      exists_pieces (parameterSource params payload) (scan template.toList)
    refine ⟨_, pieces, readsFrom_iff.mpr rfl, hpieces, ?_⟩
    rw [← h, fill_eq_flatten hpieces]
  · rintro ⟨source, pieces, hsource, hpieces, hresult⟩
    rw [← readsFrom_iff.mp hsource, fill_eq_flatten hpieces, hresult]

-- an inserted placeholder stays, and a dot at the end belongs to the name
example : resolve "/:a:b/:c." (.obj [("a", .str ":b"), ("b", .bool true), ("c", .int 3)]) none =
    "/:btrue/:c." := by cbv

end Filling

end UiSchema.Route
