import UiSchema.Proofs.Text.Dotted
import UiSchema.Route

/-!
# The trail of breadcrumbs

A path names segments one after the other; how many slashes stand in front, between and behind them
does not matter. The crumbs of a path belong to the prefixes of its segments, and every crumb has
the path that names its prefix with single slashes. So the crumbs of a crumb's own path are the
trail up to that crumb.
-/

namespace UiSchema.Route

set_option autoImplicit false

/-- A slash or the end of the text is here. -/
def AtBoundary (rest : List Char) : Prop := ∀ c, rest.head? = some c → c = '/'

/-- The path names these segments. A segment reaches to the next slash or to the end. -/
inductive Names : List Char → List String → Prop
  | nil : Names [] []
  | slash {rest : List Char} {names : List String} (hrest : Names rest names) :
      Names ('/' :: rest) names
  | segment {name : String} {rest : List Char} {names : List String} (hne : name ≠ "")
      (hname : '/' ∉ name.toList) (hend : AtBoundary rest)
      (hrest : Names rest names) : Names (name.toList ++ rest) (name :: names)

/-- The path with one slash in front of each segment. -/
def absolute (names : List String) : String :=
  String.ofList (names.flatMap (fun name => '/' :: name.toList))

variable {text : List Char} {parent path : String} {names : List String}

section Segments

theorem atBoundary_nil : AtBoundary [] := fun _ hc => nomatch hc

theorem atBoundary_slash (rest : List Char) : AtBoundary ('/' :: rest) :=
  fun _ hc => (Option.some.inj hc).symm

theorem segments_append_slash (front rest : List Char) :
    segments (String.ofList (front ++ '/' :: rest)) =
      segments (String.ofList front) ++ segments (String.ofList rest) := by
  simp only [segments, Text.splitOn, String.toList_ofList, Text.pieces_append_separator,
    List.map_append, List.filter_append]

theorem segments_slash (rest : List Char) :
    segments (String.ofList ('/' :: rest)) = segments (String.ofList rest) :=
  segments_append_slash [] rest

theorem segments_of_plain {name : String} (hne : name ≠ "") (hname : '/' ∉ name.toList) :
    segments name = [name] := by
  simp only [segments, Text.splitOn, Text.pieces_of_not_mem hname, List.map_cons, List.map_nil,
    String.ofList_toList, List.filter_cons, bne_iff_ne.mpr hne, if_true, List.filter_nil]

theorem Names.segments_eq (h : Names text names) : segments (String.ofList text) = names := by
  induction h with
  | nil => rfl
  | slash hrest ih => rw [segments_slash, ih]
  | @segment name rest names hne hname hend hrest ih =>
    have hplain := segments_of_plain hne hname
    cases rest with
    | nil =>
      have hnames : names = [] := ih.symm
      rw [List.append_nil, String.ofList_toList, hplain, hnames]
    | cons c rest =>
      have hc : c = '/' := hend c rfl
      rw [hc, segments_slash] at ih
      rw [hc, segments_append_slash, String.ofList_toList, hplain, ih, List.singleton_append]

theorem Names.plain (h : Names text names) : ∀ name ∈ names, name ≠ "" ∧ '/' ∉ name.toList := by
  induction h with
  | nil => exact fun name hmem => absurd hmem List.not_mem_nil
  | slash hrest ih => exact ih
  | segment hne hname hend hrest ih => exact List.forall_mem_cons.mpr ⟨⟨hne, hname⟩, ih⟩

theorem Names.piece {part : List Char} (hpart : '/' ∉ part) (hend : AtBoundary text)
    (h : Names text names) :
    Names (part ++ text) ([String.ofList part].filter (· != "") ++ names) := by
  obtain ⟨name, rfl⟩ : ∃ name : String, part = name.toList :=
    ⟨String.ofList part, String.toList_ofList.symm⟩
  rw [String.ofList_toList]
  by_cases hname : name = ""
  · rw [hname]
    exact h
  · have hkept : [name].filter (· != "") = [name] := by simp [hname]
    rw [hkept]
    exact .segment hname hpart hend h

theorem names_join {parts : List (List Char)} (h : ∀ part ∈ parts, '/' ∉ part) :
    Names (Text.join '/' parts) ((parts.map String.ofList).filter (· != "")) := by
  induction parts with
  | nil => exact .nil
  | cons part rest ih =>
    obtain ⟨hpart, hrest⟩ := List.forall_mem_cons.mp h
    cases rest with
    | nil =>
      have hlast := Names.piece hpart atBoundary_nil .nil
      rwa [List.append_nil, List.append_nil] at hlast
    | cons next rest =>
      have hpiece := Names.piece hpart (atBoundary_slash _) (ih hrest).slash
      rwa [← List.filter_append] at hpiece

/-- Every path names its segments, and no others. -/
theorem names_iff : Names path.toList names ↔ segments path = names := by
  constructor
  · intro h
    rw [← h.segments_eq, String.ofList_toList]
  · rintro rfl
    have hplain : ∀ part ∈ Text.pieces '/' path.toList, '/' ∉ part :=
      fun _ hpart => Text.not_mem_of_mem_pieces hpart
    have hjoin := names_join hplain
    rwa [Text.join_pieces] at hjoin

theorem absolute_cons (name : String) (names : List String) :
    absolute (name :: names) = "/" ++ name ++ absolute names := by
  rw [← String.toList_inj]
  simp [absolute]

theorem names_absolute (h : ∀ name ∈ names, name ≠ "" ∧ '/' ∉ name.toList) :
    Names (absolute names).toList names := by
  rw [absolute, String.toList_ofList]
  induction names with
  | nil => exact .nil
  | cons name rest ih =>
    obtain ⟨⟨hne, hname⟩, hrest⟩ := List.forall_mem_cons.mp h
    rw [List.flatMap_cons, List.cons_append]
    refine .slash (.segment hne hname ?_ (ih hrest))
    cases rest with
    | nil => exact atBoundary_nil
    | cons next rest => exact atBoundary_slash _

end Segments

section Trail

theorem take_crumbsBelow (parent : String) (names : List String) (n : Nat) :
    (crumbsBelow parent names).take n = crumbsBelow parent (names.take n) := by
  induction names generalizing parent n with
  | nil => rw [crumbsBelow, List.take_nil, List.take_nil, crumbsBelow]
  | cons name rest ih =>
    cases n with
    | zero => rfl
    | succ n => simp only [crumbsBelow, List.take_succ_cons, ih]

theorem getElem?_crumbsBelow (parent : String) (names : List String) (i : Nat) :
    (crumbsBelow parent names)[i]? = names[i]?.map (fun name =>
      ⟨capitalized name, parent ++ absolute (names.take (i + 1))⟩) := by
  induction names generalizing parent i with
  | nil => rfl
  | cons name rest ih =>
    cases i with
    | zero =>
      have hpath : absolute [name] = "/" ++ name := by
        rw [absolute_cons]
        exact String.append_empty
      simp [crumbsBelow, hpath, String.append_assoc]
    | succ i =>
      simp only [crumbsBelow, List.getElem?_cons_succ, ih, List.take_succ_cons, absolute_cons,
        String.append_assoc]

/-- Whatever stands below a path goes on with a slash behind it. -/
theorem below_of_mem_crumbsBelow {crumb : Breadcrumb} (h : crumb ∈ crumbsBelow parent names) :
    parent.toList ++ ['/'] <+: crumb.path.toList := by
  induction names generalizing parent with
  | nil => cases h
  | cons name rest ih =>
    have hstep : parent.toList ++ ['/'] <+: (parent ++ "/" ++ name).toList := by
      rw [String.toList_append, String.toList_append]
      exact List.prefix_append _ _
    rcases List.mem_cons.mp h with rfl | h
    · exact hstep
    · exact hstep.trans ((List.prefix_append _ _).trans (ih h))

theorem pairwise_crumbsBelow (parent : String) (names : List String) :
    (crumbsBelow parent names).Pairwise (fun c d => c.path.toList ++ ['/'] <+: d.path.toList) := by
  induction names generalizing parent with
  | nil => exact .nil
  | cons name rest ih =>
    exact List.pairwise_cons.mpr ⟨fun _ => below_of_mem_crumbsBelow, ih _⟩

theorem crumbsBelow_injective {others : List String}
    (h : crumbsBelow parent names = crumbsBelow parent others) : names = others := by
  induction names generalizing parent others with
  | nil =>
    cases others with
    | nil => rfl
    | cons other others => cases h
  | cons name rest ih =>
    cases others with
    | nil => cases h
    | cons other others =>
      simp only [crumbsBelow, List.cons.injEq, Breadcrumb.mk.injEq] at h
      obtain ⟨⟨_, hpath⟩, hrest⟩ := h
      have hname : name = other := String.append_right_inj (parent ++ "/") |>.mp hpath
      rw [hname] at hrest ⊢
      rw [ih hrest]

theorem breadcrumbs_absolute (h : ∀ name ∈ names, name ≠ "" ∧ '/' ∉ name.toList) :
    breadcrumbs (absolute names) = crumbsBelow "" names := by
  rw [breadcrumbs, names_iff.mp (names_absolute h)]

theorem getElem?_breadcrumbs (path : String) (i : Nat) :
    (breadcrumbs path)[i]? = (segments path)[i]?.map (fun name =>
      ⟨capitalized name, absolute ((segments path).take (i + 1))⟩) := by
  rw [breadcrumbs, getElem?_crumbsBelow]
  simp only [String.empty_append]

theorem length_breadcrumbs (path : String) :
    (breadcrumbs path).length = (segments path).length := by
  rw [breadcrumbs]
  generalize "" = parent
  induction segments path generalizing parent with
  | nil => rfl
  | cons name rest ih => rw [crumbsBelow, List.length_cons, List.length_cons, ih]

/-- The trail is walked again up to a crumb from the crumb's own path. -/
theorem breadcrumbs_of_getElem? {crumb : Breadcrumb} {i : Nat}
    (h : (breadcrumbs path)[i]? = some crumb) :
    crumb.path = absolute ((segments path).take (i + 1)) ∧
      breadcrumbs crumb.path = (breadcrumbs path).take (i + 1) := by
  rw [getElem?_breadcrumbs] at h
  obtain ⟨name, _, rfl⟩ := Option.map_eq_some_iff.mp h
  refine ⟨rfl, ?_⟩
  have hplain := (names_iff.mpr rfl : Names path.toList (segments path)).plain
  rw [breadcrumbs_absolute fun name hname => hplain name (List.mem_of_mem_take hname),
    breadcrumbs, take_crumbsBelow]

/-- The crumbs of a path belong one to one to the segments that it names. A crumb has the name of its
segment, capitalized, and the path of all segments up to it, behind which the paths of the later
crumbs go on; its own crumbs are the trail up to it. Exactly the paths that name the same segments
have the same crumbs, the path of the last crumb among them. -/
theorem breadcrumbs_retraced (path : String) : ∃ names : List String, Names path.toList names ∧
    (breadcrumbs path).length = names.length ∧
    (∀ (i : Nat) (name : String), names[i]? = some name →
      (breadcrumbs path)[i]? = some ⟨capitalized name, absolute (names.take (i + 1))⟩) ∧
    (∀ (i : Nat) (crumb : Breadcrumb), (breadcrumbs path)[i]? = some crumb →
      breadcrumbs crumb.path = (breadcrumbs path).take (i + 1)) ∧
    (breadcrumbs path).Pairwise (fun c d => c.path.toList ++ ['/'] <+: d.path.toList) ∧
    (∀ last, (breadcrumbs path).getLast? = some last →
      last.path = absolute names ∧ breadcrumbs last.path = breadcrumbs path) ∧
    ∀ other : String, breadcrumbs other = breadcrumbs path ↔ Names other.toList names := by
  refine ⟨segments path, names_iff.mpr rfl, length_breadcrumbs path, ?_, ?_,
    pairwise_crumbsBelow "" (segments path), ?_, ?_⟩
  · intro i name hname
    rw [getElem?_breadcrumbs, hname, Option.map_some]
  · exact fun i crumb hcrumb => (breadcrumbs_of_getElem? hcrumb).2
  · intro last hlast
    rw [List.getLast?_eq_getElem?] at hlast
    obtain ⟨hpath, htrail⟩ := breadcrumbs_of_getElem? hlast
    have hbound := (List.getElem?_eq_some_iff.mp hlast).1
    have hlength : (breadcrumbs path).length - 1 + 1 = (breadcrumbs path).length := by omega
    rw [hlength] at hpath htrail
    rw [List.take_length] at htrail
    rw [length_breadcrumbs, List.take_length] at hpath
    exact ⟨hpath, htrail⟩
  · intro other
    rw [names_iff]
    constructor
    · exact crumbsBelow_injective
    · intro hsegments
      rw [breadcrumbs, breadcrumbs, hsegments]

example : breadcrumbs "admin//users/" = [⟨"Admin", "/admin"⟩, ⟨"Users", "/admin/users"⟩] := by rfl

end Trail

end UiSchema.Route
