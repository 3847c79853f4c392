import UiSchema.Route

/-!
# The cut of a template

A text is cut into placeholders and characters from the left: where a colon stands in front of a
name, the longest one is the placeholder. `Cuts` says so without a scanner; every text has exactly
one such cut, the one that `Template.ofText` finds from the right.
-/

namespace UiSchema.Route

set_option autoImplicit false

/-- The text goes on with a character of a name. -/
def NameAhead (text : List Char) : Prop := ∃ c, text.head? = some c ∧ isNameChar c = true

inductive Cuts : List Char → Template → Prop
  | nil : Cuts [] []
  | char {c : Char} {rest : List Char} {parts : Template}
      (hplain : ¬(c = ':' ∧ NameAhead rest)) (hrest : Cuts rest parts) :
      Cuts (c :: rest) (.char c :: parts)
  | slot {name rest : List Char} {parts : Template} (hne : name ≠ [])
      (hname : ∀ c ∈ name, isNameChar c = true) (hend : ¬NameAhead rest)
      (hrest : Cuts rest parts) : Cuts (':' :: (name ++ rest)) (.slot name :: parts)

def Template.text (parts : Template) : List Char := parts.flatMap Part.text

variable {c : Char} {text run name rest : List Char} {parts others : Template}

theorem Template.text_eq_fill (parts : Template) : parts.text = parts.fill (':' :: ·) := rfl

@[simp] theorem Template.fill_char (c : Char) (parts : Template) (f : List Char → List Char) :
    Template.fill (.char c :: parts) f = c :: parts.fill f := rfl

@[simp] theorem Template.fill_slot (name : List Char) (parts : Template)
    (f : List Char → List Char) :
    Template.fill (.slot name :: parts) f = f name ++ parts.fill f := rfl

/-- What is filled in depends only on what stands for the names of the template. -/
theorem Template.fill_congr {f g : List Char → List Char}
    (h : ∀ name, .slot name ∈ parts → f name = g name) : parts.fill f = parts.fill g := by
  induction parts with
  | nil => rfl
  | cons part rest ih =>
    have hrest := ih (fun name hname => h name (List.mem_cons_of_mem part hname))
    cases part with
    | char c => rw [Template.fill_char, Template.fill_char, hrest]
    | slot name => rw [Template.fill_slot, Template.fill_slot, hrest, h name List.mem_cons_self]

theorem not_nameAhead_nil : ¬NameAhead [] := fun ⟨_, hc, _⟩ => nomatch hc

theorem nameAhead_cons : NameAhead (c :: rest) ↔ isNameChar c = true := by
  constructor
  · rintro ⟨d, hd, hname⟩
    cases hd
    exact hname
  · exact fun hname => ⟨c, rfl, hname⟩

theorem nameAhead_append (hne : name ≠ []) (hname : ∀ c ∈ name, isNameChar c = true) :
    NameAhead (name ++ rest) := by
  cases name with
  | nil => exact absurd rfl hne
  | cons c name => exact nameAhead_cons.mpr (hname c List.mem_cons_self)

theorem ne_colon_of_isNameChar (h : isNameChar c = true) : c ≠ ':' := by
  rintro rfl
  exact absurd h (by decide)

theorem takeWhile_name (hname : ∀ c ∈ name, isNameChar c = true) (hend : ¬NameAhead rest) :
    (name ++ rest).takeWhile isNameChar = name := by
  have hrest : rest.takeWhile isNameChar = [] := by
    cases rest with
    | nil => rfl
    | cons c rest => exact List.takeWhile_cons_of_neg (mt nameAhead_cons.mpr hend)
  rw [List.takeWhile_append_of_pos hname, hrest, List.append_nil]

namespace Cuts

/-- Without a colon in front, the characters of a name stand for themselves. -/
theorem run_append (hrun : ∀ c ∈ run, isNameChar c = true) (hrest : Cuts rest parts) :
    Cuts (run ++ rest) (run.map Part.char ++ parts) := by
  induction run with
  | nil => exact hrest
  | cons c run ih =>
    obtain ⟨hc, hrun⟩ := List.forall_mem_cons.mp hrun
    exact .char (fun hslot => ne_colon_of_isNameChar hc hslot.1) (ih hrun)

theorem text_eq (h : Cuts text parts) : parts.text = text := by
  induction h with
  | nil => rfl
  | @char c rest parts _ _ ih => exact congrArg (c :: ·) ih
  | @slot name rest parts _ _ _ _ ih => exact congrArg (':' :: name ++ ·) ih

theorem unique (h : Cuts text parts) (h' : Cuts text others) : parts = others := by
  induction h generalizing others with
  | nil =>
    cases h'
    rfl
  | char hplain _ ih =>
    cases h' with
    | char _ hrest => rw [ih hrest]
    | slot hne hname _ _ => exact absurd ⟨rfl, nameAhead_append hne hname⟩ hplain
  | @slot name rest parts hne hname hend _ ih =>
    generalize htext : ':' :: (name ++ rest) = text at h'
    cases h' with
    | nil => cases htext
    | char hplain _ =>
      cases htext
      exact absurd ⟨rfl, nameAhead_append hne hname⟩ hplain
    | @slot name' rest' parts' _ hname' hend' hrest' =>
      -- either name is the longest front run of the same text
      have htext := (List.cons.inj htext).2
      have hsame : name = name' := by
        rw [← takeWhile_name hname hend, htext, takeWhile_name hname' hend']
      subst hsame
      rw [← List.append_cancel_left htext] at hrest'
      rw [ih hrest']

end Cuts

/-- From the right: the run in front is still open, and behind it stands a cut. -/
theorem cut_spec {text run : List Char} {parts : Template} (h : cut text = (run, parts)) :
    ∃ rest, run ++ rest = text ∧ (∀ c ∈ run, isNameChar c = true) ∧ ¬NameAhead rest ∧
      Cuts rest parts := by
  induction text generalizing run parts with
  | nil =>
    cases h
    exact ⟨[], rfl, nofun, not_nameAhead_nil, .nil⟩
  | cons c text ih =>
    obtain ⟨run', parts', hcut⟩ : ∃ run' parts', cut text = (run', parts') := ⟨_, _, rfl⟩
    obtain ⟨rest, htext, hrun, hend, hcuts⟩ := ih hcut
    simp only [cut, hcut] at h
    by_cases hname : isNameChar c = true
    · rw [if_pos hname] at h
      cases h
      exact ⟨rest, congrArg (c :: ·) htext, List.forall_mem_cons.mpr ⟨hname, hrun⟩, hend, hcuts⟩
    · rw [if_neg hname] at h
      have hstop : ¬NameAhead (c :: text) := mt nameAhead_cons.mp hname
      split at h
      · rename_i hslot
        cases h
        obtain ⟨hcolon, hne⟩ : c = ':' ∧ run' ≠ [] := by simpa using hslot
        refine ⟨c :: text, rfl, nofun, hstop, ?_⟩
        rw [hcolon, ← htext]
        exact .slot hne hrun hend hcuts
      · rename_i hslot
        cases h
        refine ⟨c :: text, rfl, nofun, hstop, .char ?_ (htext ▸ Cuts.run_append hrun hcuts)⟩
        rintro ⟨hcolon, hahead⟩
        -- with an empty run no name is ahead
        have hne : run' ≠ [] := by
          rintro rfl
          rw [← htext, List.nil_append] at hahead
          exact hend hahead
        exact hslot (by simpa [hcolon] using hne)

theorem cuts_ofText (text : List Char) : Cuts text (Template.ofText text) := by
  obtain ⟨run, parts, hcut⟩ : ∃ run parts, cut text = (run, parts) := ⟨_, _, rfl⟩
  obtain ⟨rest, htext, hrun, _, hcuts⟩ := cut_spec hcut
  rw [Template.ofText, hcut, ← htext]
  exact Cuts.run_append hrun hcuts

theorem cuts_iff : Cuts text parts ↔ parts = Template.ofText text := by
  constructor
  · exact fun h => h.unique (cuts_ofText text)
  · rintro rfl
    exact cuts_ofText text

end UiSchema.Route
