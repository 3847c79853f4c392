import UiSchema.Text.Pieces

/-!
# Dotted texts

Segments joined with a separator are found again by cutting, provided that none of them holds the
separator and that there is a segment at all. So a text made of such segments determines them.
Cutting once finds the first separator. The digits of a number hold no dot, and they determine the
number.
-/

namespace UiSchema.Text

set_option autoImplicit false

variable {separator : Char}

theorem pieces_of_not_mem {piece : List Char} (h : separator ∉ piece) :
    pieces separator piece = [piece] := by
  induction piece with
  | nil => rfl
  | cons c rest ih =>
    obtain ⟨hc, hrest⟩ := not_or.mp (mt List.mem_cons.mpr h)
    rw [pieces, if_neg (Ne.symm hc), ih hrest]

theorem pieces_append_separator (front rest : List Char) :
    pieces separator (front ++ separator :: rest) =
      pieces separator front ++ pieces separator rest := by
  induction front with
  | nil =>
    have hcut : pieces separator (separator :: rest) = [] :: pieces separator rest := if_pos rfl
    rw [List.nil_append, hcut]
    rfl
  | cons c front ih =>
    by_cases hc : c = separator
    · rw [List.cons_append, pieces, if_pos hc, pieces, if_pos hc, ih, List.cons_append]
    · obtain ⟨head, tail, hfront⟩ := List.exists_cons_of_ne_nil (pieces_ne_nil separator front)
      rw [List.cons_append, pieces, if_neg hc, pieces, if_neg hc, ih, hfront]
      rfl

theorem pieces_append {piece : List Char} (h : separator ∉ piece) (rest : List Char) :
    pieces separator (piece ++ separator :: rest) = piece :: pieces separator rest := by
  rw [pieces_append_separator, pieces_of_not_mem h, List.singleton_append]

theorem not_mem_of_mem_pieces {piece text : List Char} (h : piece ∈ pieces separator text) :
    separator ∉ piece := by
  induction text generalizing piece with
  | nil =>
    rw [List.mem_singleton.mp h]
    exact List.not_mem_nil
  | cons c rest ih =>
    by_cases hc : c = separator
    · rw [pieces, if_pos hc] at h
      rcases List.mem_cons.mp h with rfl | h
      · exact List.not_mem_nil
      · exact ih h
    · obtain ⟨head, tail, hrest⟩ := List.exists_cons_of_ne_nil (pieces_ne_nil separator rest)
      rw [pieces, if_neg hc, hrest] at h
      rw [hrest] at ih
      rcases List.mem_cons.mp h with rfl | h
      · have hhead := ih List.mem_cons_self
        exact fun hmem => (List.mem_cons.mp hmem).elim (fun heq => hc heq.symm) hhead
      · exact ih (List.mem_cons_of_mem head h)

theorem join_cons_cons (s t : List Char) (rest : List (List Char)) :
    join separator (s :: t :: rest) = s ++ separator :: join separator (t :: rest) := rfl

theorem pieces_join {segments : List (List Char)} (hne : segments ≠ [])
    (h : ∀ s ∈ segments, separator ∉ s) :
    pieces separator (join separator segments) = segments := by
  induction segments with
  | nil => exact absurd rfl hne
  | cons s rest ih =>
    obtain ⟨hs, hrest⟩ := List.forall_mem_cons.mp h
    cases rest with
    | nil => exact pieces_of_not_mem hs
    | cons t rest => rw [join_cons_cons, pieces_append hs, ih (List.cons_ne_nil t rest) hrest]

theorem pieces_join_append {segments : List (List Char)} (hne : segments ≠ [])
    (h : ∀ s ∈ segments, separator ∉ s) (rest : List Char) :
    pieces separator (join separator segments ++ separator :: rest) =
      segments ++ pieces separator rest := by
  rw [pieces_append_separator, pieces_join hne h]

theorem join_append {segments others : List (List Char)} (hne : segments ≠ [])
    (hne' : others ≠ []) : join separator (segments ++ others) =
      join separator segments ++ separator :: join separator others := by
  obtain ⟨t, others, rfl⟩ := List.exists_cons_of_ne_nil hne'
  induction segments with
  | nil => exact absurd rfl hne
  | cons s rest ih =>
    cases rest with
    | nil => rfl
    | cons r rest =>
      rw [List.cons_append, List.cons_append, join_cons_cons, ← List.cons_append,
        ih (List.cons_ne_nil r rest), join_cons_cons, List.append_assoc, List.cons_append]

/-- A text that yields only the first pieces of another one ends where a separator follows. -/
theorem splitOn_prefix {s t : String} (h : splitOn separator s <+: splitOn separator t) :
    s = t ∨ s.toList ++ [separator] <+: t.toList := by
  have hpieces : pieces separator s.toList <+: pieces separator t.toList := by
    simpa [splitOn, Function.comp_def] using h.map String.toList
  obtain ⟨rest, hrest⟩ := hpieces
  rw [← String.toList_inj, ← join_pieces separator t.toList, ← hrest]
  by_cases hnil : rest = []
  · left
    rw [hnil, List.append_nil, join_pieces]
  · right
    rw [join_append (pieces_ne_nil separator s.toList) hnil, join_pieces]
    exact ⟨join separator rest, List.append_assoc _ _ _⟩

/-- The pieces of one text begin with those of another, and more follow, exactly when the text goes
on with a separator behind the other. -/
theorem splitOn_extends_iff {s t : String} :
    (∃ rest, rest ≠ [] ∧ splitOn separator t = splitOn separator s ++ rest) ↔
      s.toList ++ [separator] <+: t.toList := by
  constructor
  · rintro ⟨rest, hne, hpieces⟩
    rcases splitOn_prefix ⟨rest, hpieces.symm⟩ with rfl | hprefix
    · exact absurd (List.self_eq_append_right.mp hpieces) hne
    · exact hprefix
  · rintro ⟨rest, hrest⟩
    rw [List.append_assoc, List.singleton_append] at hrest
    refine ⟨(pieces separator rest).map String.ofList, ?_, ?_⟩
    · exact mt List.map_eq_nil_iff.mp (pieces_ne_nil separator rest)
    · rw [splitOn, ← hrest, pieces_append_separator, List.map_append, splitOn]

theorem join_injective {segments others : List (List Char)} (hne : segments ≠ [])
    (hne' : others ≠ []) (h : ∀ s ∈ segments, separator ∉ s) (h' : ∀ s ∈ others, separator ∉ s)
    (heq : join separator segments = join separator others) : segments = others := by
  rw [← pieces_join hne h, heq, pieces_join hne' h']

theorem join_cons_map (s : List Char) {α : Type} (f : α → List Char) (xs : List α) :
    join separator (s :: xs.map f) = s ++ xs.flatMap (fun x => separator :: f x) := by
  induction xs generalizing s with
  | nil => rw [List.map_nil, join, List.flatMap_nil, List.append_nil]
  | cons x xs ih =>
    rw [List.map_cons, join_cons_cons, ih, List.flatMap_cons, List.cons_append]

theorem toList_joinWith (segments : List String) :
    (joinWith "." segments).toList = join '.' (segments.map String.toList) := by
  induction segments with
  | nil => rfl
  | cons s rest ih =>
    cases rest with
    | nil => rfl
    | cons t rest =>
      have hstep : joinWith "." (s :: t :: rest) = s ++ "." ++ joinWith "." (t :: rest) := rfl
      have hdot : ".".toList = ['.'] := rfl
      rw [hstep, String.toList_append, String.toList_append, ih, hdot, List.append_assoc,
        List.singleton_append]
      rfl

theorem joinWith_injective {segments others : List String} (hne : segments ≠ [])
    (hne' : others ≠ []) (h : ∀ s ∈ segments, '.' ∉ s.toList) (h' : ∀ s ∈ others, '.' ∉ s.toList)
    (heq : joinWith "." segments = joinWith "." others) : segments = others := by
  have hchars := congrArg String.toList heq
  rw [toList_joinWith, toList_joinWith] at hchars
  refine (List.map_inj_right fun _ _ => String.toList_inj.mp).mp (join_injective ?_ ?_ ?_ ?_ hchars)
  · rwa [Ne, List.map_eq_nil_iff]
  · rwa [Ne, List.map_eq_nil_iff]
  · rwa [List.forall_mem_map]
  · rwa [List.forall_mem_map]

section CutOnce

variable {cs front back : List Char}

theorem cutOnce_eq_some :
    cutOnce separator cs = some (front, back) ↔
      cs = front ++ separator :: back ∧ separator ∉ front := by
  induction cs generalizing front with
  | nil => simp [cutOnce]
  | cons c rest ih =>
    rw [cutOnce]
    split
    · rename_i hc
      subst hc
      cases front with
      | nil => simp
      | cons d front =>
        refine iff_of_false nofun ?_
        rintro ⟨heq, hfront⟩
        cases heq
        exact hfront List.mem_cons_self
    · rename_i hc
      rw [Option.map_eq_some_iff]
      constructor
      · rintro ⟨⟨front', back'⟩, hcut, heq⟩
        cases heq
        obtain ⟨rfl, hfront⟩ := ih.mp hcut
        exact ⟨rfl, by simp [hfront, Ne.symm hc]⟩
      · rintro ⟨heq, hfront⟩
        cases front with
        | nil =>
          cases heq
          exact absurd rfl hc
        | cons d front =>
          cases heq
          have hrest := ih.mpr ⟨rfl, fun hmem => hfront (List.mem_cons_of_mem c hmem)⟩
          exact ⟨_, hrest, rfl⟩

theorem cutOnce_eq_none : cutOnce separator cs = none ↔ separator ∉ cs := by
  induction cs with
  | nil => simp [cutOnce]
  | cons c rest ih =>
    rw [cutOnce]
    split
    · rename_i hc
      simp [hc]
    · rename_i hc
      rw [Option.map_eq_none_iff, ih, List.mem_cons, not_or, and_iff_right (Ne.symm hc)]

end CutOnce

theorem digits_injective {i j : Nat} (h : Nat.toDigits 10 i = Nat.toDigits 10 j) : i = j := by
  have hread := congrArg (fun digits => Nat.ofDigitChars 10 digits 0) h
  simpa using hread

theorem dot_not_mem_digits (i : Nat) : '.' ∉ Nat.toDigits 10 i := by
  intro h
  have hdigit := Nat.isDigit_of_mem_toDigits (by decide) (by decide) h
  exact absurd hdigit (by decide)

end UiSchema.Text
