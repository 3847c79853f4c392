import Mathlib.Computability.Language
import UiSchema.Proofs.Form.Validation
import UiSchema.Proofs.Text.Dotted

/-!
# Email addresses

The email rule accepts the texts of a pattern: one or more characters, an `@`, one or more
characters, a dot and one or more characters, none of them white space or a further `@`. The
characters of the last two runs may be dots, so a domain can be divided in several ways, and it is
enough that one of its dots has a character on either side.
-/

namespace UiSchema

set_option autoImplicit false

/-- Something of a list without its ends has something on either side. -/
theorem mem_drop_dropLast {α : Type} {x : α} {items : List α} :
    x ∈ (items.drop 1).dropLast ↔
      ∃ before after, items = before ++ x :: after ∧ before ≠ [] ∧ after ≠ [] := by
  constructor
  · intro h
    obtain ⟨front, back, hinner⟩ := List.append_of_mem h
    cases items with
    | nil => cases h
    | cons first rest =>
      rw [List.drop_succ_cons, List.drop_zero] at h hinner
      have hrest : rest ≠ [] := List.ne_nil_of_mem (List.mem_of_mem_dropLast h)
      refine ⟨first :: front, back ++ [rest.getLast hrest], ?_, List.cons_ne_nil _ _, by simp⟩
      calc
        first :: rest = first :: (rest.dropLast ++ [rest.getLast hrest]) := by
          rw [List.dropLast_append_getLast hrest]
        _ = first :: front ++ x :: (back ++ [rest.getLast hrest]) := by
          rw [hinner]
          simp
  · rintro ⟨before, after, rfl, hbefore, hafter⟩
    obtain ⟨first, before, rfl⟩ := List.exists_cons_of_ne_nil hbefore
    rw [List.cons_append, List.drop_succ_cons, List.drop_zero,
      List.dropLast_append_of_ne_nil (List.cons_ne_nil x after)]
    obtain ⟨y, rest, rfl⟩ := List.exists_cons_of_ne_nil hafter
    simp

namespace ValidationRule

section Pattern

/-- The texts of one character of a class. -/
def oneOf (inClass : Char → Bool) : Language Char := {w | ∃ c, inClass c = true ∧ w = [c]}

/-- One or more characters of a class. -/
def runOf (inClass : Char → Bool) : Language Char := oneOf inClass * KStar.kstar (oneOf inClass)

theorem mem_runOf {inClass : Char → Bool} {w : List Char} :
    w ∈ runOf inClass ↔ w ≠ [] ∧ ∀ c ∈ w, inClass c = true := by
  rw [runOf, Language.mem_mul]
  constructor
  · rintro ⟨_, ⟨c, hc, rfl⟩, _, hrest, rfl⟩
    obtain ⟨singles, rfl, hsingles⟩ := Language.mem_kstar.mp hrest
    refine ⟨List.cons_ne_nil _ _, List.forall_mem_cons.mpr ⟨hc, fun d hd => ?_⟩⟩
    obtain ⟨single, hsingle, hd⟩ := List.mem_flatten.mp hd
    obtain ⟨e, he, rfl⟩ := hsingles single hsingle
    rw [List.mem_singleton.mp hd]
    exact he
  · rintro ⟨hne, hall⟩
    obtain ⟨c, rest, rfl⟩ := List.exists_cons_of_ne_nil hne
    obtain ⟨hc, hrest⟩ := List.forall_mem_cons.mp hall
    refine ⟨[c], ⟨c, hc, rfl⟩, rest, Language.mem_kstar.mpr ⟨rest.map ([·]), ?_, ?_⟩, rfl⟩
    · exact (List.flatMap_singleton' rest).symm
    · rw [List.forall_mem_map]
      exact fun d hd => ⟨d, hrest d hd, rfl⟩

/-- The pattern of addresses. It is anchored at both ends, so a text that it is searched in has to
match as a whole. -/
def addressPattern : Language Char :=
  runOf isAddressChar * {['@']} * runOf isAddressChar * {['.']} * runOf isAddressChar

theorem mem_addressPattern {cs : List Char} :
    cs ∈ addressPattern ↔ ∃ user host top, cs = user ++ '@' :: (host ++ '.' :: top) ∧
      user ∈ runOf isAddressChar ∧ host ∈ runOf isAddressChar ∧ top ∈ runOf isAddressChar := by
  simp only [addressPattern, Language.mem_mul]
  constructor
  · rintro ⟨_, ⟨_, ⟨_, ⟨user, huser, _, rfl, rfl⟩, host, hhost, rfl⟩, _, rfl, rfl⟩, top, htop, rfl⟩
    exact ⟨user, host, top, by simp, huser, hhost, htop⟩
  · rintro ⟨user, host, top, rfl, huser, hhost, htop⟩
    exact ⟨_, ⟨_, ⟨_, ⟨user, huser, _, rfl, rfl⟩, host, hhost, rfl⟩, _, rfl, rfl⟩, top, htop,
      by simp⟩

end Pattern

/-- A text without white space and with one `@`, which has something in front of it and behind it a
dot that is neither the first nor the last character there. -/
structure IsAddress (cs : List Char) : Prop where
  noBlank : ∀ c ∈ cs, Text.isBlank c = false
  oneAt : cs.count '@' = 1
  parts : ∃ user domain, cs = user ++ '@' :: domain ∧ user ≠ [] ∧
    ∃ host top, domain = host ++ '.' :: top ∧ host ≠ [] ∧ top ≠ []

theorem isAddressChar_iff {c : Char} : isAddressChar c = true ↔ Text.isBlank c = false ∧ c ≠ '@' := by
  rw [isAddressChar, Bool.and_eq_true, Bool.not_eq_true', bne_iff_ne]

/-- The dot that divides a domain is one of the characters of its class. -/
theorem isAddress_iff_mem_addressPattern {cs : List Char} :
    IsAddress cs ↔ cs ∈ addressPattern := by
  rw [mem_addressPattern]
  constructor
  · rintro ⟨hblank, hat, user, _, rfl, huser, host, top, rfl, hhost, htop⟩
    have hapart : ∀ c ∈ user ++ host ++ top, isAddressChar c = true := by
      intro c hc
      refine isAddressChar_iff.mpr ⟨hblank c (by simp at hc ⊢; tauto), ?_⟩
      rintro rfl
      have hmore := List.count_pos_iff.mpr hc
      simp only [List.count_append, List.count_cons] at hat hmore
      simp at hat
      omega
    rw [List.forall_mem_append, List.forall_mem_append] at hapart
    exact ⟨user, host, top, rfl, mem_runOf.mpr ⟨huser, hapart.1.1⟩,
      mem_runOf.mpr ⟨hhost, hapart.1.2⟩, mem_runOf.mpr ⟨htop, hapart.2⟩⟩
  · rintro ⟨user, host, top, rfl, huser, hhost, htop⟩
    simp only [mem_runOf, isAddressChar_iff] at huser hhost htop
    have hnone {w : List Char} (hw : ∀ c ∈ w, Text.isBlank c = false ∧ c ≠ '@') :
        w.count '@' = 0 := List.count_eq_zero.mpr (fun hmem => (hw '@' hmem).2 rfl)
    refine ⟨?_, ?_, user, _, rfl, huser.1, host, top, rfl, hhost.1, htop.1⟩
    · simp only [List.forall_mem_append, List.forall_mem_cons]
      exact ⟨fun c hc => (huser.2 c hc).1, rfl, fun c hc => (hhost.2 c hc).1, rfl,
        fun c hc => (htop.2 c hc).1⟩
    · simp [hnone huser.2, hnone hhost.2, hnone htop.2]

theorem isEmail_iff {cs : List Char} : isEmail cs = true ↔ cs ∈ addressPattern := by
  rw [mem_addressPattern]
  unfold isEmail
  split
  · rename_i hcut
    refine iff_of_false Bool.false_ne_true ?_
    rintro ⟨user, host, top, rfl, _⟩
    exact Text.cutOnce_eq_none.mp hcut (by simp)
  · rename_i user domain hcut
    obtain ⟨rfl, huser⟩ := Text.cutOnce_eq_some.mp hcut
    simp only [Bool.and_eq_true, List.all_eq_true, Bool.not_eq_true', List.isEmpty_eq_false_iff,
      List.contains_iff_mem, mem_drop_dropLast]
    constructor
    · rintro ⟨⟨⟨hne, hchars⟩, hdomain⟩, host, top, rfl, hhost, htop⟩
      rw [List.forall_mem_append, List.forall_mem_cons] at hdomain
      exact ⟨user, host, top, rfl, mem_runOf.mpr ⟨hne, hchars⟩, mem_runOf.mpr ⟨hhost, hdomain.1⟩,
        mem_runOf.mpr ⟨htop, hdomain.2.2⟩⟩
    · rintro ⟨user', host, top, heq, huser', hhost, htop⟩
      simp only [mem_runOf] at huser' hhost htop
      -- the first `@` is where the text is cut, as there is none in front of either
      have hcut' : Text.cutOnce '@' (user ++ '@' :: domain) = some (user', host ++ '.' :: top) :=
        Text.cutOnce_eq_some.mpr ⟨heq, fun hmem => (isAddressChar_iff.mp (huser'.2 _ hmem)).2 rfl⟩
      rw [hcut] at hcut'
      cases hcut'
      refine ⟨⟨huser', ?_⟩, host, top, rfl, hhost.1, htop.1⟩
      rw [List.forall_mem_append, List.forall_mem_cons]
      exact ⟨hhost.2, rfl, htop.2⟩

theorem passes_of_value {v : Json} (h : ¬NoValue (some v)) (message : String) :
    (email message).passes (some v) = (email message).accepts v := by
  have hempty : isEmptyValue (some v) = false := by
    rw [← Bool.not_eq_true, isEmptyValue_iff]
    exact h
  simp [passes, hempty]

/-- The email rule accepts the texts that match the pattern, which are the addresses, and refuses
everything that is a value but no text. -/
theorem email_passes_iff (message : String) :
    (∀ s : String, s ≠ "" →
      ((email message).passes (some (.str s)) = true ↔ IsAddress s.toList) ∧
        (IsAddress s.toList ↔ s.toList ∈ addressPattern)) ∧
      ∀ v : Json, ¬NoValue (some v) → (∀ s, v ≠ .str s) →
        (email message).passes (some v) = false := by
  constructor
  · intro s hs
    have hvalue : ¬NoValue (some (.str s)) := by
      intro hnone
      cases hnone
      exact hs rfl
    refine ⟨?_, isAddress_iff_mem_addressPattern⟩
    rw [passes_of_value hvalue, isAddress_iff_mem_addressPattern, ← isEmail_iff]
    exact Iff.rfl
  · intro v hvalue htext
    rw [passes_of_value hvalue]
    cases v with
    | str s => exact absurd rfl (htext s)
    | _ => rfl

/-- The dots of this domain stand first, twice in a row and last, and one of them inside. -/
theorem email_passes_dotted :
    "a.b@.c..io.".toList ∈ addressPattern ∧
      (email "bad").passes (some (.str "a.b@.c..io.")) = true ∧
      (email "bad").passes (some (.str "ann@.io\n")) = false ∧
      (email "bad").passes (some (.int 7)) = false := by
  obtain ⟨htexts, hothers⟩ := email_passes_iff "bad"
  obtain ⟨hpasses, hpattern⟩ := htexts "a.b@.c..io." (by decide)
  have hblank : "a.b@.c..io.".toList.all (fun c => !Text.isBlank c) = true := rfl
  have haddress : IsAddress "a.b@.c..io.".toList :=
    ⟨fun c hc => by simpa using List.all_eq_true.mp hblank c hc, by decide, "a.b".toList,
      ".c..io.".toList, by decide, by decide, ".c".toList, ".io.".toList, by decide, by decide,
      by decide⟩
  refine ⟨hpattern.mp haddress, hpasses.mpr haddress, ?_, hothers _ nofun nofun⟩
  rw [← Bool.not_eq_true, (htexts "ann@.io\n" (by decide)).1]
  exact fun h => absurd (h.noBlank '\n' (by decide)) (by decide)

end ValidationRule

end UiSchema
