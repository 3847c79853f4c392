import UiSchema.Dict

/-!
# Dictionaries by their values

An ascending list of entries is determined by what is stored under each key. Storing, overlaying and
restricting are described by that reading, and keep the order.
-/

namespace UiSchema.Dict

set_option autoImplicit false

variable {α : Type} {d e : Dict α} {k : String} {v : α}

theorem mem_of_get? (h : get? d k = some v) : (k, v) ∈ d := by
  induction d with
  | nil => cases h
  | cons entry rest ih =>
    obtain ⟨k', v'⟩ := entry
    simp only [get?] at h
    split at h
    · rename_i hk
      cases h
      rw [hk]
      exact List.mem_cons_self
    · exact List.mem_cons_of_mem _ (ih h)

theorem get?_eq_none_of_not_mem (h : k ∉ keys d) : get? d k = none := by
  cases hget : get? d k with
  | none => rfl
  | some v => exact absurd (List.mem_map.mpr ⟨(k, v), mem_of_get? hget, rfl⟩) h

theorem isSome_get?_of_mem (h : (k, v) ∈ d) : (get? d k).isSome = true := by
  induction d with
  | nil => cases h
  | cons entry rest ih =>
    rw [get?]
    split
    · rfl
    · rename_i hk
      rcases List.mem_cons.mp h with heq | hrest
      · cases heq
        exact absurd rfl hk
      · exact ih hrest

/-- An entry with another value is read under its own key only. -/
theorem get?_replace (before after : Dict α) (key : String) (v w : α) (k : String) :
    get? (before ++ (key, w) :: after) k = get? (before ++ (key, v) :: after) k ∨
      (k = key ∧ get? (before ++ (key, v) :: after) k = some v ∧
        get? (before ++ (key, w) :: after) k = some w) := by
  induction before with
  | nil =>
    by_cases hk : key = k
    · exact Or.inr ⟨hk.symm, if_pos hk, if_pos hk⟩
    · refine Or.inl ?_
      simp only [List.nil_append, get?, if_neg hk]
  | cons first rest ih =>
    simp only [List.cons_append, get?]
    split
    · exact Or.inl rfl
    · exact ih

/-- An entry of a new key is read under that key only, wherever it stands. -/
theorem get?_add {before after : Dict α} {key : String} (hkey : key ∉ keys (before ++ after))
    (v : α) (k : String) :
    get? (before ++ (key, v) :: after) k =
      if k = key then some v else get? (before ++ after) k := by
  induction before with
  | nil =>
    by_cases hk : k = key
    · rw [if_pos hk]
      exact if_pos hk.symm
    · rw [if_neg hk]
      exact if_neg (Ne.symm hk)
  | cons first rest ih =>
    obtain ⟨hfirst, hrest⟩ := not_or.mp (mt List.mem_cons.mpr hkey)
    simp only [List.cons_append, get?, ih hrest]
    split
    · rename_i hk
      rw [if_neg (fun heq => hfirst (heq.symm.trans hk.symm))]
    · rfl

theorem get?_of_forall_lt (h : ∀ entry ∈ d, k < entry.1) : get? d k = none := by
  cases hget : get? d k with
  | none => rfl
  | some v => exact absurd (h _ (mem_of_get? hget)) Std.lt_irrefl

theorem mem_insert {entry : String × α} (h : entry ∈ insert d k v) :
    entry = (k, v) ∨ entry ∈ d := by
  induction d with
  | nil => exact Or.inl (List.mem_singleton.mp h)
  | cons first rest ih =>
    obtain ⟨k', v'⟩ := first
    simp only [insert] at h
    split at h
    · rcases List.mem_cons.mp h with h | h
      · exact Or.inl h
      · exact Or.inr (List.mem_cons_of_mem _ h)
    · split at h
      · exact List.mem_cons.mp h
      · rcases List.mem_cons.mp h with rfl | h
        · exact Or.inr List.mem_cons_self
        · exact (ih h).imp_right (List.mem_cons_of_mem _)

theorem ascending_insert (hd : Ascending d) (k : String) (v : α) : Ascending (insert d k v) := by
  induction d with
  | nil => exact List.pairwise_singleton _ _
  | cons first rest ih =>
    obtain ⟨k', v'⟩ := first
    obtain ⟨hfirst, hrest⟩ := List.pairwise_cons.mp hd
    simp only [insert]
    split
    · rename_i hk
      subst hk
      exact List.pairwise_cons.mpr ⟨hfirst, hrest⟩
    · split
      · rename_i hlt
        refine List.pairwise_cons.mpr ⟨fun entry hentry => ?_, hd⟩
        rcases List.mem_cons.mp hentry with rfl | hentry
        · exact hlt
        · exact Std.lt_trans hlt (hfirst entry hentry)
      · rename_i hne hlt
        refine List.pairwise_cons.mpr ⟨fun entry hentry => ?_, ih hrest⟩
        rcases mem_insert hentry with rfl | hentry
        · rcases Std.lt_trichotomy k k' with h | h | h
          · exact absurd h hlt
          · exact absurd h hne
          · exact h
        · exact hfirst entry hentry

theorem ascending_overlay {base : Dict α} (hbase : Ascending base) (top : Dict α) :
    Ascending (overlay base top) := by
  unfold overlay
  induction top generalizing base with
  | nil => exact hbase
  | cons entry rest ih => exact ih (ascending_insert hbase entry.1 entry.2)

theorem mem_overlay {base top : Dict α} {entry : String × α} (h : entry ∈ overlay base top) :
    entry ∈ base ∨ entry ∈ top := by
  unfold overlay at h
  induction top generalizing base with
  | nil => exact Or.inl h
  | cons first rest ih =>
    rcases ih h with h | h
    · rcases mem_insert h with rfl | h
      · exact Or.inr List.mem_cons_self
      · exact Or.inl h
    · exact Or.inr (List.mem_cons_of_mem first h)

theorem insert_ne_nil (d : Dict α) (k : String) (v : α) : insert d k v ≠ [] := by
  unfold insert
  repeat' split
  all_goals exact List.cons_ne_nil _ _

theorem ofList_eq_nil_iff {entries : List (String × α)} : ofList entries = [] ↔ entries = [] := by
  rcases List.eq_nil_or_concat entries with rfl | ⟨init, last, rfl⟩
  · exact ⟨fun _ => rfl, fun _ => rfl⟩
  · rw [ofList, overlay, List.concat_eq_append, List.foldl_append]
    exact ⟨fun h => absurd h (insert_ne_nil _ _ _), fun h => absurd h (by simp)⟩

theorem ascending_ofList (entries : List (String × α)) : Ascending (ofList entries) :=
  ascending_overlay .nil entries

theorem insert_insert (d : Dict α) (k : String) (v w : α) :
    insert (insert d k v) k w = insert d k w := by
  induction d with
  | nil => simp [insert]
  | cons first rest ih =>
    obtain ⟨k', v'⟩ := first
    by_cases hk : k = k'
    · simp [insert, hk]
    · by_cases hlt : k < k'
      · simp [insert, hk, hlt]
      · simp [insert, hk, hlt, ih]

theorem insert_of_forall_lt (h : ∀ entry ∈ d, k < entry.1) (v : α) :
    insert d k v = (k, v) :: d := by
  cases d with
  | nil => rfl
  | cons first rest =>
    obtain ⟨k', v'⟩ := first
    have hlt : k < k' := h (k', v') List.mem_cons_self
    rw [insert, if_neg (Std.ne_of_lt hlt), if_pos hlt]

theorem insert_perm (h : k ∉ keys d) (v : α) : (insert d k v).Perm ((k, v) :: d) := by
  induction d with
  | nil => exact .refl _
  | cons first rest ih =>
    obtain ⟨k', v'⟩ := first
    obtain ⟨hne, hrest⟩ := not_or.mp (mt List.mem_cons.mpr h)
    rw [insert, if_neg hne]
    split
    · exact .refl _
    · exact ((ih hrest).cons (k', v')).trans (.swap _ _ _)

theorem get?_of_mem (hd : (keys d).Nodup) (h : (k, v) ∈ d) : get? d k = some v := by
  induction d with
  | nil => cases h
  | cons first rest ih =>
    obtain ⟨k', v'⟩ := first
    obtain ⟨hfirst, hrest⟩ := List.nodup_cons.mp hd
    rcases List.mem_cons.mp h with heq | h
    · cases heq
      simp [get?]
    · have hne : k' ≠ k := fun heq => hfirst (List.mem_map.mpr ⟨(k, v), h, heq.symm⟩)
      rw [get?, if_neg hne, ih hrest h]

theorem get?_eq_some_iff (hd : (keys d).Nodup) : get? d k = some v ↔ (k, v) ∈ d :=
  ⟨mem_of_get?, get?_of_mem hd⟩

theorem Ascending.nodup_keys (hd : Ascending d) : (keys d).Nodup :=
  List.pairwise_map.mpr (hd.imp (fun hlt => Std.ne_of_lt hlt))

theorem ascending_iff_keys : Ascending d ↔ (keys d).Pairwise (· < ·) := List.pairwise_map.symm

@[simp] theorem keys_mapValues {β : Type} (f : α → β) (d : Dict α) :
    keys (mapValues f d) = keys d := by
  simp [keys, mapValues]

theorem ascending_mapValues {β : Type} (f : α → β) (hd : Ascending d) :
    Ascending (mapValues f d) := by
  rw [ascending_iff_keys, keys_mapValues]
  exact ascending_iff_keys.mp hd

theorem get?_mapValues {β : Type} (f : α → β) (d : Dict α) (key : String) :
    get? (mapValues f d) key = (get? d key).map f := by
  induction d with
  | nil => rfl
  | cons entry rest ih =>
    obtain ⟨k, v⟩ := entry
    by_cases hk : k = key
    · rw [mapValues, List.map_cons, get?, get?, if_pos hk, if_pos hk, Option.map_some]
    · rw [mapValues, List.map_cons, get?, get?, if_neg hk, if_neg hk]
      exact ih

/-- Ascending dictionaries with the same value under every key are the same list. -/
theorem ext_get? (hd : Ascending d) (he : Ascending e) (h : ∀ key, get? d key = get? e key) :
    d = e := by
  induction d generalizing e with
  | nil =>
    cases e with
    | nil => rfl
    | cons first rest => simpa [get?] using h first.1
  | cons first rest ih =>
    obtain ⟨k, v⟩ := first
    cases e with
    | nil => simpa [get?] using h k
    | cons first' rest' =>
      obtain ⟨k', v'⟩ := first'
      obtain ⟨hfirst, hrest⟩ := List.pairwise_cons.mp hd
      obtain ⟨hfirst', hrest'⟩ := List.pairwise_cons.mp he
      -- the first key of either list is in the other, and stands first there
      have hk : k = k' := by
        have hleft : (k, v) ∈ (k', v') :: rest' := mem_of_get? (by rw [← h]; simp [get?])
        have hright : (k', v') ∈ (k, v) :: rest := mem_of_get? (by rw [h]; simp [get?])
        rcases List.mem_cons.mp hleft with heq | hleft
        · exact congrArg Prod.fst heq
        · rcases List.mem_cons.mp hright with heq | hright
          · exact (congrArg Prod.fst heq).symm
          · exact absurd (Std.lt_trans (hfirst _ hright) (hfirst' _ hleft)) Std.lt_irrefl
      subst hk
      have hv : v = v' := by simpa [get?] using h k
      subst hv
      rw [ih hrest hrest' (fun key => ?_)]
      by_cases hkey : k = key
      · subst hkey
        rw [get?_of_forall_lt hfirst, get?_of_forall_lt hfirst']
      · simpa [get?, hkey] using h key

theorem get?_filter (d : Dict α) (p : String → Bool) (key : String) :
    get? (d.filter (fun entry => p entry.1)) key = if p key then get? d key else none := by
  induction d with
  | nil => simp
  | cons first rest ih =>
    obtain ⟨k, v⟩ := first
    by_cases hk : k = key
    · subst hk
      by_cases hp : p k
      · simp [hp, get?]
      · simpa [hp] using ih
    · by_cases hp : p k
      · simpa [hp, get?, hk] using ih
      · simpa [hp, get?, hk] using ih

/-- Overlaying entries that all hold the value of one function of their keys. -/
theorem get?_overlay_of_function {entries : List (String × α)} {f : String → Option α}
    (h : ∀ entry ∈ entries, f entry.1 = some entry.2) (base : Dict α) (key : String) :
    get? (overlay base entries) key =
      if key ∈ entries.map Prod.fst then f key else get? base key := by
  unfold overlay
  induction entries generalizing base with
  | nil => simp
  | cons first rest ih =>
    obtain ⟨k, v⟩ := first
    have hrest : ∀ entry ∈ rest, f entry.1 = some entry.2 :=
      fun entry hentry => h entry (List.mem_cons_of_mem _ hentry)
    rw [List.foldl_cons, ih hrest]
    by_cases hkey : key = k
    · subst hkey
      have hfirst : f key = some v := h (key, v) List.mem_cons_self
      simp [hfirst, get?_insert_self]
    · simp only [List.map_cons, List.mem_cons, hkey, false_or, get?_insert_of_ne base v hkey]

theorem get?_ofList_of_nodup {entries : List (String × α)} (h : (entries.map Prod.fst).Nodup)
    (key : String) : get? (ofList entries) key = get? entries key := by
  have hself : ∀ entry ∈ entries, get? entries entry.1 = some entry.2 :=
    fun entry hentry => get?_of_mem h hentry
  rw [ofList, get?_overlay_of_function hself, get?_nil]
  split
  · rfl
  · rename_i hkey
    exact (get?_eq_none_of_not_mem hkey).symm

/-- What members with distinct keys store under their own keys. -/
theorem get?_ofList_keyed {β : Type} {keyOf : β → String} {members : List β}
    (h : (members.map keyOf).Nodup) (value? : β → Option α) :
    get? (ofList (members.filterMap (fun m => (value? m).map (fun v => (keyOf m, v))))) k = some v ↔
      ∃ m ∈ members, keyOf m = k ∧ value? m = some v := by
  have hkeys : (keys (members.filterMap
      (fun m => (value? m).map (fun v => (keyOf m, v))))).Nodup := by
    rw [keys, List.Nodup, List.pairwise_map, List.pairwise_filterMap]
    apply (List.pairwise_map.mp h).imp
    intro m n hne entry hentry entry' hentry'
    obtain ⟨_, _, rfl⟩ := Option.map_eq_some_iff.mp hentry
    obtain ⟨_, _, rfl⟩ := Option.map_eq_some_iff.mp hentry'
    exact hne
  rw [get?_ofList_of_nodup hkeys, get?_eq_some_iff hkeys, List.mem_filterMap]
  simp only [Option.map_eq_some_iff, Prod.mk.injEq]
  constructor
  · rintro ⟨m, hm, w, hw, hk, rfl⟩
    exact ⟨m, hm, hk, hw⟩
  · rintro ⟨m, hm, hk, hv⟩
    exact ⟨m, hm, v, hv, hk, rfl⟩

theorem get?_overlay {top : Dict α} (htop : Ascending top) (base : Dict α) (key : String) :
    get? (overlay base top) key = (get? top key).or (get? base key) := by
  rw [get?_overlay_of_function (fun entry hentry => get?_of_mem htop.nodup_keys hentry)]
  split
  · rename_i hkey
    obtain ⟨⟨k, v⟩, hentry, rfl⟩ := List.mem_map.mp hkey
    rw [get?_of_mem htop.nodup_keys hentry]
    rfl
  · rename_i hkey
    rw [get?_eq_none_of_not_mem hkey, Option.none_or]

/-- Without a common key, the entries of either dictionary are found again in the overlaid one. -/
theorem filter_overlay {base top : Dict α} (hbase : Ascending base) (htop : Ascending top)
    (h : ∀ key ∈ keys base, key ∉ keys top) :
    (overlay base top).filter (fun entry => decide (entry.1 ∉ keys top)) = base ∧
      (overlay base top).filter (fun entry => decide (entry.1 ∉ keys base)) = top := by
  have hascending := ascending_overlay hbase top
  constructor
  · apply ext_get? (hascending.filter _) hbase
    intro key
    rw [get?_filter _ (fun key => decide (key ∉ keys top)), get?_overlay htop]
    by_cases hkey : key ∈ keys top
    · have hbase : key ∉ keys base := fun hmem => h key hmem hkey
      simp [hkey, get?_eq_none_of_not_mem hbase]
    · simp [hkey, get?_eq_none_of_not_mem hkey]
  · apply ext_get? (hascending.filter _) htop
    intro key
    rw [get?_filter _ (fun key => decide (key ∉ keys base)), get?_overlay htop]
    by_cases hkey : key ∈ keys base
    · simp [hkey, get?_eq_none_of_not_mem (h key hkey)]
    · simp [hkey, get?_eq_none_of_not_mem hkey]

/-- Of members with distinct keys the first one with a key is the only one. -/
theorem find?_eq_some_of_nodup {keyOf : α → String} {members : List α}
    (h : (members.map keyOf).Nodup) {m : α} :
    members.find? (fun n => keyOf n == k) = some m ↔ m ∈ members ∧ keyOf m = k := by
  induction members with
  | nil => simp
  | cons first rest ih =>
    obtain ⟨hfirst, hrest⟩ := List.nodup_cons.mp h
    by_cases hkey : keyOf first = k
    · rw [List.find?_cons_of_pos (by simpa using hkey), Option.some.injEq]
      constructor
      · rintro rfl
        exact ⟨List.mem_cons_self, hkey⟩
      · rintro ⟨hm, hmk⟩
        rcases List.mem_cons.mp hm with rfl | hm
        · rfl
        · exact absurd (List.mem_map.mpr ⟨m, hm, hmk.trans hkey.symm⟩) hfirst
    · rw [List.find?_cons_of_neg (by simpa using hkey), ih hrest, List.mem_cons]
      constructor
      · exact fun ⟨hm, hmk⟩ => ⟨Or.inr hm, hmk⟩
      · rintro ⟨rfl | hm, hmk⟩
        · exact absurd hmk hkey
        · exact ⟨hm, hmk⟩

/-- The first dictionary has all that is stored in the second, and possibly more. -/
def Extends (large small : Dict α) : Prop := ∀ key v, get? small key = some v → get? large key = some v

end UiSchema.Dict
