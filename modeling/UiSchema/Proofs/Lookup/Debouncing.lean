import Mathlib.Data.List.Induction
import Mathlib.Data.List.Nodup
import UiSchema.Lookup.Debouncer

/-!
# Only the latest call runs

On a debouncer calls start and windows end in any order. The count of a debouncer follows the number
of the starts, and the ticket of a call is what the count was after its own start. So when the window
of a call ends, its ticket is the count exactly if no other call was started meanwhile, as long as
the count has not come around to it again.
-/

namespace UiSchema

set_option autoImplicit false

namespace Debouncer

def Event.isStart : Event → Bool
  | .start _ => true
  | .expire _ => false

def starts (es : List Event) : Nat := es.countP Event.isStart

def Waiting (es : List Event) (call : Nat) : Prop := .start call ∈ es ∧ .expire call ∉ es

instance (es : List Event) : DecidablePred (Waiting es) :=
  fun call => inferInstanceAs (Decidable (.start call ∈ es ∧ .expire call ∉ es))

/-- What may happen after some events: a call starts once, and its window ends once after that. -/
def Permits (past : List Event) : Event → Prop
  | .start call => .start call ∉ past
  | .expire call => Waiting past call

instance (past : List Event) : DecidablePred (Permits past)
  | .start call => inferInstanceAs (Decidable (.start call ∉ past))
  | .expire call => inferInstanceAs (Decidable (Waiting past call))

/-- The events may happen one by one, after some others. -/
def Continues (past : List Event) : List Event → Prop
  | [] => True
  | e :: rest => Permits past e ∧ Continues (past ++ [e]) rest

instance decidableContinues (past : List Event) : DecidablePred (Continues past)
  | [] => isTrue trivial
  | e :: rest =>
    have := decidableContinues (past ++ [e]) rest
    inferInstanceAs (Decidable (Permits past e ∧ Continues (past ++ [e]) rest))

/-- The events of any number of calls, in any order that is possible. -/
def Interleaved (es : List Event) : Prop := Continues [] es

instance : DecidablePred Interleaved := decidableContinues []

/-- The call is the last one that is started. -/
def Latest (es : List Event) (call : Nat) : Prop :=
  ∃ before after, es = before ++ .start call :: after ∧ ∀ other, .start other ∉ after

/-- The window of the call ends, and no call is started between its own start and that end. -/
def Undisturbed (es : List Event) (call : Nat) : Prop :=
  ∃ before between after, es = before ++ .start call :: (between ++ .expire call :: after) ∧
    ∀ other, .start other ∉ between

/-- The state that events lead to from a debouncer that no call waits on. -/
def reached (d : Debouncer) (es : List Event) : State := (State.run { debouncer := d } es).1

def ran (d : Debouncer) (es : List Event) : List Nat := (State.run { debouncer := d } es).2

/-- What a debouncer does with calls: each runs undisturbed or not at all, and it is settled when its
window ends. Of the calls that wait together only the last can run. -/
structure Debounced (d : Debouncer) (es : List Event) : Prop where
  runs : ∀ call, call ∈ d.ran es ↔ Undisturbed es call
  once : (d.ran es).Nodup
  undisturbed : ∀ before call after, es = before ++ .expire call :: after → Undisturbed es call →
    (d.reached before).step (.expire call) = (d.reached before, some call)
  superseded : ∀ before call after, es = before ++ .expire call :: after → ¬Undisturbed es call →
    (d.reached before).step (.expire call) = (d.reached before, none)
  last : ∀ before after call, es = before ++ after → Waiting before call → call ∈ d.ran es →
    Latest before call
  alone : ∀ before after call other, es = before ++ after → Waiting before call →
    Waiting before other → call ∈ d.ran es → other ∈ d.ran es → call = other

section Interleavings

variable {past es before after : List Event} {e e' : Event} {call : Nat}

theorem continues_append :
    Continues past (before ++ after) ↔ Continues past before ∧ Continues (past ++ before) after := by
  induction before generalizing past with
  | nil => rw [List.nil_append, List.append_nil, Continues, true_and]
  | cons e rest ih =>
    rw [List.cons_append, Continues, Continues, ih, and_assoc, List.append_assoc,
      List.singleton_append]

theorem Interleaved.left (h : Interleaved (before ++ after)) : Interleaved before :=
  (continues_append.mp h).1

theorem Interleaved.permits (h : Interleaved (before ++ e :: after)) : Permits before e :=
  (continues_append.mp h).2.1

theorem Permits.notMem (h : Permits past e) : e ∉ past := by
  cases e with
  | start call => exact h
  | expire call => exact h.2

theorem Interleaved.nodup (h : Interleaved es) : es.Nodup := by
  induction es using List.reverseRecOn with
  | nil => exact List.nodup_nil
  | append_singleton es e ih =>
    rw [← List.concat_eq_append]
    exact (ih h.left).concat h.permits.notMem

/-- A part of a sequence that is one event longer ends before the last event, or with it. -/
theorem concat_eq_split (h : es ++ [e] = before ++ e' :: after) :
    (es = before ∧ e = e' ∧ after = []) ∨
      ∃ rest, es = before ++ e' :: rest ∧ after = rest ++ [e] := by
  rcases List.eq_nil_or_concat after with rfl | ⟨rest, last, rfl⟩
  · obtain ⟨hes, he⟩ := List.append_singleton_inj.mp h
    exact Or.inl ⟨hes, he, rfl⟩
  · rw [List.concat_eq_append, ← List.cons_append, ← List.append_assoc,
      List.append_singleton_inj] at h
    obtain ⟨hes, rfl⟩ := h
    exact Or.inr ⟨rest, hes, List.concat_eq_append⟩

theorem split_unique {before' after' : List Event} (hes : (before ++ e :: after).Nodup)
    (h : before ++ e :: after = before' ++ e :: after') : before = before' ∧ after = after' := by
  have hnew := (List.nodup_cons.mp (List.nodup_middle.mp hes)).1
  obtain ⟨hbefore, hafter⟩ := not_or.mp (List.mem_append.not.mp hnew)
  obtain ⟨hfirst, _, hrest⟩ := (List.append_cons_inj_of_notMem hbefore hafter).mp h
  exact ⟨hfirst, hrest⟩

theorem undisturbed_iff (h : Interleaved (before ++ .expire call :: after)) :
    Undisturbed (before ++ .expire call :: after) call ↔ Latest before call := by
  constructor
  · rintro ⟨first, between, rest, hsplit, hquiet⟩
    rw [← List.cons_append, ← List.append_assoc] at hsplit
    exact ⟨first, between, (split_unique h.nodup hsplit).1, hquiet⟩
  · rintro ⟨first, between, rfl, hquiet⟩
    exact ⟨first, between, after, List.append_assoc .., hquiet⟩

theorem Undisturbed.exists_split (h : Undisturbed es call) :
    ∃ before after, es = before ++ .expire call :: after := by
  obtain ⟨first, between, after, rfl, _⟩ := h
  exact ⟨first ++ .start call :: between, after, by rw [List.append_assoc, List.cons_append]⟩

theorem Latest.left (h : Latest (before ++ after) call) (hes : (before ++ after).Nodup)
    (hstart : .start call ∈ before) : Latest before call := by
  obtain ⟨first, rest, hsplit, hquiet⟩ := h
  obtain ⟨first', rest', rfl⟩ := List.append_of_mem hstart
  rw [List.append_assoc, List.cons_append] at hes hsplit
  obtain ⟨rfl, rfl⟩ := split_unique hes hsplit
  exact ⟨_, rest', rfl, fun other hmem => hquiet other (List.mem_append_left _ hmem)⟩

theorem eq_of_start_cons_eq {between rest : List Event} {other : Nat}
    (hquiet : ∀ other, .start other ∉ after)
    (h : .start call :: after = between ++ .start other :: rest) : call = other := by
  cases between with
  | nil =>
    rw [List.nil_append, List.cons.injEq, Event.start.injEq] at h
    exact h.1
  | cons e between =>
    rw [List.cons_append, List.cons.injEq] at h
    exact absurd (h.2 ▸ List.mem_append_right _ List.mem_cons_self) (hquiet other)

theorem Latest.unique {other : Nat} (h : Latest es call) (h' : Latest es other) :
    call = other := by
  obtain ⟨before, after, rfl, hquiet⟩ := h
  obtain ⟨before', after', hsplit, hquiet'⟩ := h'
  rcases List.append_eq_append_iff.mp hsplit with ⟨between, _, heq⟩ | ⟨between, _, heq⟩
  · exact eq_of_start_cons_eq hquiet heq
  · exact (eq_of_start_cons_eq hquiet' heq).symm

/-- A call that waits and then runs undisturbed is the last one that was started so far. -/
theorem latest_of_waiting (hes : Interleaved (before ++ after)) (hwaiting : Waiting before call)
    (h : Undisturbed (before ++ after) call) : Latest before call := by
  obtain ⟨ended, rest, hsplit⟩ := h.exists_split
  have hlatest : Latest ended call := by
    rw [hsplit] at hes h
    exact (undisturbed_iff hes).mp h
  rcases List.append_eq_append_iff.mp hsplit with ⟨later, rfl, _⟩ | ⟨later, rfl, hlater⟩
  · rw [hsplit] at hes
    exact hlatest.left hes.left.nodup hwaiting.1
  · cases later with
    | nil => rwa [List.append_nil]
    | cons e later =>
      rw [List.cons_append, List.cons.injEq] at hlater
      exact absurd (hlater.1 ▸ List.mem_append_right _ List.mem_cons_self) hwaiting.2

theorem starts_append : starts (before ++ after) = starts before + starts after :=
  List.countP_append

theorem starts_eq_zero_iff : starts es = 0 ↔ ∀ call, .start call ∉ es := by
  rw [starts, List.countP_eq_zero]
  constructor
  · exact fun h call hmem => h _ hmem rfl
  · intro h e he
    cases e with
    | start call => exact absurd he (h call)
    | expire call => exact Bool.false_ne_true

end Interleavings

section Runs

variable {d : Debouncer} {es before after : List Event} {call : Nat}

theorem State.run_concat (s : State) (es : List Event) (e : Event) :
    s.run (es ++ [e]) =
      (((s.run es).1.step e).1, (s.run es).2 ++ ((s.run es).1.step e).2.toList) := by
  induction es generalizing s with
  | nil => simp [State.run]
  | cons e' rest ih => simp [State.run, ih]

theorem reached_concat (d : Debouncer) (es : List Event) (e : Event) :
    d.reached (es ++ [e]) = ((d.reached es).step e).1 :=
  congrArg Prod.fst (State.run_concat _ es e)

theorem ran_concat (d : Debouncer) (es : List Event) (e : Event) :
    d.ran (es ++ [e]) = d.ran es ++ ((d.reached es).step e).2.toList :=
  congrArg Prod.snd (State.run_concat _ es e)

theorem State.eq_expire_of_step {s : State} {e : Event} (h : (s.step e).2 = some call) :
    e = .expire call := by
  cases e with
  | start other => exact absurd h nofun
  | expire other =>
    simp only [State.step] at h
    split at h
    · simp only [Option.ite_none_right_eq_some, Option.some.injEq] at h
      rw [h.2]
    · exact absurd h nofun

theorem mem_ran_iff :
    call ∈ d.ran es ↔ ∃ before after, es = before ++ .expire call :: after ∧
      ((d.reached before).step (.expire call)).2 = some call := by
  induction es using List.reverseRecOn with
  | nil => simp [ran, State.run]
  | append_singleton es e ih =>
    rw [ran_concat, List.mem_append, Option.mem_toList, ih]
    constructor
    · rintro (⟨before, after, rfl, hrun⟩ | hrun)
      · exact ⟨before, after ++ [e], List.append_assoc .., hrun⟩
      · obtain rfl := State.eq_expire_of_step hrun
        exact ⟨es, [], rfl, hrun⟩
    · rintro ⟨before, after, hsplit, hrun⟩
      rcases concat_eq_split hsplit with ⟨rfl, rfl, _⟩ | ⟨rest, rfl, _⟩
      · exact Or.inr hrun
      · exact Or.inl ⟨before, rest, rfl, hrun⟩

/-- The state counts the starts, and knows for each call how many there were with its own. -/
structure Tracks (d : Debouncer) (es : List Event) (s : State) : Prop where
  generation : s.debouncer.generation = d.generation + UInt64.ofNat (starts es)
  tickets : ∀ before call after, es = before ++ .start call :: after →
    s.tickets.lookup call = some (d.generation + UInt64.ofNat (starts before + 1))

theorem Tracks.step {s : State} {e : Event} (h : Tracks d es s) (he : Permits es e) :
    Tracks d (es ++ [e]) (s.step e).1 := by
  cases e with
  | start call =>
    have hcount : s.debouncer.generation + 1 = d.generation + UInt64.ofNat (starts es + 1) := by
      rw [h.generation, UInt64.ofNat_add, UInt64.add_assoc]
      rfl
    refine ⟨?_, fun before other after hsplit => ?_⟩
    · rw [starts_append]
      exact hcount
    · -- the ticket of this call is in front of the earlier ones, which belong to other calls
      rcases concat_eq_split hsplit with ⟨rfl, heq, _⟩ | ⟨rest, rfl, _⟩
      · cases heq
        rw [← hcount]
        exact List.lookup_cons_self
      · have hne : other ≠ call := by
          rintro rfl
          exact he (List.mem_append_right _ List.mem_cons_self)
        rw [← h.tickets before other rest rfl]
        simp only [State.step, List.lookup_cons, beq_false_of_ne hne]
  | expire call =>
    have hkeep : (s.step (.expire call)).1 = s := by
      simp only [State.step]
      split <;> rfl
    rw [hkeep]
    refine ⟨?_, fun before other after hsplit => ?_⟩
    · rw [starts_append]
      exact h.generation
    · rcases concat_eq_split hsplit with ⟨_, heq, _⟩ | ⟨rest, hes, _⟩
      · cases heq
      · exact h.tickets before other rest hes

theorem tracks_reached (d : Debouncer) (h : Interleaved es) : Tracks d es (d.reached es) := by
  induction es using List.reverseRecOn with
  | nil => exact ⟨(UInt64.add_zero _).symm, fun before _ _ hsplit => absurd hsplit (by simp)⟩
  | append_singleton es e ih =>
    rw [reached_concat]
    exact (ih h.left).step h.permits

theorem Tracks.step_expire {s : State}
    (h : Tracks d (before ++ .start call :: after) s) :
    s.step (.expire call) =
      (s, if d.generation + UInt64.ofNat (starts (before ++ .start call :: after)) =
        d.generation + UInt64.ofNat (starts before + 1) then some call else none) := by
  simp only [State.step, h.tickets before call after rfl, isCurrent, h.generation, beq_iff_eq]

theorem Tracks.step_of_latest {s : State} (h : Tracks d es s) (hlatest : Latest es call) :
    s.step (.expire call) = (s, some call) := by
  obtain ⟨before, after, rfl, hquiet⟩ := hlatest
  rw [h.step_expire, starts_append, ← List.singleton_append, starts_append,
    starts_eq_zero_iff.mpr hquiet]
  exact congrArg (Prod.mk s) (if_pos rfl)

theorem Tracks.step_of_not_latest {s : State} (h : Tracks d es s) (hcount : starts es < UInt64.size)
    (hstart : .start call ∈ es) (hlatest : ¬Latest es call) :
    s.step (.expire call) = (s, none) := by
  obtain ⟨before, after, rfl⟩ := List.append_of_mem hstart
  have hlater : starts after ≠ 0 := fun hzero =>
    hlatest ⟨before, after, rfl, starts_eq_zero_iff.mp hzero⟩
  have hsum : starts (before ++ .start call :: after) = starts before + (1 + starts after) := by
    rw [starts_append, ← List.singleton_append, starts_append]
    rfl
  rw [h.step_expire]
  refine congrArg (Prod.mk s) (if_neg ?_)
  -- both counts are below the size of the word, where they do not wrap
  rw [UInt64.add_right_inj, ← UInt64.toNat_inj, UInt64.toNat_ofNat_of_lt' hcount,
    UInt64.toNat_ofNat_of_lt' (by omega)]
  omega

theorem step_of_undisturbed (d : Debouncer) (hes : Interleaved (before ++ .expire call :: after))
    (h : Undisturbed (before ++ .expire call :: after) call) :
    (d.reached before).step (.expire call) = (d.reached before, some call) :=
  (tracks_reached d hes.left).step_of_latest ((undisturbed_iff hes).mp h)

theorem step_of_not_undisturbed (d : Debouncer)
    (hes : Interleaved (before ++ .expire call :: after))
    (hcount : starts (before ++ .expire call :: after) < UInt64.size)
    (h : ¬Undisturbed (before ++ .expire call :: after) call) :
    (d.reached before).step (.expire call) = (d.reached before, none) := by
  have hbefore : starts before < UInt64.size := by
    rw [starts_append] at hcount
    exact Nat.lt_of_le_of_lt (Nat.le_add_right ..) hcount
  exact (tracks_reached d hes.left).step_of_not_latest hbefore hes.permits.1
    (mt (undisturbed_iff hes).mpr h)

theorem mem_ran_iff_undisturbed (hes : Interleaved es) (hcount : starts es < UInt64.size) :
    call ∈ d.ran es ↔ Undisturbed es call := by
  rw [mem_ran_iff]
  constructor
  · rintro ⟨before, after, rfl, hrun⟩
    by_contra h
    rw [step_of_not_undisturbed d hes hcount h] at hrun
    exact absurd hrun nofun
  · intro h
    obtain ⟨before, after, rfl⟩ := h.exists_split
    exact ⟨before, after, rfl, congrArg Prod.snd (step_of_undisturbed d hes h)⟩

theorem nodup_ran (hes : Interleaved es) : (d.ran es).Nodup := by
  induction es using List.reverseRecOn with
  | nil => exact List.nodup_nil
  | append_singleton es e ih =>
    rw [ran_concat]
    cases hrun : ((d.reached es).step e).2 with
    | none => exact (List.append_nil (d.ran es)).symm ▸ ih hes.left
    | some call =>
      obtain rfl := State.eq_expire_of_step hrun
      rw [Option.toList_some, ← List.concat_eq_append]
      refine (ih hes.left).concat fun hmem => ?_
      obtain ⟨before, after, rfl, _⟩ := mem_ran_iff.mp hmem
      exact hes.permits.notMem (List.mem_append_right _ List.mem_cons_self)

end Runs

/-- Whatever the order of the starts and of the ends of the windows, a call runs exactly if no other
one is started before its window ends. -/
theorem run_debounced (d : Debouncer) {es : List Event} (h : Interleaved es)
    (hcount : starts es < UInt64.size) : Debounced d es := by
  have hruns (call : Nat) : call ∈ d.ran es ↔ Undisturbed es call :=
    mem_ran_iff_undisturbed h hcount
  have hlast (before after : List Event) (call : Nat) (hes : es = before ++ after)
      (hwaiting : Waiting before call) (hcall : call ∈ d.ran es) : Latest before call := by
    rw [hruns] at hcall
    subst hes
    exact latest_of_waiting h hwaiting hcall
  refine ⟨hruns, nodup_ran h, ?_, ?_, hlast, ?_⟩
  · rintro before call after rfl hcall
    exact step_of_undisturbed d h hcall
  · rintro before call after rfl hcall
    exact step_of_not_undisturbed d h hcount hcall
  · intro before after call other hes hcall hother hran hran'
    exact (hlast before after call hes hcall hran).unique
      (hlast before after other hes hother hran')

/-- Two bursts that overlap. The windows of the first end in another order than its calls start. -/
def overlapping : List Event :=
  [.start 0, .start 1, .start 2, .expire 1, .expire 2, .start 3, .expire 0, .start 4, .expire 4,
    .expire 3]

theorem overlapping_debounced :
    Interleaved overlapping ∧ starts overlapping < UInt64.size ∧
      Debounced ⟨UInt64.ofNat (UInt64.size - 2)⟩ overlapping := by
  have h : Interleaved overlapping := by decide
  have hcount : starts overlapping < UInt64.size := by decide
  exact ⟨h, hcount, run_debounced _ h hcount⟩

example : ran ⟨UInt64.ofNat (UInt64.size - 2)⟩ overlapping = [2, 4] := by decide

end Debouncer

end UiSchema
