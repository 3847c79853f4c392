import Mathlib.Data.List.Induction
import UiSchema.Proofs.Registry.Stopping
import UiSchema.Registry.Shared

/-!
# The shared registry over its calls

The slot is used through calls that set it up, register, read and reset. Over any calls it is in use
when it was set up since the last reset, and then it holds the registry that the registrations since
have made of an empty one over the map it was set up with. A refused call changes nothing, and
nothing from before a reset can be seen after it.
-/

namespace UiSchema

set_option autoImplicit false

inductive SharedCall where
  | start (m : ComponentMap)
  | register (n : Node)
  | reset
  | read

namespace SharedRegistry

def failure? (s : SharedRegistry) : SharedCall → Option RegistryError
  | .start m =>
    match s.start m with
    | .error e => some e
    | .ok _ => none
  | .register n => (s.register n).1
  | .reset => none
  | .read =>
    match s.read id with
    | .error e => some e
    | .ok _ => none

/-- The slot after a call. -/
def step (s : SharedRegistry) : SharedCall → SharedRegistry
  | .start m =>
    match s.start m with
    | .error _ => s
    | .ok started => started
  | .register n => (s.register n).2.2
  | .reset => s.reset
  | .read => s

/-- The slot after calls on a slot that was never set up. -/
def after (calls : List SharedCall) : SharedRegistry := calls.foldl step {}

def registered (calls : List SharedCall) : List Node :=
  calls.filterMap (fun call =>
    match call with
    | .register n => some n
    | _ => none)

/-- The last successful set-up was over `m`; the calls after it were `since`, without a reset. -/
def SetUp (calls : List SharedCall) (m : ComponentMap) (since : List SharedCall) : Prop :=
  ∃ before, calls = before ++ .start m :: since ∧ (after before).failure? (.start m) = none ∧
    SharedCall.reset ∉ since

theorem after_append (calls rest : List SharedCall) :
    after (calls ++ rest) = rest.foldl step (after calls) := List.foldl_append

theorem after_concat (calls : List SharedCall) (call : SharedCall) :
    after (calls ++ [call]) = (after calls).step call := after_append calls [call]

section Steps

variable {s : SharedRegistry} {r : Registry}

theorem start_of_none (h : s.current = none) (m : ComponentMap) :
    s.failure? (.start m) = none ∧ (s.step (.start m)).current = some { components := m } := by
  unfold failure? step start
  rw [h]
  exact ⟨rfl, rfl⟩

theorem start_of_some (h : s.current = some r) (m : ComponentMap) :
    s.failure? (.start m) = some .alreadyInitialized ∧ s.step (.start m) = s := by
  unfold failure? step start
  rw [h]
  exact ⟨rfl, rfl⟩

theorem register_of_none (h : s.current = none) (n : Node) :
    s.failure? (.register n) = some .notInitialized ∧ s.step (.register n) = s := by
  unfold failure? step register
  rw [h]
  exact ⟨rfl, rfl⟩

theorem register_of_some (h : s.current = some r) (n : Node) :
    s.failure? (.register n) = (r.register n).failure ∧
      (s.step (.register n)).current = some (r.register n).registry := by
  unfold failure? step register
  rw [h]
  exact ⟨rfl, rfl⟩

/-- While it is in use, the slot holds what registrations make of its registry. -/
theorem current_foldl {since : List SharedCall} (h : s.current = some r)
    (hreset : SharedCall.reset ∉ since) :
    (since.foldl step s).current = some (r.afterAll (registered since)) := by
  induction since generalizing s r with
  | nil => exact h
  | cons call rest ih =>
    obtain ⟨hcall, hrest⟩ := not_or.mp (mt List.mem_cons.mpr hreset)
    rw [List.foldl_cons]
    cases call with
    | start m =>
      rw [(start_of_some h m).2]
      exact ih h hrest
    | register n => exact ih (register_of_some h n).2 hrest
    | reset => exact absurd rfl hcall
    | read => exact ih h hrest

end Steps

section Runs

variable {calls : List SharedCall}

theorem SetUp.concat {m : ComponentMap} {since : List SharedCall} (h : SetUp calls m since)
    {call : SharedCall} (hcall : call ≠ .reset) : SetUp (calls ++ [call]) m (since ++ [call]) := by
  obtain ⟨before, rfl, hstart, hreset⟩ := h
  refine ⟨before, ?_, hstart, ?_⟩
  · rw [List.append_assoc, List.cons_append]
  · intro hmem
    rcases List.mem_append.mp hmem with hmem | hmem
    · exact hreset hmem
    · exact hcall (List.mem_singleton.mp hmem).symm

theorem SetUp.current {m : ComponentMap} {since : List SharedCall} (h : SetUp calls m since) :
    (after calls).current = some (Registry.afterAll { components := m } (registered since)) := by
  obtain ⟨before, rfl, hstart, hreset⟩ := h
  rw [after_append, List.foldl_cons]
  have hnone : (after before).current = none := by
    cases hcurrent : (after before).current with
    | none => rfl
    | some r =>
      rw [(start_of_some hcurrent m).1] at hstart
      cases hstart
  exact current_foldl (start_of_none hnone m).2 hreset

/-- A slot that is in use was set up since the last reset. -/
theorem exists_setUp (h : (after calls).current ≠ none) : ∃ m since, SetUp calls m since := by
  induction calls using List.reverseRecOn with
  | nil => exact absurd rfl h
  | append_singleton calls call ih =>
    rw [after_concat] at h
    cases hcurrent : (after calls).current with
    | none =>
      cases call with
      | start m =>
        exact ⟨m, [], calls, rfl, (start_of_none hcurrent m).1, List.not_mem_nil⟩
      | register n =>
        rw [(register_of_none hcurrent n).2] at h
        exact absurd hcurrent h
      | reset => exact absurd rfl h
      | read => exact absurd hcurrent h
    | some r =>
      have hsome : (after calls).current ≠ none := by
        rw [hcurrent]
        exact Option.some_ne_none r
      obtain ⟨m, since, hsetUp⟩ := ih hsome
      have hcall : call ≠ .reset := by
        intro hreset
        rw [hreset] at h
        exact h rfl
      exact ⟨m, since ++ [call], hsetUp.concat hcall⟩

/-- Either the slot is empty, and was not set up since the last reset, or it was and is in use. -/
theorem current_cases (calls : List SharedCall) :
    ((after calls).current = none ∧ ¬∃ m since, SetUp calls m since) ∨
      ∃ r, (after calls).current = some r ∧ ∃ m since, SetUp calls m since := by
  cases hcurrent : (after calls).current with
  | none =>
    refine Or.inl ⟨rfl, ?_⟩
    rintro ⟨m, since, hsetUp⟩
    rw [hsetUp.current] at hcurrent
    cases hcurrent
  | some r =>
    have hsome : (after calls).current ≠ none := by
      rw [hcurrent]
      exact Option.some_ne_none r
    exact Or.inr ⟨r, rfl, exists_setUp hsome⟩

end Runs

/-- What the slot answers after calls, in terms of these calls alone. -/
structure Answers (calls : List SharedCall) : Prop where
  initialized_iff : (after calls).isInitialized = true ↔ ∃ m since, SetUp calls m since
  start_iff : ∀ m, (after calls).failure? (.start m) = none ↔ ¬∃ m' since, SetUp calls m' since
  start_refused : ∀ m, (∃ m' since, SetUp calls m' since) →
    (after calls).failure? (.start m) = some .alreadyInitialized ∧
      after (calls ++ [.start m]) = after calls
  register_iff : ∀ n, (after calls).failure? (.register n) = some .notInitialized ↔
    ¬∃ m since, SetUp calls m since
  read_iff : ∀ (α : Type) (f : Registry → α), (after calls).read f = .error .notInitialized ↔
    ¬∃ m since, SetUp calls m since
  refused : (¬∃ m since, SetUp calls m since) → ∀ n,
    after (calls ++ [.register n]) = after calls ∧ after (calls ++ [.read]) = after calls
  observed : ∀ m since, SetUp calls m since → ∀ (α : Type) (f : Registry → α),
    (after calls).read f = .ok (f (Registry.afterAll { components := m } (registered since)))
  forgets : ∀ before rest, calls = before ++ .reset :: rest → after calls = after rest

/-- Over any calls: a set-up succeeds once between resets and is refused without any effect after
that; registering and reading need a set-up since the last reset; and what is read is the registry
of that set-up with all registrations since. -/
theorem after_answers (calls : List SharedCall) : Answers calls := by
  have hforgets : ∀ before rest, calls = before ++ .reset :: rest → after calls = after rest := by
    rintro before rest rfl
    rw [after_append, List.foldl_cons]
    rfl
  have hobserved : ∀ m since, SetUp calls m since → ∀ (α : Type) (f : Registry → α),
      (after calls).read f = .ok (f (Registry.afterAll { components := m } (registered since))) := by
    intro m since hsetUp α f
    unfold read
    rw [hsetUp.current]
  rcases current_cases calls with ⟨hnone, hidle⟩ | ⟨r, hsome, husing⟩
  · refine ⟨?_, fun m => ?_, fun m h => absurd h hidle, fun n => ?_, fun α f => ?_, fun _ n => ?_,
      hobserved, hforgets⟩
    · unfold isInitialized
      rw [hnone]
      exact iff_of_false Bool.false_ne_true hidle
    · exact iff_of_true (start_of_none hnone m).1 hidle
    · exact iff_of_true (register_of_none hnone n).1 hidle
    · have hread : (after calls).read f = .error .notInitialized := by
        unfold read
        rw [hnone]
      exact iff_of_true hread hidle
    · rw [after_concat, after_concat]
      exact ⟨(register_of_none hnone n).2, rfl⟩
  · refine ⟨?_, fun m => ?_, fun m _ => ?_, fun n => ?_, fun α f => ?_, fun h => absurd husing h,
      hobserved, hforgets⟩
    · unfold isInitialized
      rw [hsome]
      exact iff_of_true rfl husing
    · have hrefused := (start_of_some hsome m).1
      refine iff_of_false (fun hstart => ?_) (not_not_intro husing)
      rw [hrefused] at hstart
      cases hstart
    · rw [after_concat]
      exact start_of_some hsome m
    · refine iff_of_false (fun hfailure => ?_) (not_not_intro husing)
      rw [(register_of_some hsome n).1] at hfailure
      obtain ⟨d, _, heq⟩ := Registry.failure_register hfailure
      cases heq
    · refine iff_of_false (fun hread => ?_) (not_not_intro husing)
      unfold read at hread
      rw [hsome] at hread
      cases hread

end SharedRegistry

end UiSchema
