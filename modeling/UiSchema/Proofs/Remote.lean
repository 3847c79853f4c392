import UiSchema.Remote

/-!
# Runs of remote computations

What a computation calls is read off the journal of its run.
-/

namespace UiSchema

set_option autoImplicit false

namespace Remote

variable {α β : Type}

/-- The computation calls nothing. -/
def Silent (x : Remote α) : Prop := ∀ j, (x.run j).2.calls = j.calls

theorem run_bind (x : Remote α) (next : α → Remote β) (j : Journal) :
    (x >>= next).run j = (next (x.run j).1).run (x.run j).2 := rfl

theorem run_post (t : Transport) (url : String) (payload : Json) (j : Journal) :
    (post t url payload).run j =
      (t.post j.calls url payload, { j with calls := j.calls ++ [.post url payload] }) := rfl

theorem silent_pure (a : α) : Silent (pure a) := fun _ => rfl

theorem silent_warn (text : String) : Silent (warn text) := fun _ => rfl

theorem Silent.bind {x : Remote α} (hx : Silent x) {next : α → Remote β}
    (hnext : ∀ a, Silent (next a)) : Silent (x >>= next) := by
  intro j
  rw [run_bind, hnext, hx]

end Remote

end UiSchema
