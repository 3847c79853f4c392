/-!
# Debouncing

A debouncer counts the calls that were started, in a word of 64 bits that wraps. A call holds the
count it was started at as its ticket and waits out a window; when the window ends it runs if its
ticket is still the count, that is, if no other call was started meanwhile. Copies of a debouncer
share its count, so calls on any of them are events of one run. Time enters only through the order
of these events.
-/

set_option autoImplicit false

namespace UiSchema

structure Debouncer where
  generation : UInt64 := 0

namespace Debouncer

/-- Starts a call, and gives its ticket. -/
def start (d : Debouncer) : UInt64 × Debouncer := (d.generation + 1, ⟨d.generation + 1⟩)

/-- Whether a call may run when its window ends. -/
def isCurrent (d : Debouncer) (ticket : UInt64) : Bool := d.generation == ticket

/-- What happens to a call: it starts, or its window ends. -/
inductive Event where
  | start (call : Nat)
  | expire (call : Nat)
deriving DecidableEq

structure State where
  debouncer : Debouncer := {}
  tickets : List (Nat × UInt64) := []

/-- The state after an event, and the call that runs at it, if one does. -/
def State.step (s : State) : Event → State × Option Nat
  | .start call =>
    let (ticket, d) := s.debouncer.start
    (⟨d, (call, ticket) :: s.tickets⟩, none)
  | .expire call =>
    match s.tickets.lookup call with
    | some ticket => (s, if s.debouncer.isCurrent ticket then some call else none)
    | none => (s, none)

/-- The calls that run, in the order they do. -/
def State.run (s : State) : List Event → State × List Nat
  | [] => (s, [])
  | e :: rest =>
    let (s, ran) := s.step e
    let (s, others) := s.run rest
    (s, ran.toList ++ others)

/-- An event with its time. At one moment calls act in the order of their numbers, and a call starts
before its window ends. -/
structure Timed where
  time : Nat
  call : Nat
  ends : Bool

def Timed.event (t : Timed) : Event := if t.ends then .expire t.call else .start t.call

def Timed.before (a b : Timed) : Bool :=
  decide (a.time < b.time) ||
    (a.time == b.time && (decide (a.call < b.call) || (a.call == b.call && !a.ends)))

def insertTimed (t : Timed) : List Timed → List Timed
  | [] => [t]
  | u :: rest => if t.before u then t :: u :: rest else u :: insertTimed t rest

/-- The events of calls with their start times, numbered from `call`, for a window. -/
def timedFrom (window : Nat) : Nat → List Nat → List Timed
  | _, [] => []
  | call, start :: rest =>
    ⟨start, call, false⟩ :: ⟨start + window, call, true⟩ :: timedFrom window (call + 1) rest

/-- The events of calls by their start times, in order. -/
def schedule (window : Nat) (starts : List Nat) : List Event :=
  ((timedFrom window 0 starts).foldr insertTimed []).map Timed.event

end Debouncer

end UiSchema
