import UiSchema.Compose.Basic

/-!
# Walking a composed tree

A composed tree is walked with a stack, whose last node is visited next. A visit takes the node off
the stack and puts its children there in reverse, so that the first of them comes up next.
-/

set_option autoImplicit false

namespace UiSchema

/-- A walk in progress: the nodes whose trees are still to be visited. -/
structure Walk where
  stack : List ComposedNode

namespace Walk

/-- The next node, and the walk that goes on behind it. -/
def next (w : Walk) : Option (ComposedNode × Walk) :=
  w.stack.getLast?.map (fun n => (n, ⟨w.stack.dropLast ++ n.children.reverse⟩))

/-- The walk visits these nodes in this order, and ends. -/
inductive Visits : Walk → List ComposedNode → Prop
  | ended {w : Walk} : w.next = none → Visits w []
  | visit {w rest : Walk} {n : ComposedNode} {nodes : List ComposedNode} :
      w.next = some (n, rest) → Visits rest nodes → Visits w (n :: nodes)

end Walk

/-- The walk over a node and all below it. -/
def ComposedNode.walk (n : ComposedNode) : Walk := ⟨[n]⟩

end UiSchema
