import Mathlib.Data.List.Basic

/-!
# Layered message passing

A network of nodes in which every layer recomputes the state of a node from the
states, one layer below, of the nodes it *sees*, in a fixed order.  Two facts
are used: what a node never sees, directly or through others, cannot change its
state; and a map that carries visible lists to visible lists carries states to
states.
-/

namespace Layered

variable {Node Node' State : Type}

/-- The state of a node after `depth` layers. -/
def state (visible : Node → List Node) (layer : Nat → List State → State)
    (init : Node → State) : Nat → Node → State
  | 0, node => init node
  | depth + 1, node => layer depth ((visible node).map (state visible layer init depth))

variable {visible : Node → List Node} {visible' : Node' → List Node'}
variable {layer : Nat → List State → State}

/-- **Simulation.**  A map between two networks that carries the visible list of
    every node of a closed region to the visible list of its image, and initial
    states to initial states, carries the states of every layer. -/
theorem state_map {init : Node → State} {init' : Node' → State} (image : Node → Node')
    (region : Node → Prop)
    (hclosed : ∀ node, region node → ∀ seen ∈ visible node, region seen)
    (hvisible : ∀ node, region node →
      visible' (image node) = (visible node).map image)
    (hinit : ∀ node, region node → init' (image node) = init node) :
    ∀ depth node, region node →
      state visible' layer init' depth (image node) =
        state visible layer init depth node := by
  intro depth
  induction depth with
  | zero =>
    intro node hnode
    exact hinit node hnode
  | succ depth ih =>
    intro node hnode
    simp only [state, hvisible node hnode, List.map_map]
    have hseen : (visible node).map (state visible' layer init' depth ∘ image) =
        (visible node).map (state visible layer init depth) := by
      apply List.map_congr_left
      intro seen hseen
      exact ih seen (hclosed node hnode seen hseen)
    rw [hseen]

/-- **Noninterference.**  Let seeing be transitive at a node that sees itself.
    Two networks that show the seen nodes the same lists and start equal on them
    give the node the same state at every depth. -/
theorem state_congr_of_trans {other : Node → List Node} {init init' : Node → State}
    {node : Node} (hrefl : node ∈ visible node)
    (htrans : ∀ seen ∈ visible node, ∀ far ∈ visible seen, far ∈ visible node)
    (hvisible : ∀ seen ∈ visible node, other seen = visible seen)
    (hinit : ∀ seen ∈ visible node, init' seen = init seen) (depth : Nat) :
    state other layer init' depth node = state visible layer init depth node := by
  refine state_map id (· ∈ visible node) htrans ?_ hinit depth node hrefl
  intro seen hseen
  rw [List.map_id]
  exact hvisible seen hseen

end Layered
