import Asn1Constraints.Proofs.Conformance
import Mathlib

/-!
Where the parts of a value stand in a type: the value stands at its node, and
what a shape assigns to its parts stands at these. What is said of every place
of a value is said of its own node and of every place of the parts.
-/

namespace Asn1Constraints

/-- The content stands at the inner node when the value stands at the outer one. -/
inductive Occurs (module : TypeModule) : TypeNode → Value → TypeNode → Value → Prop where
  | here {node value} : Occurs module node value node value
  | reference {id target assignment value inner content} :
      module.find? target = some assignment →
      Occurs module assignment.type value inner content →
      Occurs module (.reference id target) value inner content
  | part {id shape value part inside inner content} :
      shape.Assigns value part inside → Occurs module part inside inner content →
      Occurs module (.shaped id shape) value inner content

/-- A property of all places of a value. -/
def Everywhere (module : TypeModule) (holds : TypeNode → Value → Prop) (node : TypeNode)
    (value : Value) : Prop :=
  ∀ inner content, Occurs module node value inner content → holds inner content

namespace Everywhere

variable {module : TypeModule} {holds : TypeNode → Value → Prop} {value : Value}

theorem reference_iff {id : ConstraintId} {target : String} {assignment : TypeAssignment}
    (found : module.find? target = some assignment) :
    Everywhere module holds (.reference id target) value ↔
      holds (.reference id target) value ∧ Everywhere module holds assignment.type value := by
  constructor
  · intro everywhere
    exact ⟨everywhere _ _ .here, fun _ _ below => everywhere _ _ (.reference found below)⟩
  · rintro ⟨own, inside⟩ inner content occurs
    cases occurs with
    | here => exact own
    | reference other below =>
        obtain rfl := Option.some.inj (found.symm.trans other)
        exact inside _ _ below

theorem shaped_iff {id : ConstraintId} {shape : Shape TypeNode} :
    Everywhere module holds (.shaped id shape) value ↔
      holds (.shaped id shape) value ∧
        ∀ part content, shape.Assigns value part content →
          Everywhere module holds part content := by
  constructor
  · intro everywhere
    exact ⟨everywhere _ _ .here,
      fun _ _ assigned _ _ below => everywhere _ _ (.part assigned below)⟩
  · rintro ⟨own, parts⟩ inner content occurs
    cases occurs with
    | here => exact own
    | part assigned below => exact parts _ _ assigned _ _ below

end Everywhere

end Asn1Constraints
