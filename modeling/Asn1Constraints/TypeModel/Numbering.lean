import Asn1Constraints.TypeModel.Basic

/-!
Numbering the nodes that have no id yet. Ids are taken from 1, 6, 11, …; the
four numbers behind each belong to codecs. Numbers already present in the
module are passed over, and parts are numbered before the node that holds them.
-/

namespace Asn1Constraints

def firstId : ConstraintId := 1

def idStride : ConstraintId := 5

structure IdAllocator where
  next : ConstraintId
  used : List ConstraintId

/-- The first of `next, next + 5, …` that is not used. At most as many
candidates are passed over as ids are used. -/
def firstUnused (used : List ConstraintId) : Nat → ConstraintId → ConstraintId
  | 0, next => next
  | budget + 1, next =>
    if used.contains next then firstUnused used budget (next + idStride) else next

def IdAllocator.allocate (allocator : IdAllocator) : ConstraintId × IdAllocator :=
  let id := firstUnused allocator.used allocator.used.length allocator.next
  (id, ⟨id + idStride, id :: allocator.used⟩)

/-- A numbering under way: the ids that are left, and how many were given out. -/
structure Numbering where
  allocator : IdAllocator
  assigned : Nat

/-- The id of a node that may need one. -/
def Numbering.idFor (numbering : Numbering) (id : ConstraintId) : ConstraintId × Numbering :=
  if id = 0 then
    let (fresh, allocator) := numbering.allocator.allocate
    (fresh, ⟨allocator, numbering.assigned + 1⟩)
  else (id, numbering)

namespace TypeNode

def ownIds (id : ConstraintId) : List ConstraintId := if id = 0 then [] else [id]

mutual

/-- Every id present in a node and its parts. -/
def presentIds : TypeNode → List ConstraintId
  | .reference id _ => ownIds id
  | .shaped id shape => ownIds id ++ partIds shape

def partIds : Shape TypeNode → List ConstraintId
  | .sequenceOf _ element => element.presentIds
  | .sequence components => componentIds components
  | .choice alternatives => alternativeIds alternatives
  | _ => []

def componentIds : List (Component TypeNode) → List ConstraintId
  | [] => []
  | ⟨_, _, type⟩ :: rest => type.presentIds ++ componentIds rest

def alternativeIds : List (Alternative TypeNode) → List ConstraintId
  | [] => []
  | ⟨_, type⟩ :: rest => type.presentIds ++ alternativeIds rest

end

mutual

def number (numbering : Numbering) : TypeNode → TypeNode × Numbering
  | .reference id target => (.reference id target, numbering)
  | .shaped id shape =>
    let (shape, numbering) := numberParts numbering shape
    let (id, numbering) := numbering.idFor id
    (.shaped id shape, numbering)

def numberParts (numbering : Numbering) : Shape TypeNode → Shape TypeNode × Numbering
  | .sequenceOf size element =>
    let (element, numbering) := element.number numbering
    (.sequenceOf size element, numbering)
  | .sequence components =>
    let (components, numbering) := numberComponents numbering components
    (.sequence components, numbering)
  | .choice alternatives =>
    let (alternatives, numbering) := numberAlternatives numbering alternatives
    (.choice alternatives, numbering)
  | simple => (simple, numbering)

def numberComponents (numbering : Numbering) :
    List (Component TypeNode) → List (Component TypeNode) × Numbering
  | [] => ([], numbering)
  | ⟨name, optional, type⟩ :: rest =>
    let (type, numbering) := type.number numbering
    let (rest, numbering) := numberComponents numbering rest
    (⟨name, optional, type⟩ :: rest, numbering)

def numberAlternatives (numbering : Numbering) :
    List (Alternative TypeNode) → List (Alternative TypeNode) × Numbering
  | [] => ([], numbering)
  | ⟨name, type⟩ :: rest =>
    let (type, numbering) := type.number numbering
    let (rest, numbering) := numberAlternatives numbering rest
    (⟨name, type⟩ :: rest, numbering)

end

end TypeNode

namespace TypeModule

def presentIds (module : TypeModule) : List ConstraintId :=
  module.types.flatMap fun assignment => assignment.type.presentIds

/-- An allocator that gives out no id of the module. -/
def idAllocator (module : TypeModule) : IdAllocator := ⟨firstId, module.presentIds⟩

def numberTypes (numbering : Numbering) :
    List TypeAssignment → List TypeAssignment × Numbering
  | [] => ([], numbering)
  | assignment :: rest =>
    let (type, numbering) := assignment.type.number numbering
    let (rest, numbering) := numberTypes numbering rest
    (⟨assignment.name, type⟩ :: rest, numbering)

/-- The module with every node numbered, and how many ids that took. -/
def assignIds (module : TypeModule) : TypeModule × Nat :=
  let (types, numbering) := numberTypes ⟨module.idAllocator, 0⟩ module.types
  ({ module with types }, numbering.assigned)

end TypeModule

end Asn1Constraints
