import Asn1Constraints.TypeModel.ReferenceGraph

/-!
Well-formedness of a module. Type names come first, then every node in
declaration order with one table of ids for the whole module, and last the
absence of recursion. The first thing that is wrong is reported with its place.
-/

namespace Asn1Constraints

/-- The ids met so far and the place of each. -/
abbrev Holders := List (ConstraintId × String)

def fail {α : Type} (place : String) (defect : Defect) : Except Error α :=
  .error (.malformed (.node place defect))

/-- Enter the id of a shaped node. -/
def Holders.reserve (holders : Holders) (place : String) (id : ConstraintId)
    (requiresCheck : Bool) : Except Error Holders :=
  if id = 0 then
    if requiresCheck then fail place .missingId else .ok holders
  else
    match holders.lookup id with
    | some holder => fail place (.repeatedId id holder)
    | none => .ok ((id, place) :: holders)

def checkItems (place : String) : List String → List Int64 → List EnumItem → Except Error Unit
  | _, _, [] => .ok ()
  | names, values, item :: rest =>
    if names.contains item.name then fail place (.repeatedItemName item.name)
    else if values.contains item.value then fail place (.repeatedItemValue item.value)
    else checkItems place (item.name :: names) (item.value :: values) rest

def checkSize (place : String) (size : SizeBounds) : Except Error Unit :=
  if size.isConsistent then .ok () else fail place (.sizeBounds size.minSize size.maxSize)

/-- The bounds of a shape, apart from its parts. -/
def Shape.checkBounds {Node : Type} (place : String) : Shape Node → Except Error Unit
  | .integer bounds =>
    if bounds.isConsistent then .ok () else fail place (.integerBounds bounds.min bounds.max)
  | .real bounds =>
    if bounds.isConsistent then .ok () else fail place (.realBounds bounds.min bounds.max)
  | .boolean => .ok ()
  | .null => .ok ()
  | .enumerated items => if items.isEmpty then fail place .noItems else checkItems place [] [] items
  | .octetString size => checkSize place size
  | .bitString size => checkSize place size
  | .ia5String size => checkSize place size
  | .sequenceOf size _ => checkSize place size
  | .sequence _ => .ok ()
  | .choice alternatives => if alternatives.isEmpty then fail place .noAlternatives else .ok ()

namespace TypeNode

mutual

def check (module : TypeModule) (place : String) (holders : Holders) :
    TypeNode → Except Error Holders
  | .reference id target =>
    if id ≠ 0 then fail place .idOnReference
    else if (module.find? target).isNone then fail place (.unknownTarget target)
    else .ok holders
  | .shaped id shape =>
    match holders.reserve place id shape.requiresCheck with
    | .error error => .error error
    | .ok holders =>
      match shape.checkBounds place with
      | .error error => .error error
      | .ok () => checkParts module place holders shape

def checkParts (module : TypeModule) (place : String) (holders : Holders) :
    Shape TypeNode → Except Error Holders
  | .sequenceOf _ element => element.check module (place ++ "[]") holders
  | .sequence components => checkComponents module place [] holders components
  | .choice alternatives => checkAlternatives module place [] holders alternatives
  | _ => .ok holders

def checkComponents (module : TypeModule) (place : String) (seen : List String)
    (holders : Holders) : List (Component TypeNode) → Except Error Holders
  | [] => .ok holders
  | ⟨name, _, type⟩ :: rest =>
    if seen.contains name then fail place (.repeatedComponent name)
    else
      match type.check module s!"{place}.{name}" holders with
      | .error error => .error error
      | .ok holders => checkComponents module place (name :: seen) holders rest

def checkAlternatives (module : TypeModule) (place : String) (seen : List String)
    (holders : Holders) : List (Alternative TypeNode) → Except Error Holders
  | [] => .ok holders
  | ⟨name, type⟩ :: rest =>
    if seen.contains name then fail place (.repeatedAlternative name)
    else
      match type.check module s!"{place}.{name}" holders with
      | .error error => .error error
      | .ok holders => checkAlternatives module place (name :: seen) holders rest

end

end TypeNode

namespace TypeModule

def checkTypes (module : TypeModule) : Holders → List TypeAssignment → Except Error Holders
  | holders, [] => .ok holders
  | holders, assignment :: rest =>
    match assignment.type.check module assignment.name holders with
    | .error error => .error error
    | .ok holders => module.checkTypes holders rest

def checkNames (module : TypeModule) : Except Error Unit :=
  match repeatedName? [] (module.types.map (·.name)) with
  | some name => .error (.malformed (.repeatedType module.name name))
  | none => .ok ()

def checkRecursion (module : TypeModule) : Except Error Unit :=
  match module.referenceGraph.dependencyOrder with
  | .ordered _ => .ok ()
  | .cyclic names => .error (.malformed (.recursiveTypes names))

/-- Accept a well-formed module. -/
def validate (module : TypeModule) : Except Error Unit := do
  module.checkNames
  let _ ← module.checkTypes [] module.types
  module.checkRecursion

end TypeModule

end Asn1Constraints
