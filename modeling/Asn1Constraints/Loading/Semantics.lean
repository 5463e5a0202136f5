import Asn1Constraints.Loading.Issue
import Asn1Constraints.TypeModel.WellFormed

/-!
What a well-shaped model document can still get wrong: the version of the
format and the well-formedness of the module. Types that can only be empty are
worth a warning, with a pointer to the node in the document.
-/

namespace Asn1Constraints

def emptySequenceIssue (path : String) : Issue :=
  ⟨.warning, "empty_sequence", path, "sequence declares no fields", none⟩

def zeroSizeIssue (path : String) : Issue :=
  ⟨.warning, "zero_size_collection", path, "sequence_of can only ever be empty",
    some "check the declared SIZE constraint"⟩

mutual

/-- The warnings about a node and its parts, the node first. -/
def TypeNode.warnings (path : String) : TypeNode → List Issue
  | .shaped _ (.sequence components) =>
    (if components.isEmpty then [emptySequenceIssue path] else [])
      ++ componentWarnings path 0 components
  | .shaped _ (.choice alternatives) => alternativeWarnings path 0 alternatives
  | .shaped _ (.sequenceOf size element) =>
    (if size.maxSize = 0 then [zeroSizeIssue path] else [])
      ++ element.warnings (path ++ "/element")
  | _ => []

def componentWarnings (path : String) (index : Nat) : List (Component TypeNode) → List Issue
  | [] => []
  | ⟨_, _, type⟩ :: rest =>
    type.warnings s!"{path}/fields/{index}/type" ++ componentWarnings path (index + 1) rest

def alternativeWarnings (path : String) (index : Nat) :
    List (Alternative TypeNode) → List Issue
  | [] => []
  | ⟨_, type⟩ :: rest =>
    type.warnings s!"{path}/alternatives/{index}/type"
      ++ alternativeWarnings path (index + 1) rest

end

def Error.code : Error → String
  | .malformed _ => "malformed_type_model"
  | .unknownType _ _ => "unknown_type"
  | .invalidValue _ _ => "invalid_value"

namespace TypeModule

def assignmentWarnings : Nat → List TypeAssignment → List Issue
  | _, [] => []
  | index, assignment :: rest =>
    assignment.type.warnings s!"/types/{index}/type" ++ assignmentWarnings (index + 1) rest

def warnings (module : TypeModule) : List Issue :=
  (if module.types.isEmpty then
    [⟨.warning, "types_empty", "/types", "module declares no types", none⟩] else [])
    ++ assignmentWarnings 0 module.types

def versionErrors (module : TypeModule) : List Issue :=
  if module.version = modelVersion then [] else
    [⟨.error, "model_version_mismatch", "/module_version",
      s!"model version '{module.version}' is not supported (expected '{modelVersion}')",
      some "regenerate the model with a matching front-end"⟩]

def shapeErrors (module : TypeModule) : List Issue :=
  match module.validate with
  | .ok () => []
  | .error error => [⟨.error, error.code, "/types", error.message, none⟩]

def semanticReport (module : TypeModule) : IssueReport :=
  ⟨module.versionErrors ++ module.shapeErrors, module.warnings⟩

end TypeModule

end Asn1Constraints
