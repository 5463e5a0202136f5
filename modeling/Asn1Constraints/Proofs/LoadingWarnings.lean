import Asn1Constraints.Loading.Semantics
import Asn1Constraints.Proofs.DocumentPointers
import Mathlib

/-!
Warnings of a loaded model. They are those of its nodes, place after place, and
each is found at the place that it points to.
-/

namespace Asn1Constraints

/-- The pointer to an item of a list, put behind another pointer. -/
theorem typeTokens_text (path list : String) (index : ℕ) :
    path ++ pointerText (typeTokens list index) =
      path ++ ("/" ++ list ++ "/") ++ toString index ++ "/type" := by
  simp [pointerText, typeTokens, String.append_assoc]

namespace TypeNode

/-- What there is to say about a node apart from its parts. -/
def ownWarnings (pointer : String) : TypeNode → List Issue
  | .shaped _ (.sequence []) => [emptySequenceIssue pointer]
  | .shaped _ (.sequenceOf size _) => if size.maxSize = 0 then [zeroSizeIssue pointer] else []
  | _ => []

end TypeNode

theorem componentWarnings_eq (path : String) (index : ℕ) (components : List (Component TypeNode)) :
    componentWarnings path index components = (components.zipIdx index).flatMap fun entry =>
      entry.1.type.warnings (path ++ pointerText (PartStep.tokens (.component entry.2))) := by
  induction components generalizing index with
  | nil => rfl
  | cons component rest ih =>
      rw [componentWarnings, ih, List.zipIdx_cons, List.flatMap_cons]
      rw [PartStep.tokens, typeTokens_text]
      rfl

theorem alternativeWarnings_eq (path : String) (index : ℕ)
    (alternatives : List (Alternative TypeNode)) :
    alternativeWarnings path index alternatives = (alternatives.zipIdx index).flatMap fun entry =>
      entry.1.type.warnings (path ++ pointerText (PartStep.tokens (.alternative entry.2))) := by
  induction alternatives generalizing index with
  | nil => rfl
  | cons alternative rest ih =>
      rw [alternativeWarnings, ih, List.zipIdx_cons, List.flatMap_cons]
      rw [PartStep.tokens, typeTokens_text]
      rfl

theorem TypeNode.warnings_shaped (path : String) (id : ConstraintId) (shape : Shape TypeNode) :
    (TypeNode.shaped id shape).warnings path =
      (TypeNode.shaped id shape).ownWarnings path ++ shape.steppedParts.flatMap fun entry =>
        entry.2.warnings (path ++ pointerText entry.1.tokens) := by
  cases shape with
  | sequence components =>
      rw [warnings, componentWarnings_eq, Shape.steppedParts, List.flatMap_map]
      cases components <;> rfl
  | choice alternatives =>
      rw [warnings, alternativeWarnings_eq, Shape.steppedParts, List.flatMap_map]
      rfl
  | sequenceOf size element =>
      rw [warnings, Shape.steppedParts, List.flatMap_singleton]
      rfl
  | _ => simp [warnings, ownWarnings, Shape.steppedParts]

/-- The warnings of a node that may be there. -/
def warningsAt (pointer : String) (node? : Option TypeNode) : List Issue :=
  node?.elim [] (TypeNode.ownWarnings pointer)

theorem TypeNode.warnings_eq (node : TypeNode) (path : String) :
    node.warnings path = node.places.flatMap fun steps =>
      warningsAt (path ++ pointerText (steps.flatMap PartStep.tokens)) (node.at? steps) := by
  induction node using partsInduction generalizing path with
  | reference id target => simp [warnings, places_reference, at?, warningsAt, ownWarnings]
  | shaped id shape ih =>
      rw [warnings_shaped, places_shaped, List.flatMap_cons, List.flatMap_assoc]
      congr 1
      · simp [at?, warningsAt, pointerText]
      · apply List.flatMap_congr
        intro entry stepped
        -- The part is warned of at longer ways, which start with the step to it.
        have part := (part?_shaped_iff id shape entry.1 entry.2).mpr stepped
        rw [ih entry.2 (shape.stepped_mem_parts entry stepped), List.flatMap_map]
        apply List.flatMap_congr
        intro steps _
        rw [at?, part, Option.bind_some, List.flatMap_cons, pointerText_append, String.append_assoc]

namespace TypeModule

theorem assignmentWarnings_eq (index : ℕ) (types : List TypeAssignment) :
    assignmentWarnings index types = (types.zipIdx index).flatMap fun entry =>
      entry.1.type.warnings (pointerText (typeTokens "types" entry.2)) := by
  induction types generalizing index with
  | nil => rfl
  | cons assignment rest ih =>
      have text := typeTokens_text "" "types" index
      rw [String.empty_append] at text
      rw [assignmentWarnings, ih, List.zipIdx_cons, List.flatMap_cons, text]
      rfl

variable (module : TypeModule)

theorem nodeWarnings_eq :
    assignmentWarnings 0 module.types = module.places.flatMap fun place =>
      warningsAt place.pointer (module.node? place) := by
  rw [assignmentWarnings_eq, places, List.flatMap_assoc]
  apply List.flatMap_congr
  intro entry numbered
  have declared := List.mem_zipIdx_iff_getElem?.mp numbered
  rw [TypeNode.warnings_eq, List.flatMap_map]
  apply List.flatMap_congr
  intro steps _
  rw [node?, declared, Option.bind_some, NodePlace.pointer, NodePlace.tokens, pointerText_append]

/-- In a form of the document of a module the pointers lead to what they stand for. -/
structure FoundIn (document : Json) (form : Json → Json) : Prop where
  types : document.pointed? "/types" =
    some (.array (module.types.map fun assignment => form assignment.toJson))
  nodes : ∀ place node, module.node? place = some node →
    document.pointed? place.pointer = some (form node.toJson)

theorem foundIn_arranged {arrange : Json → Json} (rearranges : Json.Rearranges arrange) :
    module.FoundIn (arrange module.toJson) arrange where
  types := types_pointed rearranges module
  nodes _ _ reached := node_pointed rearranges reached

/-- A module without types is warned of at its types, and every sequence without
components and every collection that must be empty at its own place, one place after
the other. A place has a pointer of its own, which leads to the node in the document
written for the module and in the one that is read from its text. -/
theorem warnings_point_at_nodes :
    module.semanticReport.warnings =
        (if module.types = [] then
          [⟨.warning, "types_empty", "/types", "module declares no types", none⟩] else []) ++
        (module.places.flatMap fun place => warningsAt place.pointer (module.node? place)) ∧
      (∀ place, place ∈ module.places ↔ (module.node? place).isSome) ∧
      (module.places.Pairwise fun place other => place.ordinals < other.ordinals) ∧
      Function.Injective NodePlace.pointer ∧
      module.FoundIn module.toJson id ∧
      ∀ document, Json.parse module.toJson.text = .ok document →
        module.FoundIn document Json.settled := by
  refine ⟨?_, module.mem_places_iff, module.places_ascending, NodePlace.pointer_injective,
    module.foundIn_arranged Json.rearranges_id, ?_⟩
  · rw [← nodeWarnings_eq]
    simp [semanticReport, warnings]
  · intro document parsed
    -- What is read from the text of a document is the document with its members settled.
    rw [Json.parse_text] at parsed
    split at parsed
    · cases parsed
      exact module.foundIn_arranged Json.rearranges_settled
    · cases parsed

/-- A choice between a mark and a list that can only be empty, of empty records. -/
def blanks : TypeModule :=
  ⟨modelVersion, "Blanks", [⟨"Slot", .shaped 0 (.choice [⟨"used", .shaped 1 .boolean⟩,
    ⟨"free", .shaped 2 (.sequenceOf ⟨0, 0⟩ (.shaped 3 (.sequence [])))⟩])⟩]⟩

example : blanks.semanticReport.warnings.map (fun issue => (issue.code, issue.path)) =
    [("zero_size_collection", "/types/0/type/alternatives/1/type"),
      ("empty_sequence", "/types/0/type/alternatives/1/type/element")] := by decide

end TypeModule

end Asn1Constraints
