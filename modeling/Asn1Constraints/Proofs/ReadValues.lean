import Asn1Constraints.Proofs.TracedChecks
import Asn1Constraints.Proofs.TypedValues
import Mathlib

/-!
What reading a document gives. Whether or not the document has everything that
is asked for, what is read has the form of its type. So reading loses nothing:
the value has a document of its own, with the hexadecimal digits, the reals and
the order of components settled, and that one reads back as the same value.
-/

namespace Asn1Constraints

namespace Value

/-- What was read as a shape has its form, and each part was read as its node. -/
theorem readShape_typed {module : TypeModule} {id : ConstraintId} {place : String}
    {shape : Shape TypeNode} (sound : shape.Sound) {json : Json} {value : Value}
    (each : ∀ node ∈ shape.parts, ∀ place json value,
      readPart module place node json = .ok value → Typed module node value)
    (read : readShape (readPart module) place shape json = .ok value) :
    Typed module (.shaped id shape) value := by
  cases readShape_ok_iff.mp read with
  | real given => exact .of_bare rfl (real?_finite given)
  | enumerated found =>
      exact .of_bare rfl (List.mem_map_of_mem (List.mem_of_find?_eq_some found))
  | sequenceOf elements =>
      have inside := readElements_each (fun place value item _ =>
        each _ (by simp [Shape.parts]) place item value) elements
      refine .shaped trivial ?_
      rintro part content ⟨member, rfl⟩
      exact inside content member
  | sequence _ listed =>
      obtain ⟨ordered, given⟩ := readComponents_each (Typed module)
        (fun component declared place json value _ =>
          each component.type (List.mem_map_of_mem declared) place json value) listed
      refine .shaped ordered ?_
      rintro part content ⟨component, declared, member, rfl⟩
      obtain ⟨other, among, named, typed⟩ := given _ member
      obtain rfl := List.inj_on_of_nodup_map sound among declared named
      exact typed
  | choice selected inside =>
      obtain ⟨declared, rfl⟩ := Alternative.declared_of_byName? selected
      refine .shaped (List.mem_map_of_mem declared) ?_
      rintro part contents ⟨other, among, named, rfl, rfl⟩
      obtain rfl := List.inj_on_of_nodup_map sound.2 declared among named
      exact each _ (List.mem_map_of_mem declared) _ _ _ inside
  | _ => exact .of_bare rfl trivial

end Value

namespace TypeModule

theorem WellFormed.read_typed {module : TypeModule} (wellFormed : module.WellFormed)
    (node : TypeNode) (sound : node.AllSound module) :
    ∀ place json value, Value.readPart module place node json = .ok value →
      Typed module node value := by
  apply wellFormed.induction ?_ ?_ node sound
  · intro id target assignment found ih place json value read
    rw [Value.readPart_reference found] at read
    exact .reference found (ih place json value read)
  · intro id shape sound ih place json value read
    rw [Value.readPart_shaped] at read
    exact Value.readShape_typed (sound _ (TypeNode.self_mem_nodes _)).2 ih read

/-- Whatever document a value was read from, the value can be written, reads
back from what is written, and is in normal form. -/
theorem ofJson_retracts (module : TypeModule) (accepted : module.validate = .ok ())
    (node : TypeNode) (within : node ∈ module.nodes) (json : Json) (value : Value)
    (read : Value.ofJson module node json = .ok value) :
    ∃ written, value.toJson module node = .ok written ∧
      Value.ofJson module node written = .ok value ∧ value.normalized module node = .ok value := by
  have wellFormed := wellFormed_of_validate accepted
  have sound := wellFormed.allSound_of_mem within
  exact wellFormed.typed_back node sound value
    (wellFormed.read_typed node sound "$" json value read)

/-- An entry without its flag, and with a whole number for its level. -/
def unflagged : Json := .object [("level", .integer ⟨7, by decide, by decide⟩)]

def unflaggedValue : Value := .sequence [("level", .real (Binary64.ofInt 7))]

theorem unflagged_retracts :
    flags.validate = .ok () ∧ entry.type ∈ flags.nodes ∧
      Value.ofJson flags entry.type unflagged = .ok unflaggedValue ∧
      ∃ written, unflaggedValue.toJson flags entry.type = .ok written ∧
        Value.ofJson flags entry.type written = .ok unflaggedValue ∧
          unflaggedValue.normalized flags entry.type = .ok unflaggedValue := by
  have within : entry.type ∈ flags.nodes := by
    simp [nodes, flags, entry, TypeNode.nodes]
  have read : Value.ofJson flags entry.type unflagged = .ok unflaggedValue := rfl
  exact ⟨rfl, within, read, ofJson_retracts flags rfl entry.type within unflagged _ read⟩

end TypeModule

end Asn1Constraints
