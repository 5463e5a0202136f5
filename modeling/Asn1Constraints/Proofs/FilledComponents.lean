import Asn1Constraints.Proofs.Conformance
import Mathlib

/-!
Sequences built along their declaration. Whoever goes through the components in
order, and gives each a value of its type or leaves out an optional one, ends
with a value of the sequence: nothing is missing, unknown or repeated.
-/

namespace Asn1Constraints

/-- Values for the components in order, none of them left out but optional ones. -/
inductive Filled {Node : Type} (good : Node → Value → Prop) :
    List (Component Node) → List (String × Value) → Prop where
  | nil : Filled good [] []
  | present {component components value values} :
      good component.type value → Filled good components values →
      Filled good (component :: components) ((component.name, value) :: values)
  | absent {component components values} :
      component.optional = true → Filled good components values →
      Filled good (component :: components) values

namespace Filled

variable {Node : Type} {good : Node → Value → Prop} {components : List (Component Node)}
  {values : List (String × Value)}

theorem names_sublist (filled : Filled good components values) :
    (values.map (·.1)).Sublist (components.map (·.name)) := by
  induction filled with
  | nil => exact .slnil
  | present _ _ ih => exact ih.cons_cons _
  | absent _ _ ih => exact ih.cons _

theorem mandatory_present (filled : Filled good components values) :
    ∀ component ∈ components, component.optional = false →
      component.name ∈ values.map (·.1) := by
  induction filled with
  | nil => simp
  | present _ _ ih =>
      intro component member mandatory
      rcases List.mem_cons.mp member with same | later
      · simp [same]
      · exact List.mem_cons_of_mem _ (ih component later mandatory)
  | absent optional _ ih =>
      intro component member mandatory
      rcases List.mem_cons.mp member with same | later
      · simp [same, optional] at mandatory
      · exact ih component later mandatory

/-- Each value was given to some component of its name. -/
theorem given (filled : Filled good components values) :
    ∀ entry ∈ values, ∃ component ∈ components,
      component.name = entry.1 ∧ good component.type entry.2 := by
  induction filled with
  | nil => simp
  | @present component _ value _ holds _ ih =>
      intro entry member
      rcases List.mem_cons.mp member with same | later
      · exact ⟨component, List.mem_cons_self, by simp [same], by simpa [same] using holds⟩
      · obtain ⟨other, among, found⟩ := ih entry later
        exact ⟨other, List.mem_cons_of_mem _ among, found⟩
  | absent _ _ ih =>
      intro entry member
      obtain ⟨other, among, found⟩ := ih entry member
      exact ⟨other, List.mem_cons_of_mem _ among, found⟩

theorem fits (filled : Filled good components values)
    (distinct : (components.map (·.name)).Nodup) :
    (Shape.sequence components).Fits (.sequence values) :=
  ⟨filled.mandatory_present, fun _ member => filled.names_sublist.subset member,
    filled.names_sublist.nodup distinct⟩

/-- What falls under a component is what the component was given. -/
theorem assigned (filled : Filled good components values)
    (distinct : (components.map (·.name)).Nodup) (part : Node) (content : Value)
    (assigns : (Shape.sequence components).Assigns (.sequence values) part content) :
    good part content := by
  obtain ⟨component, declared, member, rfl⟩ := assigns
  obtain ⟨other, among, named, holds⟩ := filled.given _ member
  obtain rfl := List.inj_on_of_nodup_map distinct among declared named
  exact holds

end Filled

theorem Filled.conforms {module : TypeModule} {id : ConstraintId}
    {components : List (Component TypeNode)} {values : List (String × Value)}
    (filled : Filled (Conforms module) components values)
    (distinct : (components.map (·.name)).Nodup) :
    Conforms module (.shaped id (.sequence components)) (.sequence values) :=
  .shaped (filled.fits distinct) (filled.assigned distinct)

end Asn1Constraints
