import Asn1Constraints.Proofs.FlatOutcomes
import Asn1Constraints.Proofs.PostOrder
import Asn1Constraints.Proofs.Unfolding
import Mathlib

/-!
Plans of types in a module of which nothing is known. References may lead
nowhere or in circles and names may be declared twice, where the first
declaration counts. The names being followed are all that keeps the walk from
going on for ever, and it has to stop at circles alone: a type that is used
again and again is no hindrance.
-/

namespace Asn1Constraints

open Relation

namespace TypeTree

/-- One of the leaves stands in the place of a reference that is not followed. -/
inductive Dangles : TypeTree → Dangling → Prop where
  | leaf {cause} : Dangles (.dangling cause) cause
  | branch {id shape branch cause} :
      branch ∈ shape.parts → Dangles (branch ()) cause → Dangles (.shaped id shape) cause

theorem dangles_dangling_iff (cause other : Dangling) :
    (TypeTree.dangling cause).Dangles other ↔ other = cause := by
  constructor
  · rintro ⟨⟩
    rfl
  · rintro rfl
    exact .leaf

theorem dangles_shaped_iff (id : ConstraintId) (shape : Shape Branch) (cause : Dangling) :
    (TypeTree.shaped id shape).Dangles cause ↔
      ∃ branch ∈ shape.parts, (branch ()).Dangles cause := by
  constructor
  · rintro (_ | ⟨member, inside⟩)
    exact ⟨_, member, inside⟩
  · rintro ⟨branch, member, inside⟩
    exact .branch member inside

/-- What planning a tree comes to: checks if nothing dangles, and otherwise what
one of the dangling leaves says of its place. -/
def Settles (tree : TypeTree) (module : String) : Except Error (List Check) → Prop
  | .ok _ => ∀ cause, ¬ tree.Dangles cause
  | .error error => ∃ cause path, tree.Dangles cause ∧ error = cause.errorAt module path

theorem checks_settle (module : String) (tree : TypeTree) :
    ∀ path, tree.Settles module (tree.checks module path) := by
  induction tree using branchInduction with
  | dangling cause => exact fun path => ⟨cause, path, .leaf, rfl⟩
  | shaped id shape ih =>
      intro path
      have each : ∀ branch ∈ shape.branches,
          (branch.2 ()).Settles module (branchPlan module path branch) := fun branch member =>
        ih branch.2 (shape.branch_mem_parts branch member) (path.push branch.1)
      rw [checks, partChecks_eq_mapM]
      -- Planning stops at the first part that has no plan, and so goes through only if all have.
      cases planned : shape.branches.mapM (branchPlan module path) with
      | error error =>
          obtain ⟨branch, member, stopped⟩ := mapM_error planned
          obtain ⟨cause, place, dangles, same⟩ := stopped ▸ each branch member
          exact ⟨cause, place, .branch (shape.branch_mem_parts branch member) dangles, same⟩
      | ok results =>
          intro cause dangles
          obtain ⟨part, isPart, inside⟩ := (dangles_shaped_iff id shape cause).mp dangles
          rw [← Shape.branches_parts] at isPart
          obtain ⟨branch, member, rfl⟩ := List.mem_map.mp isPart
          obtain ⟨checks, _, fine⟩ := exists_of_forall₂ (mapM_ok_forall₂ planned).flip member
          exact (fine ▸ each branch member) cause inside

end TypeTree

namespace TypeModule

variable {module : TypeModule}

/-- The first type of the name `user` refers to `used`. -/
def Leads (module : TypeModule) (user used : String) : Prop :=
  ∃ assignment, module.find? user = some assignment ∧ used ∈ assignment.type.references

/-- Following references from the node one comes to the name. -/
def Reaches (module : TypeModule) (node : TypeNode) (name : String) : Prop :=
  ∃ target ∈ node.references, ReflTransGen module.Leads target name

/-- Every reference that is met has a declared target, and no type that is met
comes back to itself. -/
structure Expandable (module : TypeModule) (node : TypeNode) : Prop where
  declared : ∀ name, module.Reaches node name →
    ∃ assignment ∈ module.types, assignment.name = name
  acyclic : ∀ name, module.Reaches node name → ¬ TransGen module.Leads name name

/-- What is wrong with a node that cannot be expanded. -/
def Hindered (module : TypeModule) (node : TypeNode) : Dangling → Prop
  | .unknown target => module.Reaches node target ∧
      ∀ assignment ∈ module.types, assignment.name ≠ target
  | .recursive target => module.Reaches node target ∧ TransGen module.Leads target target

theorem Expandable.not_hindered {node : TypeNode} (expandable : module.Expandable node)
    (cause : Dangling) : ¬ module.Hindered node cause := by
  cases cause with
  | unknown target =>
      rintro ⟨reached, undeclared⟩
      obtain ⟨assignment, member, named⟩ := expandable.declared target reached
      exact undeclared assignment member named
  | recursive target => exact fun hindered => expandable.acyclic target hindered.1 hindered.2

theorem Hindered.mono {inner outer : TypeNode} {cause : Dangling}
    (onward : ∀ name, module.Reaches inner name → module.Reaches outer name)
    (hindered : module.Hindered inner cause) : module.Hindered outer cause := by
  cases cause with
  | unknown target => exact ⟨onward target hindered.1, hindered.2⟩
  | recursive target => exact ⟨onward target hindered.1, hindered.2⟩

theorem reaches_part {id : ConstraintId} {shape : Shape TypeNode} {part : TypeNode}
    (isPart : part ∈ shape.parts) {name : String} (reached : module.Reaches part name) :
    module.Reaches (.shaped id shape) name := by
  obtain ⟨target, referred, onward⟩ := reached
  rw [Reaches, TypeNode.references_shaped]
  exact ⟨target, List.mem_flatMap.mpr ⟨part, isPart, referred⟩, onward⟩

theorem reaches_target (id : ConstraintId) (target : String) :
    module.Reaches (.reference id target) target :=
  ⟨target, by simp [TypeNode.references], .refl⟩

theorem reaches_reference_iff (id : ConstraintId) {target name : String}
    {assignment : TypeAssignment} (found : module.find? target = some assignment) :
    module.Reaches (.reference id target) name ↔
      name = target ∨ module.Reaches assignment.type name := by
  have next : ∀ used, module.Leads target used ↔ used ∈ assignment.type.references := by
    simp [Leads, found]
  have named : module.Reaches (.reference id target) name ↔
      ReflTransGen module.Leads target name := by
    simp [Reaches, TypeNode.references]
  rw [named, ReflTransGen.cases_head_iff, eq_comm]
  simp only [next, Reaches]

/-! The walk. It goes into the parts of a shape and into the target of a
reference, as long as that is not being followed. -/

/-- One step of the walk; the names that are being followed come first. -/
inductive Descends (module : TypeModule) :
    List String × TypeNode → List String × TypeNode → Prop where
  | part {stack id shape part} : part ∈ shape.parts →
      Descends module (stack, part) (stack, .shaped id shape)
  | target {stack id target assignment} : target ∉ stack →
      module.find? target = some assignment →
      Descends module (target :: stack, assignment.type) (stack, .reference id target)

/-- The types that are not being followed. -/
def unfollowed (module : TypeModule) (stack : List String) : List TypeAssignment :=
  module.types.filter fun assignment => !stack.contains assignment.name

theorem unfollowed_cons_lt {stack : List String} {target : String} {assignment : TypeAssignment}
    (fresh : target ∉ stack) (found : module.find? target = some assignment) :
    (module.unfollowed (target :: stack)).length < (module.unfollowed stack).length := by
  obtain ⟨declared, named⟩ := declared_of_find? found
  have within : module.unfollowed (target :: stack) =
      (module.unfollowed stack).filter fun assignment => assignment.name ≠ target := by
    rw [unfollowed, unfollowed, List.filter_filter]
    exact List.filter_congr fun other _ => by simp
  rw [within, List.length_filter_lt_length_iff_exists]
  exact ⟨assignment, by simp [unfollowed, declared, named, fresh], by simp [named]⟩

theorem unfollowed_length_le (module : TypeModule) (stack : List String) :
    (module.unfollowed stack).length ≤ module.types.length :=
  List.length_filter_le _ _

/-- No walk goes on for ever, whatever refers to what. -/
theorem descends_wellFounded (module : TypeModule) : WellFounded module.Descends := by
  -- From type to type there is one less to follow, and inside a type the nodes get smaller.
  have accessible : ∀ left stack, (module.unfollowed stack).length = left →
      ∀ node, Acc module.Descends (stack, node) := by
    intro left
    induction left using Nat.strongRecOn with
    | ind left ih =>
        intro stack counted node
        induction node using TypeNode.partsInduction with
        | reference id target =>
            constructor
            rintro _ (_ | ⟨fresh, found⟩)
            exact ih _ (counted ▸ unfollowed_cons_lt fresh found) _ rfl _
        | shaped id shape parts =>
            constructor
            rintro _ (⟨isPart⟩ | _)
            exact parts _ isPart
  exact ⟨fun place => accessible _ place.1 rfl place.2⟩

/-- To show something of every place of every walk, show it of a reference from
the type it is followed into, and of a shape from its parts. -/
theorem walkInduction (module : TypeModule) {motive : List String → TypeNode → Prop}
    (reference : ∀ stack id target, (∀ assignment, target ∉ stack →
      module.find? target = some assignment → motive (target :: stack) assignment.type) →
      motive stack (.reference id target))
    (shaped : ∀ stack id shape, (∀ part ∈ shape.parts, motive stack part) →
      motive stack (.shaped id shape))
    (stack : List String) (node : TypeNode) : motive stack node := by
  suffices everywhere : ∀ place : List String × TypeNode, motive place.1 place.2 from
    everywhere (stack, node)
  intro place
  induction place using module.descends_wellFounded.induction with
  | _ place ih =>
      obtain ⟨stack, node⟩ := place
      cases node with
      | reference id target =>
          exact reference stack id target fun _ fresh found => ih _ (.target fresh found)
      | shaped id shape => exact shaped stack id shape fun _ isPart => ih _ (.part isPart)

/-! The tree that the walk sees. Budgets that last for the types not yet being
followed all give the same one. -/

/-- What a name is replaced by inside the names being followed, when `inner` is
what names are replaced by inside that one as well. -/
def expand (module : TypeModule) (stack : List String) (target : String)
    (inner : String → TypeTree) : TypeTree :=
  if target ∈ stack then .dangling (.recursive target)
  else
    match module.find? target with
    | none => .dangling (.unknown target)
    | some assignment => assignment.type.graft inner

theorem expand_congr (module : TypeModule) (stack : List String) (target : String)
    {inner other : String → TypeTree}
    (same : ∀ assignment, target ∉ stack → module.find? target = some assignment → inner = other) :
    module.expand stack target inner = module.expand stack target other := by
  unfold expand
  split
  · rfl
  · rename_i fresh
    cases found : module.find? target with
    | none => rfl
    | some assignment => rw [same assignment fresh found]

theorem follow_succ (budget : ℕ) (stack : List String) (target : String) :
    module.follow (budget + 1) stack target =
      module.expand stack target (module.follow budget (target :: stack)) := by
  rw [expand, follow]
  cases module.find? target <;> simp only [List.contains_iff_mem]

/-- Without a budget there must be nothing left to follow. -/
theorem follow_zero (stack : List String) (target : String)
    (none_left : (module.unfollowed stack).length = 0) (inner : String → TypeTree) :
    module.follow 0 stack target = module.expand stack target inner := by
  rw [expand, follow]
  simp only [List.contains_iff_mem]
  split
  · rfl
  · rename_i fresh
    cases found : module.find? target with
    | none => rfl
    | some assignment =>
        have fewer := unfollowed_cons_lt fresh found
        omega

theorem follow_congr (budget other : ℕ) (stack : List String)
    (enough : (module.unfollowed stack).length ≤ budget)
    (plenty : (module.unfollowed stack).length ≤ other) :
    module.follow budget stack = module.follow other stack := by
  funext target
  induction budget generalizing other stack target with
  | zero =>
      have left := Nat.le_zero.mp enough
      cases other with
      | zero => rfl
      | succ rest => rw [follow_succ, follow_zero stack target left]
  | succ budget ih =>
      cases other with
      | zero => rw [follow_succ, follow_zero stack target (Nat.le_zero.mp plenty)]
      | succ rest =>
          rw [follow_succ, follow_succ]
          refine module.expand_congr stack target fun assignment fresh found => funext fun next => ?_
          have fewer := unfollowed_cons_lt fresh found
          exact ih rest (target :: stack) (by omega) (by omega) next

/-- The walk as it would be without a budget. -/
theorem follow_eq_expand (module : TypeModule) (stack : List String) (target : String) :
    module.follow module.types.length stack target =
      module.expand stack target (module.follow module.types.length (target :: stack)) := by
  -- One more in the budget changes nothing, and pays for the step.
  rw [follow_congr _ (module.types.length + 1) stack (module.unfollowed_length_le stack)
    (Nat.le_succ_of_le (module.unfollowed_length_le stack)), follow_succ]

/-- The tree of a node inside the names being followed. -/
def treeWithin (module : TypeModule) (stack : List String) (node : TypeNode) : TypeTree :=
  node.graft (module.follow module.types.length stack)

theorem treeWithin_reference (stack : List String) (id : ConstraintId) (target : String) :
    module.treeWithin stack (.reference id target) =
      module.expand stack target (module.follow module.types.length (target :: stack)) :=
  module.follow_eq_expand stack target

theorem treeWithin_dangles_iff (stack : List String) (id : ConstraintId) (shape : Shape TypeNode)
    (cause : Dangling) : (module.treeWithin stack (.shaped id shape)).Dangles cause ↔
      ∃ part ∈ shape.parts, (module.treeWithin stack part).Dangles cause := by
  rw [treeWithin, TypeNode.graft, graftParts_eq_map, TypeTree.dangles_shaped_iff, Shape.parts_map]
  simp [treeWithin]

/-- A leaf dangles for a reason: its name is met, and is undeclared or leads to itself. -/
theorem hindered_of_dangles (stack : List String) (node : TypeNode)
    (leads : ∀ name ∈ stack, ∀ target ∈ node.references, TransGen module.Leads name target)
    (cause : Dangling) (dangles : (module.treeWithin stack node).Dangles cause) :
    module.Hindered node cause := by
  induction stack, node using module.walkInduction with
  | reference stack id target ih =>
      rw [treeWithin_reference, expand] at dangles
      have referred : target ∈ (TypeNode.reference id target).references := by
        simp [TypeNode.references]
      split at dangles
      · rename_i inside
        obtain rfl := (TypeTree.dangles_dangling_iff _ _).mp dangles
        -- All names being followed lead to the target, and it is one of them.
        exact ⟨reaches_target id target, leads target inside target referred⟩
      · rename_i fresh
        cases found : module.find? target with
        | none =>
            rw [found] at dangles
            obtain rfl := (TypeTree.dangles_dangling_iff _ _).mp dangles
            refine ⟨reaches_target id target, fun assignment member named => ?_⟩
            have declared := (module.find?_isSome_iff target).mpr ⟨assignment, member, named⟩
            rw [found] at declared
            cases declared
        | some assignment =>
            rw [found] at dangles
            have next : ∀ used ∈ assignment.type.references, module.Leads target used :=
              fun used further => ⟨assignment, found, further⟩
            refine (ih assignment fresh found ?_ dangles).mono fun name reached =>
              (reaches_reference_iff id found).mpr (.inr reached)
            refine List.forall_mem_cons.mpr ⟨fun used further => .single (next used further), ?_⟩
            exact fun name above used further =>
              (leads name above target referred).tail (next used further)
  | shaped stack id shape ih =>
      obtain ⟨part, isPart, inside⟩ := (treeWithin_dangles_iff stack id shape cause).mp dangles
      rw [TypeNode.references_shaped] at leads
      refine (ih part isPart ?_ inside).mono fun _ => reaches_part isPart
      exact fun name above target referred =>
        leads name above target (List.mem_flatMap.mpr ⟨part, isPart, referred⟩)

theorem hindered_of_unfold_dangles (node : TypeNode) (cause : Dangling)
    (dangles : (module.unfold node).Dangles cause) : module.Hindered node cause :=
  hindered_of_dangles [] node (fun _ inside => absurd inside List.not_mem_nil) cause dangles

/-- Where nothing dangles, all that is met is declared and leads neither to
itself nor to a name being followed. -/
theorem clear_of_whole (stack : List String) (node : TypeNode)
    (whole : ∀ cause, ¬ (module.treeWithin stack node).Dangles cause) (name : String)
    (reached : module.Reaches node name) :
    name ∉ stack ∧ (∃ assignment ∈ module.types, assignment.name = name) ∧
      ¬ TransGen module.Leads name name := by
  induction stack, node using module.walkInduction generalizing name with
  | reference stack id target ih =>
      rw [treeWithin_reference, expand] at whole
      split at whole
      · exact absurd .leaf (whole (.recursive target))
      · rename_i fresh
        cases found : module.find? target with
        | none =>
            rw [found] at whole
            exact absurd .leaf (whole (.unknown target))
        | some assignment =>
            rw [found] at whole
            have below := ih assignment fresh found whole
            rcases (reaches_reference_iff id found).mp reached with rfl | further
            · refine ⟨fresh, ⟨assignment, declared_of_find? found⟩, fun cycle => ?_⟩
              obtain ⟨used, ⟨other, also, referred⟩, back⟩ := TransGen.head'_iff.mp cycle
              obtain rfl := Option.some.inj (found.symm.trans also)
              -- Coming back to the name, one would meet it while it is being followed.
              exact (below name ⟨used, referred, back⟩).1 List.mem_cons_self
            · obtain ⟨outside, clear⟩ := below name further
              exact ⟨fun above => outside (List.mem_cons_of_mem target above), clear⟩
  | shaped stack id shape ih =>
      obtain ⟨target, referred, onward⟩ := reached
      rw [TypeNode.references_shaped] at referred
      obtain ⟨part, isPart, inPart⟩ := List.mem_flatMap.mp referred
      refine ih part isPart (fun cause inside => ?_) name ⟨target, inPart, onward⟩
      exact whole cause ((treeWithin_dangles_iff stack id shape cause).mpr ⟨part, isPart, inside⟩)

theorem whole_iff_expandable (node : TypeNode) :
    (∀ cause, ¬ (module.unfold node).Dangles cause) ↔ module.Expandable node := by
  constructor
  · intro whole
    have clear := clear_of_whole [] node whole
    exact ⟨fun name reached => (clear name reached).2.1, fun name reached => (clear name reached).2.2⟩
  · intro expandable cause dangles
    exact expandable.not_hindered cause (hindered_of_unfold_dangles node cause dangles)

/-- Where nothing dangles, a chain of references ends within the same budget. -/
theorem resolveWithin_ok (budget : ℕ) (stack : List String) (node : TypeNode)
    (whole : ∀ cause, ¬ (node.graft (module.follow budget stack)).Dangles cause) :
    ∃ resolved, module.resolveWithin (budget + 1) node = .ok resolved := by
  induction budget generalizing stack node with
  | zero =>
      cases node with
      | shaped id shape => exact ⟨⟨id, shape⟩, rfl⟩
      | reference id target =>
          unfold TypeNode.graft follow at whole
          split at whole
          · exact absurd .leaf (whole _)
          · split at whole <;> exact absurd .leaf (whole _)
  | succ budget ih =>
      cases node with
      | shaped id shape => exact ⟨⟨id, shape⟩, rfl⟩
      | reference id target =>
          -- The chain goes on in the target, which the walk enters too with one less in the budget.
          rw [TypeNode.graft, follow_succ, expand] at whole
          split at whole
          · exact absurd .leaf (whole _)
          · cases found : module.find? target with
            | none =>
                rw [found] at whole
                exact absurd .leaf (whole _)
            | some assignment =>
                rw [found] at whole
                obtain ⟨resolved, reached⟩ := ih (target :: stack) assignment.type whole
                exact ⟨resolved, by simp [resolveWithin, require, found, reached]⟩

theorem planOf_of_checks {node : TypeNode} {checks : List Check}
    (planned : (module.unfold node).checks module.name .root = .ok checks) :
    ∃ resolved, module.resolve node = .ok resolved ∧
      module.planOf node = .ok ⟨"", resolved.id, checks⟩ := by
  have settled := (module.unfold node).checks_settle module.name .root
  rw [planned] at settled
  obtain ⟨resolved, reached⟩ := resolveWithin_ok module.types.length [] node settled
  refine ⟨resolved, reached, ?_⟩
  rw [planOf, planned, resolve, reached]
  rfl

/-- A node has a plan exactly if it can be expanded, in whatever module. What
stops a plan is a reference to an undeclared type or to one that leads back to
itself. The walk behind it ends everywhere, and it is the walk without a budget. -/
theorem planOf_decides_expandable (module : TypeModule) (node : TypeNode) :
    WellFounded module.Descends ∧
      (∀ stack target, module.follow module.types.length stack target =
        module.expand stack target (module.follow module.types.length (target :: stack))) ∧
      ((∃ plan, module.planOf node = .ok plan) ↔ module.Expandable node) ∧
      (¬ module.Expandable node →
        (∃ target, module.Reaches node target ∧
          (∀ assignment ∈ module.types, assignment.name ≠ target) ∧
          module.planOf node = .error (.unknownType module.name target)) ∨
        ∃ path target, module.Reaches node target ∧ TransGen module.Leads target target ∧
          module.planOf node =
            .error (.malformed (.recursiveReferenceAt (FieldPath.text path) target))) ∧
      ∀ checks, (module.unfold node).checks module.name .root = .ok checks →
        ∃ resolved, module.resolve node = .ok resolved ∧
          module.planOf node = .ok ⟨"", resolved.id, checks⟩ := by
  refine ⟨module.descends_wellFounded, module.follow_eq_expand, ?_⟩
  have settled := (module.unfold node).checks_settle module.name .root
  cases planned : (module.unfold node).checks module.name .root with
  | ok checks =>
      rw [planned] at settled
      have expandable := (whole_iff_expandable node).mp settled
      obtain ⟨resolved, reached, made⟩ := planOf_of_checks planned
      refine ⟨iff_of_true ⟨_, made⟩ expandable, absurd expandable, ?_⟩
      rintro _ ⟨⟩
      exact ⟨resolved, reached, made⟩
  | error error =>
      rw [planned] at settled
      obtain ⟨cause, path, dangles, rfl⟩ := settled
      have hindered := hindered_of_unfold_dangles node cause dangles
      have stopped : module.planOf node = .error (cause.errorAt module.name path) := by
        rw [planOf, planned]
        rfl
      refine ⟨iff_of_false ?_ fun expandable => expandable.not_hindered cause hindered, ?_, ?_⟩
      · rintro ⟨plan, made⟩
        cases stopped.symm.trans made
      · intro _
        cases cause with
        | unknown target => exact .inl ⟨target, hindered.1, hindered.2, stopped⟩
        | recursive target => exact .inr ⟨path, target, hindered.1, hindered.2, stopped⟩
      · rintro _ ⟨⟩

/-- A pair of words, a ring of two types, and a second word that leads to them. -/
def tangles : TypeModule :=
  ⟨modelVersion, "Tangles",
    [⟨"Pair", .shaped 1 (.sequence [⟨"left", false, .reference 0 "Word"⟩,
        ⟨"right", true, .reference 0 "Word"⟩])⟩,
      ⟨"Word", .shaped 2 (.integer ⟨0, 9⟩)⟩, ⟨"Word", .reference 0 "Ring"⟩,
      ⟨"Ring", .reference 0 "Link"⟩, ⟨"Link", .shaped 3 (.sequenceOf ⟨0, 5⟩ (.reference 0 "Ring"))⟩]⟩

theorem tangles_decided :
    tangles.Expandable (.reference 0 "Pair") ∧ ¬ tangles.Expandable (.reference 0 "Ring") ∧
      ∃ target, tangles.Reaches (.reference 0 "Ring") target ∧
        TransGen tangles.Leads target target := by
  obtain ⟨_, _, pairs, _⟩ := planOf_decides_expandable tangles (.reference 0 "Pair")
  obtain ⟨_, _, rings, refused, _⟩ := planOf_decides_expandable tangles (.reference 0 "Ring")
  have stopped : tangles.planOf (.reference 0 "Ring") =
      .error (.malformed (.recursiveReferenceAt "$[*]" "Ring")) := rfl
  have twisted : ¬ tangles.Expandable (.reference 0 "Ring") := by
    intro expandable
    obtain ⟨plan, made⟩ := rings.mpr expandable
    cases stopped.symm.trans made
  refine ⟨pairs.mp ⟨_, rfl⟩, twisted, ?_⟩
  rcases refused twisted with ⟨target, _, _, unknown⟩ | ⟨path, target, reached, cycle, _⟩
  · cases stopped.symm.trans unknown
  · exact ⟨target, reached, cycle⟩

end TypeModule

end Asn1Constraints
