import Asn1Constraints.Plan.Document
import Asn1Constraints.Proofs.AskedQuestions
import Asn1Constraints.Proofs.PathTexts
import Asn1Constraints.Proofs.PrintedDocuments
import Asn1Constraints.Proofs.TracedChecks
import Asn1Constraints.Proofs.WrittenRecords
import Mathlib

/-!
Plans written and read back. Everything in the document of a plan is read as it
was written, apart from the paths, which are read from their texts anew; a plan
comes back if and only if the names on its paths are plain.
-/

namespace Asn1Constraints

open Json (Rearranges)

/-- Every limit of the rule is a number that a document can hold. -/
def CheckRule.Finite (rule : CheckRule) : Prop :=
  ∀ bounds, rule = .realRange bounds → bounds.min.isFinite = true ∧ bounds.max.isFinite = true

/-- The check with its path read from the text of that path. -/
def Check.restored (check : Check) : Except Fault Check :=
  ((FieldPath.parse check.path.text).mapError fun error => .refused error.message).map
    fun path => { check with path }

namespace ValidationPlan

def restored (plan : ValidationPlan) : Except Fault ValidationPlan :=
  (plan.checks.mapM Check.restored).map fun checks => { plan with checks }

end ValidationPlan

/-! Reading, in whatever order the members are met. -/

section

variable {arrange : Json → Json} {written met : Members} {α : Type}

theorem CheckRule.range_back (meets : written.Meets arrange met) {reader : Json → Except Fault α}
    {least greatest : Json} {min max : α} (low : written.lookup "min" = some least)
    (high : written.lookup "max" = some greatest) (lowBack : reader (arrange least) = .ok min)
    (highBack : reader (arrange greatest) = .ok max) :
    rangeOfMembers met reader = .ok (min, max) := by
  rw [rangeOfMembers, meets.present high highBack, meets.present low lowBack]
  rfl

theorem CheckRule.list_back (meets : written.Meets arrange met) {name : String}
    {reader : Json → Except Fault α} {json : Json} {values : List α}
    (found : written.lookup name = some json)
    (back : Json.readList reader (arrange json) = .ok values) :
    listOfMembers met name reader = .ok values := by
  rw [listOfMembers, meets.present found back]
  rfl

end

theorem CheckRule.name_known (rule : CheckRule) : rule.name ∈ ruleNames := by
  cases rule <;> simp [name, ruleNames]

section

variable {arrange : Json → Json} (rearranges : Rearranges arrange)

include rearranges

theorem SizeUnit.back (unit : SizeUnit) :
    SizeUnit.ofJson (arrange (.string unit.label)) = .ok unit := by
  rw [rearranges.scalar _ rfl]
  cases unit <;> rfl

/-- A rule is read from the members of its check. -/
theorem CheckRule.parts_back (rule : CheckRule) (finite : rule.Finite) {id path name : Json}
    {met : Members}
    (meets : Members.Meets arrange
      (("id", id) :: ("path", path) :: ("rule", name) :: rule.members) met) :
    CheckRule.ofParts rule.name met = .ok rule := by
  cases rule with
  | integerRange bounds =>
      rw [CheckRule.name, ofParts, range_back meets rfl rfl
        (rearranges.int64_back bounds.min) (rearranges.int64_back bounds.max)]
      rfl
  | realRange bounds =>
      obtain ⟨low, high⟩ := finite bounds rfl
      rw [CheckRule.name, ofParts, range_back meets rfl rfl
        (rearranges.real_back bounds.min low) (rearranges.real_back bounds.max high)]
      rfl
  | size bounds unit =>
      rw [CheckRule.name, ofParts, sizeOfMembers,
        meets.present rfl (rearranges.uint64_back bounds.maxSize),
        meets.present rfl (rearranges.uint64_back bounds.minSize),
        meets.present rfl (SizeUnit.back rearranges unit)]
      rfl
  | characterString bounds =>
      rw [CheckRule.name, ofParts, bounds.members_back rearranges meets rfl rfl]
      rfl
  | enumeratedValues values =>
      rw [CheckRule.name, ofParts, list_back meets rfl
        (rearranges.list_back values fun value _ => rearranges.int64_back value)]
      rfl
  | isBoolean => rfl
  | isNull => rfl
  | mandatoryFields mandatory declared =>
      rw [CheckRule.name, ofParts, componentsOfMembers,
        meets.present rfl (rearranges.names_back declared),
        meets.present rfl (rearranges.names_back mandatory)]
      rfl
  | singleAlternative alternatives =>
      change (listOfMembers met "alternatives" Json.readString).map CheckRule.singleAlternative = _
      rw [list_back meets rfl (rearranges.names_back alternatives)]
      rfl

theorem FieldPath.read_text (text : String) :
    FieldPath.ofJson (arrange (.string text)) =
      (FieldPath.parse text).mapError fun error => .refused error.message := by
  rw [FieldPath.ofJson, rearranges.string_back]
  rfl

theorem Check.read_back (check : Check) (finite : check.rule.Finite) :
    Check.ofJson (arrange check.toJson) = check.restored := by
  have distinct : ((("id", Json.ofUInt32 check.id) :: ("path", Json.string check.path.text) ::
      ("rule", Json.string check.rule.name) :: check.rule.members).map (·.1)).Nodup := by
    cases check.rule <;> simp [CheckRule.members, IntegerBounds.members, RealBounds.members,
      SizeBounds.members]
  obtain ⟨met, arranged, meets⟩ := rearranges.object _ distinct
  have written : arrange check.toJson = .object met := arranged
  -- The path is read before the rule is, so a path that is not read decides the result.
  rw [written, Check.ofJson, ofMembers, meets.present rfl (rearranges.uint32_back check.id),
    meets.part rfl, FieldPath.read_text rearranges, Check.restored]
  cases FieldPath.parse check.path.text with
  | error error => rfl
  | ok path =>
      have named : Members.optional? met "rule" (Json.readName ruleNames) =
          .ok (some check.rule.name) :=
        meets.present rfl (rearranges.name_back check.rule.name_known)
      have parts := check.rule.parts_back rearranges finite meets
      simp [Except.mapError, Except.map, required, bind, Except.bind, pure, Except.pure, named, parts]

theorem ValidationPlan.read_back (plan : ValidationPlan)
    (finite : ∀ check ∈ plan.checks, check.rule.Finite) :
    ValidationPlan.ofJson (arrange plan.toJson) = plan.restored := by
  obtain ⟨met, arranged, meets⟩ := rearranges.object
    [("type_name", .string plan.typeName), ("root_id", .ofUInt32 plan.rootId),
      ("checks", .array (plan.checks.map Check.toJson))] (by simp)
  have checks := rearranges.list_read plan.checks fun check member =>
    check.read_back rearranges (finite check member)
  rw [ValidationPlan.toJson, arranged, ValidationPlan.ofJson, ofMembers, meets.part rfl, checks,
    meets.present rfl (rearranges.uint32_back plan.rootId),
    meets.present rfl (rearranges.string_back plan.typeName), restored]
  cases plan.checks.mapM Check.restored <;> rfl

end

/-! Restored plans. -/

theorem Check.restored_ok_iff (check : Check) :
    check.restored = .ok check ↔ check.path.Plain := by
  have parsed := FieldPath.parse_ok_iff check.path.text check.path
  rw [restored]
  cases read : FieldPath.parse check.path.text with
  | error error => simpa [read, Except.mapError, Except.map] using parsed
  | ok path =>
      have same : (⟨check.id, path, check.rule⟩ : Check) = check ↔ path = check.path :=
        ⟨fun same => congrArg Check.path same, fun same => by rw [same]⟩
      simpa [read, Except.mapError, Except.map, same] using parsed

theorem mapM_ok_self_iff {ε α : Type} {step : α → Except ε α} (items : List α) :
    items.mapM step = .ok items ↔ ∀ item ∈ items, step item = .ok item := by
  induction items with
  | nil => exact ⟨fun _ => nofun, fun _ => rfl⟩
  | cons first rest ih =>
      rw [List.mapM_cons, List.forall_mem_cons, ← ih]
      constructor
      · intro run
        obtain ⟨value, own, following⟩ := bind_ok_iff.mp run
        obtain ⟨values, others, same⟩ := bind_ok_iff.mp following
        cases same
        exact ⟨own, others⟩
      · rintro ⟨own, others⟩
        rw [own, others]
        rfl

theorem ValidationPlan.restored_ok_iff (plan : ValidationPlan) :
    plan.restored = .ok plan ↔ ∀ check ∈ plan.checks, check.path.Plain := by
  simp only [← Check.restored_ok_iff]
  rw [← mapM_ok_self_iff, restored, map_ok_iff]
  constructor
  · rintro ⟨checks, read, same⟩
    have listed : checks = plan.checks := congrArg ValidationPlan.checks same
    rwa [listed] at read
  · exact fun read => ⟨plan.checks, read, rfl⟩

/-! The text of a plan. -/

namespace Json

theorem depth_array_le {items : List Json} {levels : ℕ}
    (each : ∀ item ∈ items, item.depth ≤ levels) : (Json.array items).depth ≤ levels + 1 := by
  rw [depth]
  refine Nat.succ_le_succ ?_
  induction items with
  | nil => exact Nat.zero_le _
  | cons first rest ih =>
      obtain ⟨own, others⟩ := List.forall_mem_cons.mp each
      exact Nat.max_le.mpr ⟨own, ih others⟩

theorem depth_object_le {members : Members} {levels : ℕ}
    (each : ∀ member ∈ members, member.2.depth ≤ levels) :
    (Json.object members).depth ≤ levels + 1 := by
  rw [depth]
  refine Nat.succ_le_succ ?_
  induction members with
  | nil => exact Nat.zero_le _
  | cons first rest ih =>
      obtain ⟨own, others⟩ := List.forall_mem_cons.mp each
      exact Nat.max_le.mpr ⟨own, ih others⟩

theorem depth_string (text : String) : (Json.string text).depth = 0 := rfl

theorem depth_ofInt64 (n : Int64) : (Json.ofInt64 n).depth = 0 := rfl

theorem depth_ofUInt64 (n : UInt64) : (Json.ofUInt64 n).depth = 0 := rfl

theorem depth_ofReal (x : Binary64) : (Json.ofReal x).depth = 0 := by
  rw [ofReal, ofReal?]
  split <;> rfl

end Json

theorem CheckRule.members_depth (rule : CheckRule) :
    ∀ member ∈ rule.members, member.2.depth ≤ 1 := by
  have names : ∀ names : List String, (Json.ofNames names).depth ≤ 1 := fun names =>
    Json.depth_array_le fun item member => by
      obtain ⟨name, _, rfl⟩ := List.mem_map.mp member
      exact Nat.le_refl _
  have numbers : ∀ values : List Int64, (Json.array (values.map .ofInt64)).depth ≤ 1 :=
    fun values => Json.depth_array_le fun item member => by
      obtain ⟨value, _, rfl⟩ := List.mem_map.mp member
      exact Nat.le_refl _
  cases rule <;> simp [members, IntegerBounds.members, RealBounds.members, SizeBounds.members,
    names, numbers, Json.depth_string, Json.depth_ofInt64, Json.depth_ofUInt64, Json.depth_ofReal]

theorem Check.toJson_depth (check : Check) : check.toJson.depth ≤ 2 := by
  refine Json.depth_object_le fun member inside => ?_
  rcases List.mem_append.mp inside with head | part
  · simp only [List.mem_cons, List.not_mem_nil, or_false] at head
    rcases head with rfl | rfl | rfl <;> exact Nat.zero_le _
  · exact check.rule.members_depth member part

theorem ValidationPlan.toJson_depth (plan : ValidationPlan) : plan.toJson.depth ≤ 4 := by
  refine Json.depth_object_le fun member inside => ?_
  simp only [List.mem_cons, List.not_mem_nil, or_false] at inside
  rcases inside with rfl | rfl | rfl
  · exact Nat.zero_le _
  · exact Nat.zero_le _
  · refine Json.depth_array_le fun item listed => ?_
    obtain ⟨check, _, rfl⟩ := List.mem_map.mp listed
    exact check.toJson_depth

/-- The text of a shallow document is read as the settled document is. -/
theorem parseAs_text {α : Type} (reader : Json → Except Fault α) {json : Json}
    (shallow : json.depth ≤ Json.levelLimit) :
    Json.parseAs reader json.text = (reader json.settled).mapError .mismatch := by
  rw [Json.parseAs, Json.parse_text, if_pos shallow]

theorem ValidationPlan.parse_text (plan : ValidationPlan)
    (finite : ∀ check ∈ plan.checks, check.rule.Finite) :
    Json.parseAs ValidationPlan.ofJson plan.toJson.text = plan.restored.mapError .mismatch := by
  have shallow : plan.toJson.depth ≤ Json.levelLimit := plan.toJson_depth.trans (by decide)
  rw [parseAs_text _ shallow, plan.read_back Json.rearranges_settled finite]

theorem ValidationPlan.parse_text_iff (plan : ValidationPlan)
    (finite : ∀ check ∈ plan.checks, check.rule.Finite) :
    Json.parseAs ValidationPlan.ofJson plan.toJson.text = .ok plan ↔
      ∀ check ∈ plan.checks, check.path.Plain := by
  rw [plan.parse_text finite, ← plan.restored_ok_iff]
  cases plan.restored <;> simp [Except.mapError]

/-! The plans of a module. -/

namespace TypeModule

/-- No component and no alternative has a name that ends before its end. -/
def PlainNames (module : TypeModule) : Prop :=
  ∀ id shape, TypeNode.shaped id shape ∈ module.nodes →
    ∀ branch ∈ shape.branches, branch.1.Plain

namespace WellFormed

variable {module : TypeModule} (wellFormed : module.WellFormed)

include wellFormed

theorem checks_finite (finite : module.FiniteReals) (assignment : TypeAssignment)
    (declared : assignment ∈ module.types) :
    ∀ check ∈ module.checksOf assignment.type, check.rule.Finite := by
  intro check planned bounds isReal
  obtain ⟨_, shape, member, own⟩ := wellFormed.checks_traced assignment declared check planned
  rw [isReal] at own
  cases shape <;> cases own
  exact finite _ _ member

/-- The segments of a path are those of the nodes on the way. -/
theorem checks_plain (plain : module.PlainNames) (assignment : TypeAssignment)
    (declared : assignment ∈ module.types) :
    ∀ check ∈ module.checksOf assignment.type, check.path.Plain := by
  refine wellFormed.checkInduction ?_ ?_ assignment declared
  · exact fun id shape member named => nofun
  · intro id shape member branch isBranch check below
    exact List.forall_mem_cons.mpr ⟨plain id shape member branch isBranch, below⟩

end WellFormed

/-- The text of a plan reads back as the plan if and only if the names on the
paths of its checks are plain, as they are when all names of the module are. -/
theorem stored_plan_reads_back (module : TypeModule) (accepted : module.validate = .ok ())
    (finite : module.FiniteReals) (assignment : TypeAssignment)
    (declared : assignment ∈ module.types) :
    ∃ plan, module.compile assignment.name = .ok plan ∧
      (Json.parseAs ValidationPlan.ofJson plan.toJson.text = .ok plan ↔
        ∀ check ∈ plan.checks, check.path.Plain) ∧
      (module.PlainNames →
        Json.parseAs ValidationPlan.ofJson plan.toJson.text = .ok plan) := by
  have wellFormed := wellFormed_of_validate accepted
  obtain ⟨resolved, _, made⟩ := wellFormed.compile_ok accepted assignment declared
  have limits := wellFormed.checks_finite finite assignment declared
  have reads := ValidationPlan.parse_text_iff
    ⟨assignment.name, resolved.id, module.checksOf assignment.type⟩ limits
  exact ⟨_, made, reads, fun plain => reads.mpr (wellFormed.checks_plain plain assignment declared)⟩

def dial : TypeAssignment :=
  ⟨"Dial", .shaped 2 (.sequence [⟨"a.b", false, .shaped 1 (.integer ⟨0, 9⟩)⟩])⟩

/-- A dial with a dotted name for its only part. -/
def dials : TypeModule := ⟨modelVersion, "Dials", [dial]⟩

theorem dials_finite : dials.FiniteReals := by
  intro id bounds member
  simp [nodes, dials, dial, TypeNode.nodes, TypeNode.componentNodes] at member

/-- The plan of a dial, with a path to its only part. -/
def dialPlan (part : List PathSegment) : ValidationPlan :=
  ⟨"Dial", 2, [⟨1, ⟨part⟩, .integerRange ⟨0, 9⟩⟩,
    ⟨2, .root, .mandatoryFields ["a.b"] ["a.b"]⟩]⟩

theorem dials_compile : dials.compile "Dial" = .ok (dialPlan [.component "a.b"]) := rfl

/-- The path in the stored plan is that of a part of another component. -/
theorem dial_restored :
    Json.parseAs ValidationPlan.ofJson (dialPlan [.component "a.b"]).toJson.text =
      .ok (dialPlan [.component "a", .component "b"]) := by
  rw [ValidationPlan.parse_text]
  · rfl
  · simp [dialPlan, CheckRule.Finite]

/-- The stored check of the dotted component looks for a part of another one, so
what the plan refuses passes once the plan has been stored. -/
theorem dotted_name_hides_violation :
    (¬ ∀ module : TypeModule, module.validate = .ok () → module.FiniteReals →
      ∀ assignment ∈ module.types, ∃ plan, module.compile assignment.name = .ok plan ∧
        Json.parseAs ValidationPlan.ofJson plan.toJson.text = .ok plan) ∧
      ∃ plan stored, dials.compile dial.name = .ok plan ∧
        Json.parseAs ValidationPlan.ofJson plan.toJson.text = .ok stored ∧
        plan.validate (.sequence [("a.b", .integer 10)]) ≠ .ok () ∧
        stored.validate (.sequence [("a.b", .integer 10)]) = .ok () := by
  constructor
  · intro claimed
    obtain ⟨plan, made, back⟩ := claimed dials rfl dials_finite dial List.mem_cons_self
    obtain rfl := Except.ok.inj (dials_compile.symm.trans made)
    have same := Except.ok.inj (dial_restored.symm.trans back)
    exact absurd same (by decide)
  · exact ⟨_, _, dials_compile, dial_restored, nofun, rfl⟩

theorem routes_read_back :
    routes.validate = .ok () ∧ routes.FiniteReals ∧ routes.PlainNames ∧
      ∃ route ∈ routes.types, ∃ plan, routes.compile route.name = .ok plan ∧
        Json.parseAs ValidationPlan.ofJson plan.toJson.text = .ok plan := by
  have finite : routes.FiniteReals := by
    intro id bounds member
    simp [nodes, routes, TypeNode.nodes, TypeNode.componentNodes,
      TypeNode.alternativeNodes] at member
  have plain : routes.PlainNames := by
    intro id shape member
    simp only [nodes, routes, TypeNode.nodes, TypeNode.componentNodes, TypeNode.alternativeNodes,
      List.flatMap_cons, List.flatMap_nil, List.append_nil, List.nil_append, List.cons_append,
      List.mem_cons, List.not_mem_nil, or_false, TypeNode.shaped.injEq, reduceCtorEq,
      false_or] at member
    rcases member with ⟨-, rfl⟩ | ⟨-, rfl⟩ | ⟨-, rfl⟩ | ⟨-, rfl⟩ | ⟨-, rfl⟩ <;>
      simp [Shape.branches, PathSegment.Plain, PlainName, FieldPath.endsName]
  obtain ⟨plan, made, _, back⟩ :=
    stored_plan_reads_back routes rfl finite _ List.mem_cons_self
  exact ⟨rfl, finite, plain, _, List.mem_cons_self, plan, made, back plain⟩

end TypeModule

end Asn1Constraints
