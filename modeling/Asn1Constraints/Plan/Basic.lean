import Asn1Constraints.Plan.Path
import Asn1Constraints.TypeModel.Bounds
import Asn1Constraints.Value.Text

/-!
Validation plans: an ordered list of checks, each a rule for the values at one
path under the id of the constraint it enforces.
-/

namespace Asn1Constraints

inductive SizeUnit where
  | bytes
  | bits
  | elements
deriving DecidableEq, Repr

inductive CheckRule where
  | integerRange (bounds : IntegerBounds)
  | realRange (bounds : RealBounds)
  | size (bounds : SizeBounds) (unit : SizeUnit)
  /-- A size range, and characters of the seven-bit set only. -/
  | characterString (bounds : SizeBounds)
  | enumeratedValues (values : List Int64)
  | isBoolean
  | isNull
  /-- Every mandatory component present, none undeclared, none repeated. -/
  | mandatoryFields (mandatory declared : List String)
  | singleAlternative (alternatives : List String)
deriving DecidableEq, Repr

structure Check where
  id : ConstraintId
  path : FieldPath
  rule : CheckRule
deriving DecidableEq, Repr

structure ValidationPlan where
  typeName : String
  /-- Id of the root's own check, 0 when it has none. -/
  rootId : ConstraintId
  checks : List Check
deriving DecidableEq, Repr

def SizeUnit.label : SizeUnit → String
  | .bytes => "bytes"
  | .bits => "bits"
  | .elements => "elements"

/-- What the rule expects, in words. -/
def CheckRule.text : CheckRule → String
  | .integerRange bounds => s!"value in {bounds.min}..{bounds.max}"
  | .realRange bounds =>
    let low := Layout.plain.text bounds.min
    let high := Layout.plain.text bounds.max
    s!"value in {low}..{high}"
  | .size bounds unit =>
    let label := unit.label
    if bounds.isFixed then s!"SIZE({bounds.minSize}) {label}"
    else s!"SIZE({bounds.minSize}..{bounds.maxSize}) {label}"
  | .characterString bounds => s!"IA5 characters, SIZE({bounds.minSize}..{bounds.maxSize})"
  | .enumeratedValues values =>
    let listed := joined ", " (values.map fun value => s!"{value}")
    s!"one of \x7b{listed}\x7d"
  | .isBoolean => "boolean value"
  | .isNull => "NULL value"
  | .mandatoryFields mandatory _ =>
    let listed := joined ", " mandatory
    s!"components present: {listed}"
  | .singleAlternative alternatives =>
    let listed := joined ", " alternatives
    s!"one alternative of: {listed}"

namespace ValidationPlan

/-- Every check that carries the id, in plan order. -/
def checksFor (plan : ValidationPlan) (id : ConstraintId) : List Check :=
  plan.checks.filter fun check => check.id == id

def check? (plan : ValidationPlan) (id : ConstraintId) : Option Check :=
  (plan.checksFor id).head?

def distinctIds : List ConstraintId → List ConstraintId → List ConstraintId
  | _, [] => []
  | seen, id :: rest =>
    if seen.contains id then distinctIds seen rest else id :: distinctIds (id :: seen) rest

/-- The ids of the plan in order of first occurrence. -/
def ids (plan : ValidationPlan) : List ConstraintId := distinctIds [] (plan.checks.map (·.id))

end ValidationPlan

end Asn1Constraints
