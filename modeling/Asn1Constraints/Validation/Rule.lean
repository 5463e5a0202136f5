import Asn1Constraints.Plan.Basic
import Asn1Constraints.Text.NameSet

/-!
One rule against one value. A rule that is not met says what was found instead;
a value of another kind than the rule is about never meets it.
-/

namespace Asn1Constraints

/-- What was found where a rule is not met. -/
inductive Finding where
  | wrongKind (value : Value)
  | integer (n : Int64)
  | real (x : Binary64)
  | size (length : Nat) (unit : SizeUnit)
  | characters (length : Nat)
  | foreignCharacter (c : Char)
  | enumerated (n : Int64)
  | missingComponent (name : String)
  | undeclaredComponent (name : String)
  | repeatedComponent (name : String)
  | undeclaredAlternative (name : String)

def Finding.text : Finding → String
  | .wrongKind value => s!"{value.kindLabel} value {value.summary}"
  | .integer n => s!"{n}"
  | .real x => Layout.plain.text x
  | .size length unit => s!"{length} {unit.label}"
  | .characters length => s!"{length} characters"
  | .foreignCharacter c =>
    let shown := Text.quotedChar c
    s!"non-IA5 character {shown}"
  | .enumerated n => s!"enumerated({n})"
  | .missingComponent name => s!"missing component '{name}'"
  | .undeclaredComponent name => s!"undeclared component '{name}'"
  | .repeatedComponent name => s!"duplicate component '{name}'"
  | .undeclaredAlternative name => s!"undeclared alternative '{name}'"

def isIa5 (c : Char) : Bool := c.toNat < 0x80

def findingUnless (met : Bool) (finding : Finding) : Option Finding :=
  if met then none else some finding

namespace CheckRule

def sizeFinding? (bounds : SizeBounds) (unit : SizeUnit) (value : Value) : Option Finding :=
  match unit, value with
  | .bytes, .octetString bytes =>
    findingUnless (bounds.contains bytes.length) (.size bytes.length unit)
  | .bits, .bitString bits => findingUnless (bounds.contains bits.length) (.size bits.length unit)
  | .elements, .sequenceOf items =>
    findingUnless (bounds.contains items.length) (.size items.length unit)
  | _, _ => some (.wrongKind value)

def textFinding? (bounds : SizeBounds) (text : String) : Option Finding :=
  match text.toList.find? (!isIa5 ·) with
  | some c => some (.foreignCharacter c)
  | none => findingUnless (bounds.contains text.length) (.characters text.length)

def componentsFinding? (mandatory declared names : List String) : Option Finding :=
  match mandatory.find? (!names.contains ·) with
  | some name => some (.missingComponent name)
  | none =>
    match names.find? (!declared.contains ·) with
    | some name => some (.undeclaredComponent name)
    | none => (repeatedName? [] names).map .repeatedComponent

/-- What is wrong with a value by a rule, if anything is. -/
def finding? (rule : CheckRule) (value : Value) : Option Finding :=
  match rule, value with
  | .integerRange bounds, .integer n => findingUnless (bounds.contains n) (.integer n)
  | .realRange bounds, .real x => findingUnless (bounds.contains x) (.real x)
  | .size bounds unit, value => sizeFinding? bounds unit value
  | .characterString bounds, .ia5String text => textFinding? bounds text
  | .enumeratedValues values, .enumerated n => findingUnless (values.contains n) (.enumerated n)
  | .isBoolean, .boolean _ => none
  | .isNull, .null => none
  | .mandatoryFields mandatory declared, .sequence components =>
    componentsFinding? mandatory declared (components.map (·.1))
  | .singleAlternative alternatives, .choice name _ =>
    findingUnless (alternatives.contains name) (.undeclaredAlternative name)
  | _, value => some (.wrongKind value)

end CheckRule

end Asn1Constraints
