import Asn1Constraints.Value.Basic

/-!
Two texts of a value: a summary that names what was found in one sentence, and
a dump that shows all of it.
-/

namespace Asn1Constraints

def joined (separator : String) (parts : List String) : String :=
  String.intercalate separator parts

def booleanText (b : Bool) : String := if b then "true" else "false"

namespace Value

def summary : Value → String
  | .integer n => s!"{n}"
  | .real x => Layout.plain.text x
  | .boolean b => booleanText b
  | .null => "NULL"
  | .enumerated n => s!"enumerated({n})"
  | .octetString bytes => s!"{bytes.length} bytes"
  | .bitString bits => s!"{bits.length} bits"
  | .ia5String text => Text.quoted text
  | .sequenceOf items => s!"{items.length} elements"
  | .sequence components =>
    let names := joined ", " (components.map (·.1))
    s!"\x7b{names}\x7d"
  | .choice alternative _ => s!"choice({alternative})"

mutual

def dump : Value → String
  | .integer n => s!"Integer({n})"
  | .real x =>
    let digits := Layout.dump.text x
    s!"Real({digits})"
  | .boolean b =>
    let word := booleanText b
    s!"Boolean({word})"
  | .null => "Null"
  | .enumerated n => s!"Enumerated({n})"
  | .octetString bytes =>
    let shown := joined ", " (bytes.map fun byte => s!"{byte}")
    s!"OctetString([{shown}])"
  | .bitString bits =>
    let shown := joined ", " (bits.map booleanText)
    s!"BitString([{shown}])"
  | .ia5String text =>
    let shown := Text.quoted text
    s!"Ia5String({shown})"
  | .sequenceOf items =>
    let shown := joined ", " (dumpItems items)
    s!"SequenceOf([{shown}])"
  | .sequence components =>
    let shown := joined ", " (dumpComponents components)
    s!"Sequence([{shown}])"
  | .choice alternative value =>
    let name := Text.quoted alternative
    let shown := value.dump
    s!"Choice \x7b alternative: {name}, value: {shown} \x7d"

def dumpItems : List Value → List String
  | [] => []
  | item :: rest => item.dump :: dumpItems rest

def dumpComponents : List (String × Value) → List String
  | [] => []
  | (name, value) :: rest =>
    let key := Text.quoted name
    let shown := value.dump
    s!"({key}, {shown})" :: dumpComponents rest

end

end Value

end Asn1Constraints
