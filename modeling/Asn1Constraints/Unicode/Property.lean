import Asn1Constraints.Unicode.Age
import Asn1Constraints.Unicode.Break
import Asn1Constraints.Unicode.Script
import Asn1Constraints.Unicode.Trait

/-!
Sets of characters by the names of properties. Names are compared loosely:
case, blanks, hyphens, underscores, characters outside ASCII and a leading `is`
do not count.
-/

namespace Asn1Constraints.CodePoints

def isLoose (c : Char) : Bool := c == ' ' || c == '_' || c == '-' || 0x7f < c.toNat

def looseName (name : List Char) : List Char :=
  let kept (chars : List Char) : List Char :=
    (chars.filter fun c => !isLoose c).map Char.toLower
  match name with
  | i :: s :: rest =>
    if i.toLower = 'i' && s.toLower = 's' then
      -- this one is short for a property of its own
      if kept rest = ['c'] then ['i', 's', 'c'] else kept rest
    else kept name
  | _ => kept name

def isNamed (name : List Char) (names : List String) : Bool :=
  names.any fun other => looseName other.toList == name

/-- The entry of a table that goes by a loose name. -/
def row? {α : Type} (name : List Char) (table : List (List String × α)) :
    Option (List String × α) :=
  table.find? fun row => isNamed name row.1

def category? (name : List Char) : Option CodePoints :=
  if name = "any".toList then some all
  else if name = "assigned".toList then some assigned
  else if name = "ascii".toList then some (range 0 0x7f)
  else (row? name categoryNames).map fun row => ofCodes row.2

def script? (name : List Char) : Option CodePoints :=
  (row? name scriptTable).map fun row => ofLines row.2

/-- The characters in use with a script. -/
def usedWith? (name : List Char) : Option CodePoints :=
  (row? name scriptTable).map fun row =>
    ofLines ((row.1.head?.bind fun script => sharedTable.lookup script).getD row.2)

def trait? (name : List Char) : Option CodePoints :=
  match row? name derivedTraits with
  | some row => some (row.2 ())
  | none => (row? name traitTable).map fun row => ofLines row.2

/-- A version may be written with a dot, or behind the letter V without one. -/
def isVersion (name : List Char) (version : String) : Bool :=
  name == version.toList || name == 'v' :: version.toList.filter (· != '.')

/-- All that a version has, not only what it added. -/
def age? (name : List Char) : Option CodePoints :=
  let later := ageTable.dropWhile fun row => !isVersion name row.1
  if later = [] then none
  else
    let earlier := ageTable.take (ageTable.length + 1 - later.length)
    some (unions (earlier.map fun row => ofLines row.2))

def cut? (table : List (List String × List String)) (name : List Char) : Option CodePoints :=
  (row? name table).map fun row => ofLines row.2

def graphemeCut? (name : List Char) : Option CodePoints :=
  if name = "lv".toList then some twoJamos
  else if name = "lvt".toList then some threeJamos
  else cut? graphemeTable name

/-- A set that one name stands for: a trait, a category or a script. -/
def ofName? (name : List Char) : Option CodePoints :=
  let name := looseName name
  ((trait? name).orElse fun _ => category? name).orElse fun _ => script? name

/-- A set given by a property and one of its values. -/
def ofValue? (property value : List Char) : Option CodePoints :=
  let property := looseName property
  let value := looseName value
  let isOne (names : List String) : Bool := isNamed property names
  if isOne ["General_Category", "gc"] then category? value
  else if isOne ["Script", "sc"] then script? value
  else if isOne ["Script_Extensions", "scx"] then usedWith? value
  else if isOne ["Age"] then age? value
  else if isOne ["Grapheme_Cluster_Break", "GCB"] then graphemeCut? value
  else if isOne ["Word_Break", "WB"] then cut? wordTable value
  else if isOne ["Sentence_Break", "SB"] then cut? sentenceTable value
  else none

end Asn1Constraints.CodePoints
